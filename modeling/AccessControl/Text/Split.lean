/-!
# Splitting at a separator

`splitList d cs` cuts a list of characters at every `d`. There is always one piece more than there
are separators, so empty pieces are kept and the empty list has one empty piece. `splitOnce` cuts
at the first separator only, and `rsplitOnce` at the last.
-/

namespace AccessControl.Text

/-- The pieces between the separators, empty ones included. -/
def splitList (d : Char) : List Char → List (List Char)
  | [] => [[]]
  | c :: cs =>
    if c = d then [] :: splitList d cs
    else
      match splitList d cs with
      | [] => [[c]]
      | piece :: pieces => (c :: piece) :: pieces

def splitOn (d : Char) (s : String) : List String :=
  (splitList d s.toList).map String.ofList

/-- The parts before and after the first character of a class, which is dropped. -/
def splitOnce (p : Char → Bool) (cs : List Char) : Option (List Char × List Char) :=
  match cs.dropWhile (fun c => !p c) with
  | [] => none
  | _ :: rest => some (cs.takeWhile (fun c => !p c), rest)

/-- The parts before and after the last copy of a character, which is dropped. -/
def rsplitOnce (d : Char) (cs : List Char) : Option (List Char × List Char) :=
  match splitOnce (· == d) cs.reverse with
  | none => none
  | some (after, before) => some (before.reverse, after.reverse)

@[simp] theorem splitList_nil (d : Char) : splitList d [] = [[]] := rfl

@[simp] theorem splitList_cons_self (d : Char) (cs : List Char) :
    splitList d (d :: cs) = [] :: splitList d cs := by
  simp [splitList]

theorem splitList_ne_nil (d : Char) (cs : List Char) : splitList d cs ≠ [] := by
  cases cs with
  | nil => simp
  | cons c cs =>
    simp only [splitList]
    split
    · simp
    · split <;> simp

end AccessControl.Text
