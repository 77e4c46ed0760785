import AccessControl.Text.CaseTable

/-!
# Full lower-casing

`lowercase` maps every character to its lower-case form. Two rules go beyond single characters:
`İ` becomes an `i` followed by a combining dot, and `Σ` becomes the final form `ς` at the end of a
word. A sigma ends a word when the nearest character before it that is not case-ignorable is cased
and the nearest such character after it is not.
-/

namespace AccessControl.Text

/-- The capital sigma, whose lower-case form depends on its place in the word. -/
def capitalSigma : Char := '\u03A3'

def lowerChar (c : Char) : List Char :=
  if c.toNat < 0x80 then [c.toLower]
  else if c = '\u0130' then ['i', '\u0307']
  else
    match lowerRuns.find? fun (first, last, step, _) =>
        first ≤ c.toNat && c.toNat ≤ last && (c.toNat - first) % step == 0 with
    | none => [c]
    | some (_, _, _, shift) => [Char.ofNat (Int.ofNat c.toNat + shift).toNat]

/-- Whether the first character that is not case-ignorable is cased. -/
def meetsCased (cs : List Char) : Bool :=
  match cs.dropWhile (inRanges ignorableRanges) with
  | [] => false
  | c :: _ => inRanges casedRanges c

/-- Lower-cases the second list; the first holds the characters before it, nearest first. -/
def lowerAfter (before : List Char) : List Char → List Char
  | [] => []
  | c :: cs =>
    (if c = capitalSigma then
      [if meetsCased before && !meetsCased cs then '\u03C2' else '\u03C3']
    else lowerChar c) ++ lowerAfter (c :: before) cs

def lowercase (s : String) : String :=
  String.ofList (lowerAfter [] s.toList)

def asciiUppercase (s : String) : String :=
  String.ofList (s.toList.map Char.toUpper)

def asciiLowercase (s : String) : String :=
  String.ofList (s.toList.map Char.toLower)

def eqIgnoringCase (s t : String) : Bool :=
  asciiLowercase s == asciiLowercase t

end AccessControl.Text
