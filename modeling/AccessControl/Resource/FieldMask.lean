import AccessControl.Error
import AccessControl.Json.Basic
import AccessControl.Text.Blank
import AccessControl.Text.Split

/-!
# Field masks

A mask selects fields of a message by dotted paths. `parse` sorts the paths by their segments,
drops repeated ones and those that a shorter path covers, and keeps apart whether `*` was among
them. `select` copies the selected fields into a new object: every path by itself, merged one after
the other. A null on the way is kept as a null at the end of the path. The wildcard selects the
texts, numbers and truth values at the top of the message, as texts.
-/

namespace AccessControl

structure FieldMask where
  paths : List (List String)
  wildcard : Bool
deriving DecidableEq, Inhabited

namespace FieldMask

/-- The path that stands for every scalar field. -/
def star : String := "*"

/-- The order of paths: segment by segment, a shorter path before its extensions. -/
def precedes : List String → List String → Bool
  | [], [] => false
  | [], _ :: _ => true
  | _ :: _, [] => false
  | a :: as, b :: bs => if a = b then precedes as bs else decide (a < b)

def insertPath (path : List String) : List (List String) → List (List String)
  | [] => [path]
  | other :: rest =>
    if path = other then other :: rest
    else if precedes path other then path :: other :: rest
    else other :: insertPath path rest

def sortPaths (paths : List (List String)) : List (List String) :=
  paths.foldr insertPath []

/-- Drops the paths that the one kept last covers. -/
def dropCovered (kept : List String) : List (List String) → List (List String)
  | [] => []
  | path :: rest =>
    if kept.isPrefixOf path then dropCovered kept rest else path :: dropCovered path rest

def minimalPaths : List (List String) → List (List String)
  | [] => []
  | path :: rest => path :: dropCovered path rest

/-- The segments of a path, if none is empty. -/
def segments? (path : String) : Except MaskError (List String) :=
  let segments := Text.splitOn '.' path
  if segments.any String.isEmpty then .error (.emptySegment path) else .ok segments

/-- The mask of a list of paths, blanks around them removed. -/
def parse (paths : List String) : Except MaskError FieldMask :=
  let trimmed := paths.map Text.trim
  match (trimmed.filter (· ≠ star)).mapM segments? with
  | .error error => .error error
  | .ok list => .ok ⟨minimalPaths (sortPaths list), trimmed.contains star⟩

def isEmpty (mask : FieldMask) : Bool := mask.paths.isEmpty && !mask.wildcard

/-- The paths in dotted form, the wildcard first. -/
def render (mask : FieldMask) : List String :=
  let dotted := mask.paths.map fun path => ".".intercalate path
  if mask.wildcard then star :: dotted else dotted

def scalarText? : Json → Option String
  | .string s => some s
  | .number n => some n.text
  | .bool b => some (if b then "true" else "false")
  | _ => none

def nullAlong : List String → Json
  | [] => .null
  | segment :: rest => .object [(segment, nullAlong rest)]

/-- The value at a path of an object with the given members. The full path is for the error. -/
def selectPath (full : List String) (members : Entries Json) : List String →
    Except MaskError (Entries Json)
  | [] => .ok []
  | head :: rest =>
    let unknown := fun field => Except.error (.unknownField (".".intercalate full) field)
    match members.get? head with
    | none => unknown head
    | some value =>
      match rest, value with
      | [], value => .ok [(head, value)]
      | _ :: _, .object children =>
        (selectPath full children rest).map fun selected => [(head, .object selected)]
      | _ :: _, .null => .ok [(head, nullAlong rest)]
      | next :: _, _ => unknown next

mutual

/-- Merges members into an object: objects under one key are merged, all else is replaced. -/
def merge (out : Entries Json) : List (String × Json) → Entries Json
  | [] => out
  | (key, value) :: rest => merge (out.put key (mergeValue (out.get? key) value)) rest

def mergeValue (old : Option Json) : Json → Json
  | .object incoming =>
    match old with
    | some (.object existing) => .object (merge existing incoming)
    | _ => .object incoming
  | value => value

end

def scalarFields (members : Entries Json) : Entries Json :=
  members.filterMap fun (key, value) => (scalarText? value).map fun text => (key, .string text)

def select (mask : FieldMask) : Json → Except MaskError (Entries Json)
  | .object members =>
    mask.paths.foldlM
      (fun out path => (selectPath path members path).map fun selected => merge out selected)
      (if mask.wildcard then scalarFields members else [])
  | _ => .error .notAnObject

@[simp] theorem merge_nil (out : Entries Json) : merge out [] = out := by
  simp [merge]

end FieldMask

end AccessControl
