import AccessControl.Json.Basic

/-!
# JSON documents

A document is the tree of a JSON text as it was written: members stand in their written order and
may repeat. A string or a number can be grammatical and still have no value, as a lone surrogate
or a number out of range has none; such a leaf holds `none`. Whoever skips a part of a document
never asks for its value, so a leaf without one does no harm there.

`value?` is the JSON value of a whole document. It exists when every leaf has a value and arrays
and objects nest at most `maxDepth` deep. `ofValue` is the document of a value.
-/

namespace AccessControl.Json

inductive Document where
  | null
  | bool (b : Bool)
  | number (n : Option Number)
  | string (s : Option String)
  | array (items : List Document)
  | object (members : List (Option String × Document))
deriving Inhabited

namespace Document

def maxDepth : Nat := 127

mutual

/-- The value of a document that nests at most `depth` deep. -/
def valueWithin (depth : Nat) : Document → Option Json
  | .null => some .null
  | .bool b => some (.bool b)
  | .number n => n.map .number
  | .string s => s.map .string
  | .array items =>
    if depth = 0 then none else (itemsWithin (depth - 1) items).map .array
  | .object members =>
    if depth = 0 then none
    else (membersWithin (depth - 1) members).map fun list => .object (Entries.ofList list)

def itemsWithin (depth : Nat) : List Document → Option (List Json)
  | [] => some []
  | item :: rest =>
    match valueWithin depth item, itemsWithin depth rest with
    | some value, some values => some (value :: values)
    | _, _ => none

def membersWithin (depth : Nat) : List (Option String × Document) → Option (List (String × Json))
  | [] => some []
  | (key, item) :: rest =>
    match key, valueWithin depth item, membersWithin depth rest with
    | some key, some value, some values => some ((key, value) :: values)
    | _, _, _ => none

end

def value? (doc : Document) : Option Json := valueWithin maxDepth doc

mutual

def ofValue : Json → Document
  | .null => .null
  | .bool b => .bool b
  | .number n => .number (some n)
  | .string s => .string (some s)
  | .array items => .array (ofItems items)
  | .object members => .object (ofMembers members)

def ofItems : List Json → List Document
  | [] => []
  | item :: rest => ofValue item :: ofItems rest

def ofMembers : List (String × Json) → List (Option String × Document)
  | [] => []
  | (key, value) :: rest => (some key, ofValue value) :: ofMembers rest

end

@[simp] theorem ofItems_cons (item : Json) (rest : List Json) :
    ofItems (item :: rest) = ofValue item :: ofItems rest := rfl

@[simp] theorem ofMembers_cons (key : String) (value : Json) (rest : List (String × Json)) :
    ofMembers ((key, value) :: rest) = (some key, ofValue value) :: ofMembers rest := rfl

end Document

end AccessControl.Json
