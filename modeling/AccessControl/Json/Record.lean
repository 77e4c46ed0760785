import AccessControl.Json.Document

/-!
# Reading records

A record is written as an object of its fields or as an array of them in a fixed order. In the
object form a field may stand at most once, and a strict record admits no other members. In the
array form trailing fields may be missing. `fields?` brings both forms to one list, in the order
of the given names, in which a missing field is `none`; what a missing field means is then up to
`required` and `withDefault`.
-/

namespace AccessControl.Json.Document

/-- The single member with a name, `some none` if there is none and `none` if it is repeated. -/
def member? (members : List (Option String × Document)) (name : String) :
    Option (Option Document) :=
  match members.filter fun m => m.1 == some name with
  | [] => some none
  | [(_, doc)] => some (some doc)
  | _ => none

def fields? (names : List String) (strict : Bool) : Document → Option (List (Option Document))
  | .object members =>
    if members.any fun m => m.1.isNone then none
    else if strict && members.any fun m => !names.contains (m.1.getD "") then none
    else names.mapM (member? members)
  | .array items =>
    if items.length ≤ names.length then
      some (items.map some ++ List.replicate (names.length - items.length) none)
    else none
  | _ => none

def required {α : Type} (read : Document → Option α) : Option Document → Option α
  | none => none
  | some doc => read doc

def withDefault {α : Type} (read : Document → Option α) (default : α) :
    Option Document → Option α
  | none => some default
  | some doc => read doc

def nullable {α : Type} (read : Document → Option α) : Document → Option (Option α)
  | .null => some none
  | doc => (read doc).map some

def text? : Document → Option String
  | .string s => s
  | _ => none

def bool? : Document → Option Bool
  | .bool b => some b
  | _ => none

/-- A natural number below `2 ^ 64`. -/
def word? : Document → Option Nat
  | .number (some (.int n)) => if 0 ≤ n && n.toNat < UInt64.size then some n.toNat else none
  | _ => none

def list? {α : Type} (read : Document → Option α) : Document → Option (List α)
  | .array items => items.mapM read
  | _ => none

/-- A map from texts; the last of several members with one key stays. -/
def entries? {α : Type} (read : Document → Option α) : Document → Option (Entries α)
  | .object members =>
    (members.mapM fun (m : Option String × Document) =>
      match m.1, read m.2 with
      | some key, some value => some (key, value)
      | _, _ => none).map Entries.ofList
  | _ => none

/-- One of a fixed set of names, alone or as the only member of an object whose value is null. -/
def variant? {α : Type} (names : Entries α) : Document → Option α
  | .string (some s) => names.get? s
  | .object [(some s, .null)] => names.get? s
  | _ => none

end AccessControl.Json.Document
