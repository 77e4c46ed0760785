import AccessControl.Entries
import AccessControl.Double.Shortest

/-!
# JSON values

A number is an integer or a double; the two are kept apart even where they are numerically equal.
The members of an object are entries in the order of their keys, without repetition: `canonical`
brings any value into this form and `Canonical` says that a value has it.
-/

namespace AccessControl

inductive Json.Number where
  | int (n : Int)
  | double (d : Double)
deriving DecidableEq, Inhabited

inductive Json where
  | null
  | bool (b : Bool)
  | number (n : Json.Number)
  | string (s : String)
  | array (items : List Json)
  | object (members : List (String × Json))
deriving Inhabited

namespace Json

def Number.text : Number → String
  | .int n => toString n
  | .double d => d.text

def Number.toDouble : Number → Double
  | .int n => .ofInt n
  | .double d => d

def string? : Json → Option String
  | .string s => some s
  | _ => none

def isObject : Json → Bool
  | .object _ => true
  | _ => false

def ofInt (n : Int) : Json := .number (.int n)

def ofStrings (list : List String) : Json := .array (list.map .string)

def ofString? : Option String → Json
  | none => .null
  | some s => .string s

mutual

/-- The value with the members of every object sorted and the last of repeated ones kept. -/
def canonical : Json → Json
  | .null => .null
  | .bool b => .bool b
  | .number n => .number n
  | .string s => .string s
  | .array items => .array (canonicalItems items)
  | .object members => .object (Entries.ofList (canonicalMembers members))

def canonicalItems : List Json → List Json
  | [] => []
  | item :: rest => canonical item :: canonicalItems rest

def canonicalMembers : List (String × Json) → List (String × Json)
  | [] => []
  | (key, value) :: rest => (key, canonical value) :: canonicalMembers rest

end

mutual

/-- Every object in the value has strictly increasing keys. -/
def Canonical : Json → Prop
  | .null => True
  | .bool _ => True
  | .number _ => True
  | .string _ => True
  | .array items => CanonicalItems items
  | .object members => Entries.Sorted members ∧ CanonicalMembers members

def CanonicalItems : List Json → Prop
  | [] => True
  | item :: rest => Canonical item ∧ CanonicalItems rest

def CanonicalMembers : List (String × Json) → Prop
  | [] => True
  | (_, value) :: rest => Canonical value ∧ CanonicalMembers rest

end

end Json

end AccessControl
