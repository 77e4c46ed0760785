import AccessControl.Json.Basic
import AccessControl.Bytes.Hex
import AccessControl.Protobuf.Wire

/-!
# Tagged values

A tagged value is a JSON value as a message: one of six kinds, or none. All its numbers are
doubles, so an integer becomes the double nearest to it. A value that is read back keeps
everything else; a number that is not finite, and a value without a kind, becomes null.
-/

namespace AccessControl.Protobuf

inductive Value where
  | unset
  | null (code : Int)
  | number (d : Double)
  | string (s : String)
  | bool (b : Bool)
  | struct (fields : List (String × Value))
  | list (items : List Value)
deriving Inhabited

namespace Value

mutual

def ofJson : Json → Value
  | .null => .null 0
  | .bool b => .bool b
  | .number n => .number n.toDouble
  | .string s => .string s
  | .array items => .list (ofItems items)
  | .object members => .struct (ofMembers members)

def ofItems : List Json → List Value
  | [] => []
  | item :: rest => ofJson item :: ofItems rest

def ofMembers : List (String × Json) → List (String × Value)
  | [] => []
  | (key, value) :: rest => (key, ofJson value) :: ofMembers rest

end

mutual

def toJson : Value → Json
  | .unset => .null
  | .null _ => .null
  | .number d => if d.isFinite then .number (.double d) else .null
  | .string s => .string s
  | .bool b => .bool b
  | .struct fields => .object (toMembers fields)
  | .list items => .array (toItems items)

def toItems : List Value → List Json
  | [] => []
  | item :: rest => toJson item :: toItems rest

def toMembers : List (String × Value) → List (String × Json)
  | [] => []
  | (key, value) :: rest => (key, toJson value) :: toMembers rest

end

def twosComplement (n : Int) : Nat := (n % 18446744073709551616).toNat

mutual

/-- The message of a value. Every kind is written, even with a default inside. -/
def encode : Value → List UInt8
  | .unset => []
  | .null code => key 1 0 ++ varint (twosComplement code)
  | .number d => key 2 1 ++ Bytes.littleEndian 8 d.bits.toNat
  | .string s => text 3 s
  | .bool b => key 4 0 ++ varint b.toNat
  | .struct fields => counted 5 (encodeFields fields)
  | .list items => counted 6 (encodeItems items)

def encodeItems : List Value → List UInt8
  | [] => []
  | item :: rest => counted 1 (encode item) ++ encodeItems rest

/-- The message of a map from names to values. An entry leaves out an empty name and a value
without a kind. -/
def encodeFields : List (String × Value) → List UInt8
  | [] => []
  | (name, value) :: rest =>
    let body := encode value
    counted 1 (textField 1 name ++ if body.isEmpty then [] else counted 2 body) ++
      encodeFields rest

end

theorem ofItems_eq_map (items : List Json) : ofItems items = items.map ofJson := by
  induction items with
  | nil => rfl
  | cons item rest ih => simp [ofItems, ih]

theorem ofMembers_eq_map (members : List (String × Json)) :
    ofMembers members = members.map fun member => (member.1, ofJson member.2) := by
  induction members with
  | nil => rfl
  | cons member rest ih => simp [ofMembers, ih]

theorem toItems_eq_map (items : List Value) : toItems items = items.map toJson := by
  induction items with
  | nil => rfl
  | cons item rest ih => simp [toItems, ih]

theorem toMembers_eq_map (fields : List (String × Value)) :
    toMembers fields = fields.map fun field => (field.1, toJson field.2) := by
  induction fields with
  | nil => rfl
  | cons field rest ih => simp [toMembers, ih]

end Value

end AccessControl.Protobuf
