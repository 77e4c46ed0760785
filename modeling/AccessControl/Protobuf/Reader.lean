import AccessControl.Text.Utf8

/-!
# Reading messages

A message is read field by field. `readFields` reads the key of each field and hands the layout and
the bytes behind it to a reader for its number, which gives back what it left. Unknown fields are
passed over, groups among them only a limited number of levels deep.

A nested message is read in place. Its fields may run past its end, which is noticed only when the
last of them is over, so that the first fault in the order of the bytes is the one reported.
-/

namespace AccessControl.Protobuf

inductive Layout where
  | varint
  | fixed64
  | counted
  | groupStart
  | groupEnd
  | fixed32
deriving DecidableEq, Inhabited

inductive Fault where
  | badVarint
  | badKey (key : Nat)
  | badLayout (code : Nat)
  | badNumber
  | unexpectedLayout (actual expected : Layout)
  | underflow
  | overrun
  | strayGroupEnd
  | tooDeep
  | notUtf8
deriving DecidableEq, Inhabited

/-- A fault and the fields in which it was met, the innermost first. -/
structure ReadError where
  fault : Fault
  fields : List String
deriving DecidableEq, Inhabited

def Layout.ofCode? : Nat → Option Layout
  | 0 => some varint
  | 1 => some fixed64
  | 2 => some counted
  | 3 => some groupStart
  | 4 => some groupEnd
  | 5 => some fixed32
  | _ => none

def Layout.label : Layout → String
  | varint => "Varint"
  | fixed64 => "SixtyFourBit"
  | counted => "LengthDelimited"
  | groupStart => "StartGroup"
  | groupEnd => "EndGroup"
  | fixed32 => "ThirtyTwoBit"

def Fault.message : Fault → String
  | badVarint => "invalid varint"
  | badKey key => "invalid key value: " ++ toString key
  | badLayout code => "invalid wire type value: " ++ toString code
  | badNumber => "invalid tag value: 0"
  | unexpectedLayout actual expected =>
    "invalid wire type: " ++ actual.label ++ " (expected " ++ expected.label ++ ")"
  | underflow => "buffer underflow"
  | overrun => "delimited length exceeded"
  | strayGroupEnd => "unexpected end group tag"
  | tooDeep => "recursion limit reached"
  | notUtf8 => "invalid string value: data is not UTF-8 encoded"

def ReadError.message (error : ReadError) : String :=
  "failed to decode Protobuf message: " ++
    String.join (error.fields.map fun field => field ++ ": ") ++ error.fault.message

/-- Reads a varint of at most the given count of bytes; nothing may reach beyond 64 bits. -/
def varintWithin : Nat → List UInt8 → Except Fault (Nat × List UInt8)
  | 0, _ => .error .badVarint
  | _ + 1, [] => .error .badVarint
  | left + 1, b :: rest =>
    if b < 128 then if left = 0 && 2 ≤ b then .error .badVarint else .ok (b.toNat, rest)
    else (varintWithin left rest).map fun (n, rest) => (b.toNat - 128 + 128 * n, rest)

def readVarint (bytes : List UInt8) : Except Fault (Nat × List UInt8) := varintWithin 10 bytes

/-- Reads a key: a field number, which is not zero, and a layout. -/
def readKey (bytes : List UInt8) : Except Fault (Nat × Layout × List UInt8) := do
  let (key, rest) ← readVarint bytes
  if UInt32.size ≤ key then .error (.badKey key)
  else
    match Layout.ofCode? (key % 8) with
    | none => .error (.badLayout (key % 8))
    | some layout => if key / 8 = 0 then .error .badNumber else .ok (key / 8, layout, rest)

def expect (expected actual : Layout) : Except Fault Unit :=
  if actual = expected then .ok () else .error (.unexpectedLayout actual expected)

def takeBytes (count : Nat) (bytes : List UInt8) : Except Fault (List UInt8 × List UInt8) :=
  if bytes.length < count then .error .underflow else .ok (bytes.take count, bytes.drop count)

def readCounted (bytes : List UInt8) : Except Fault (List UInt8 × List UInt8) := do
  let (count, rest) ← readVarint bytes
  takeBytes count rest

def readText (layout : Layout) (bytes : List UInt8) : Except Fault (String × List UInt8) := do
  expect .counted layout
  let (payload, rest) ← readCounted bytes
  match Text.ofUtf8? payload with
  | some text => .ok (text, rest)
  | none => .error .notUtf8

/-- Reads a flag: any number but zero is true. -/
def readFlag (layout : Layout) (bytes : List UInt8) : Except Fault (Bool × List UInt8) := do
  expect .varint layout
  let (n, rest) ← readVarint bytes
  .ok (n != 0, rest)

mutual

/-- Passes over a value. The first number bounds the reading, the second the depth of groups. -/
def skipValue : Nat → Nat → Nat → Layout → List UInt8 → Except Fault (List UInt8)
  | 0, _, _, _, _ => .error .tooDeep
  | _ + 1, 0, _, _, _ => .error .tooDeep
  | fuel + 1, depth + 1, number, layout, bytes =>
    match layout with
    | .varint => (readVarint bytes).map (·.2)
    | .fixed64 => (takeBytes 8 bytes).map (·.2)
    | .counted => (readCounted bytes).map (·.2)
    | .groupStart => skipGroup fuel depth number bytes
    | .groupEnd => .error .strayGroupEnd
    | .fixed32 => (takeBytes 4 bytes).map (·.2)

def skipGroup : Nat → Nat → Nat → List UInt8 → Except Fault (List UInt8)
  | 0, _, _, _ => .error .tooDeep
  | fuel + 1, depth, number, bytes =>
    match readKey bytes with
    | .error fault => .error fault
    | .ok (inner, .groupEnd, rest) =>
      if inner = number then .ok rest else .error .strayGroupEnd
    | .ok (inner, layout, rest) =>
      match skipValue fuel depth inner layout rest with
      | .error fault => .error fault
      | .ok rest => skipGroup fuel depth number rest

end

/-- How many levels deep groups may be nested in a message that is not nested itself. -/
def maxDepth : Nat := 100

def ReadError.bare (fault : Fault) : ReadError := ⟨fault, []⟩

def inField {α : Type} (field : String) (value : Except ReadError α) : Except ReadError α :=
  value.mapError fun error => { error with fields := error.fields ++ [field] }

/-- Takes up a field: from its number, its layout and the bytes behind its key, and from what has
been read before it. -/
abbrev FieldReader (α : Type) :=
  Nat → Layout → List UInt8 → α → Except ReadError (α × List UInt8)

def skipField {α : Type} (depth : Nat) : FieldReader α := fun number layout bytes value =>
  match skipValue (2 * bytes.length + 2) depth number layout bytes with
  | .ok rest => .ok (value, rest)
  | .error fault => .error (.bare fault)

/-- Reads fields until no more than `stop` bytes are left. Every field takes at least one byte, so
the count of bytes bounds their number. -/
def readFields {α : Type} (field : FieldReader α) (stop : Nat) :
    Nat → List UInt8 → α → Except ReadError (α × List UInt8)
  | 0, bytes, value => .ok (value, bytes)
  | fuel + 1, bytes, value =>
    if bytes.length ≤ stop then .ok (value, bytes)
    else
      match readKey bytes with
      | .error fault => .error (.bare fault)
      | .ok (number, layout, rest) =>
        match field number layout rest value with
        | .error error => .error error
        | .ok (value, rest) => readFields field stop fuel rest value

def readMessage {α : Type} (field : FieldReader α) (start : α) (bytes : List UInt8) :
    Except ReadError α :=
  (readFields field 0 bytes.length bytes start).map (·.1)

def readNested {α : Type} (field : FieldReader α) (start : α) (layout : Layout)
    (bytes : List UInt8) : Except ReadError (α × List UInt8) := do
  (expect .counted layout).mapError .bare
  let (count, rest) ← (readVarint bytes).mapError .bare
  if rest.length < count then .error (.bare .underflow)
  else
    let stop := rest.length - count
    let (value, rest) ← readFields field stop rest.length rest start
    if rest.length = stop then .ok (value, rest) else .error (.bare .overrun)

@[simp] theorem expect_self (layout : Layout) : expect layout layout = .ok () := by
  simp [expect]

end AccessControl.Protobuf
