import AccessControl.Text.Utf8

/-!
# Writing messages

A message is a sequence of numbered fields. Each starts with a key, which holds its number and the
layout of its value. Fields with default values are left out, unless they stand in a list.
-/

namespace AccessControl.Protobuf

/-- A number in groups of seven bits, the lowest first; all bytes but the last have the high bit
set. -/
def varint (n : Nat) : List UInt8 :=
  if n < 128 then [UInt8.ofNat n] else UInt8.ofNat (n % 128 + 128) :: varint (n / 128)

def key (number wire : Nat) : List UInt8 := varint (8 * number + wire)

def counted (number : Nat) (payload : List UInt8) : List UInt8 :=
  key number 2 ++ varint payload.length ++ payload

/-- A text that is written even if it is empty. -/
def text (number : Nat) (s : String) : List UInt8 := counted number (Text.utf8 s)

/-- A text field; an empty text is left out. -/
def textField (number : Nat) (s : String) : List UInt8 :=
  if s.isEmpty then [] else text number s

def numberField (number n : Nat) : List UInt8 :=
  if n = 0 then [] else key number 0 ++ varint n

def flagField (number : Nat) (b : Bool) : List UInt8 := numberField number b.toNat

end AccessControl.Protobuf
