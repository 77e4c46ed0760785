/-!
# Hexadecimal text

Two digits a byte, the high half first. Writing uses lower-case digits, reading takes both cases.
-/

namespace AccessControl.Bytes

def hexDigit (n : Nat) : Char :=
  if n < 10 then Char.ofNat (48 + n) else Char.ofNat (87 + n)

def upperHexDigit (n : Nat) : Char :=
  if n < 10 then Char.ofNat (48 + n) else Char.ofNat (55 + n)

def hexValue? (c : Char) : Option Nat :=
  if '0' ≤ c && c ≤ '9' then some (c.toNat - 48)
  else if 'a' ≤ c && c ≤ 'f' then some (c.toNat - 87)
  else if 'A' ≤ c && c ≤ 'F' then some (c.toNat - 55)
  else none

def hexByte (b : UInt8) : List Char :=
  [hexDigit (b.toNat / 16), hexDigit (b.toNat % 16)]

def toHex (bytes : List UInt8) : String :=
  String.ofList (bytes.flatMap hexByte)

def ofHexChars? : List Char → Option (List UInt8)
  | [] => some []
  | [_] => none
  | a :: b :: rest =>
    match hexValue? a, hexValue? b, ofHexChars? rest with
    | some x, some y, some bytes => some (UInt8.ofNat (16 * x + y) :: bytes)
    | _, _, _ => none

def ofHex? (s : String) : Option (List UInt8) :=
  ofHexChars? s.toList

def littleEndian (size : Nat) (n : Nat) : List UInt8 :=
  match size with
  | 0 => []
  | k + 1 => UInt8.ofNat (n % 256) :: littleEndian k (n / 256)

def ofLittleEndian : List UInt8 → Nat
  | [] => 0
  | b :: rest => b.toNat + 256 * ofLittleEndian rest

/-- Sixteen hexadecimal digits, the most significant first. -/
def hexWord (w : UInt64) : String :=
  toHex (littleEndian 8 w.toNat).reverse

@[simp] theorem littleEndian_length (size n : Nat) : (littleEndian size n).length = size := by
  induction size generalizing n with
  | zero => rfl
  | succ k ih => simp [littleEndian, ih]

end AccessControl.Bytes
