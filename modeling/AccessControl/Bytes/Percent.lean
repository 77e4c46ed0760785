import AccessControl.Bytes.Hex
import AccessControl.Text.Utf8

/-!
# Percent-encoding

A byte may be written as `%` followed by two hexadecimal digits. Reading leaves a `%` alone when
no two digits follow it; writing encodes the bytes of a given class, with upper-case digits.
-/

namespace AccessControl.Bytes

def hexByteValue? (b : UInt8) : Option Nat :=
  hexValue? (Char.ofNat b.toNat)

/-- Replaces every `%` with two digits by the byte that they stand for. -/
def percentDecode : List UInt8 → List UInt8
  | [] => []
  | b :: rest =>
    if b = 37 then
      match rest with
      | high :: low :: rest' =>
        match hexByteValue? high, hexByteValue? low with
        | some x, some y => UInt8.ofNat (16 * x + y) :: percentDecode rest'
        | _, _ => b :: percentDecode (high :: low :: rest')
      | short => b :: short
    else b :: percentDecode rest
termination_by bytes => bytes.length

def percentByte (b : UInt8) : List Char :=
  ['%', upperHexDigit (b.toNat / 16), upperHexDigit (b.toNat % 16)]

/-- Writes the bytes of a text, encoding those of the class; the class holds every byte from
`0x80` up, so what remains is ASCII. -/
def percentEncode (encoded : UInt8 → Bool) (s : String) : String :=
  String.ofList ((Text.utf8 s).flatMap fun b =>
    if encoded b || b ≥ 128 then percentByte b else [Char.ofNat b.toNat])

@[simp] theorem percentDecode_nil : percentDecode [] = [] := by
  simp [percentDecode]

end AccessControl.Bytes
