/-!
# Base64

Four digits stand for three bytes; a last group of two or three digits stands for one or two, and
the unused low bits of its last digit must be zero. The digits are those of the URL alphabet and
there is no padding, so every byte sequence has exactly one written form.
-/

namespace AccessControl.Bytes

/-- The value of a digit of the URL alphabet. -/
def sextet? (c : Char) : Option Nat :=
  if 'A' ≤ c && c ≤ 'Z' then some (c.toNat - 65)
  else if 'a' ≤ c && c ≤ 'z' then some (c.toNat - 71)
  else if '0' ≤ c && c ≤ '9' then some (c.toNat + 4)
  else if c == '-' then some 62
  else if c == '_' then some 63
  else none

def ofSextets? : List Nat → Option (List UInt8)
  | [] => some []
  | [_] => none
  | [a, b] => if b % 16 = 0 then some [UInt8.ofNat (a * 4 + b / 16)] else none
  | [a, b, c] =>
    if c % 4 = 0 then
      some [UInt8.ofNat (a * 4 + b / 16), UInt8.ofNat (b % 16 * 16 + c / 4)]
    else none
  | a :: b :: c :: d :: rest =>
    (ofSextets? rest).map fun bytes =>
      UInt8.ofNat (a * 4 + b / 16) :: UInt8.ofNat (b % 16 * 16 + c / 4) ::
        UInt8.ofNat (c % 4 * 64 + d) :: bytes

def ofBase64Url? (cs : List Char) : Option (List UInt8) :=
  (cs.mapM sextet?).bind ofSextets?

end AccessControl.Bytes
