import AccessControl.Json.Document
import AccessControl.Bytes.Hex
import AccessControl.Text.Utf8

/-!
# Reading JSON text

`Document.read?` takes the bytes of a text apart by the JSON grammar. What the grammar allows but
no value exists for (a lone surrogate, ill-formed UTF-8 inside a string, a number beyond the
greatest double) becomes a leaf without a value.

An integer literal in the range of 64-bit integers of its sign is an integer. Any other number is
a double: its digits are taken into a 64-bit significand as far as they fit, and the decimal
exponent makes up for the rest.
-/

namespace AccessControl.Json.Reader

open AccessControl.Bytes

def skipBlanks (bytes : List UInt8) : List UInt8 :=
  bytes.dropWhile fun b => b == 32 || b == 10 || b == 9 || b == 13

def isDigit (b : UInt8) : Bool := 48 ≤ b && b ≤ 57

def takeDigits (bytes : List UInt8) : List Nat × List UInt8 :=
  ((bytes.takeWhile isDigit).map fun b => b.toNat - 48, bytes.dropWhile isDigit)

/-- Takes digits into a significand as long as it fits 64 bits; the digits left over. -/
def fill (significand : Nat) : List Nat → Nat × List Nat
  | [] => (significand, [])
  | d :: ds =>
    if significand * 10 + d < UInt64.size then fill (significand * 10 + d) ds
    else (significand, d :: ds)

/-- The value of a number literal, given its sign, the digits before and after the point, and its
exponent; `none` for a part that is not there. -/
def numberValue (negative : Bool) (whole : List Nat) (places : Option (List Nat))
    (exponent : Option Int) : Option Number :=
  let (significand, overflow) := fill 0 whole
  match places, exponent, overflow with
  | none, none, [] =>
    if !negative then some (.int significand)
    else if 0 < significand && significand ≤ Nat.pow 2 63 then some (.int (-significand))
    else (Double.ofDecimal? true significand 0).map .double
  | _, _, _ =>
    let digits := places.getD []
    let (significand, unread) := fill significand digits
    let power : Int := exponent.getD 0
    let used : Int := digits.length - unread.length
    (Double.ofDecimal? negative significand (overflow.length - used + power)).map .double

def takeExponent (bytes : List UInt8) : Option (Option Int × List UInt8) :=
  match bytes with
  | b :: rest =>
    if b == 101 || b == 69 then
      let (negative, rest) :=
        match rest with
        | 43 :: r => (false, r)
        | 45 :: r => (true, r)
        | r => (false, r)
      match takeDigits rest with
      | ([], _) => none
      | (digits, rest) =>
        let n : Nat := digits.foldl (fun n d => n * 10 + d) 0
        some (some (if negative then -(n : Int) else n), rest)
    else some (none, bytes)
  | [] => some (none, [])

def takePlaces (bytes : List UInt8) : Option (Option (List Nat) × List UInt8) :=
  match bytes with
  | 46 :: rest =>
    match takeDigits rest with
    | ([], _) => none
    | (digits, rest) => some (some digits, rest)
  | _ => some (none, bytes)

/-- Reads a number literal. A leading zero stands alone. -/
def takeNumber (bytes : List UInt8) : Option (Document × List UInt8) :=
  let (negative, bytes) :=
    match bytes with
    | 45 :: r => (true, r)
    | r => (false, r)
  match takeDigits bytes with
  | ([], _) => none
  | (0 :: _ :: _, _) => none
  | (whole, rest) =>
    (takePlaces rest).bind fun (places, rest) =>
      (takeExponent rest).bind fun (exponent, rest) =>
        some (.number (numberValue negative whole places exponent), rest)

/-- A part of a string literal: a byte as it stands, or the code unit of an escape. -/
inductive Piece where
  | byte (b : UInt8)
  | unit (n : Nat)

def shortEscape? (b : UInt8) : Option Nat :=
  if b == 34 || b == 92 || b == 47 then some b.toNat
  else if b == 98 then some 8
  else if b == 102 then some 12
  else if b == 110 then some 10
  else if b == 114 then some 13
  else if b == 116 then some 9
  else none

def hexUnit? (a b c d : UInt8) : Option Nat :=
  let digit := fun x : UInt8 => hexValue? (Char.ofNat x.toNat)
  match digit a, digit b, digit c, digit d with
  | some a, some b, some c, some d => some (((a * 16 + b) * 16 + c) * 16 + d)
  | _, _, _, _ => none

def takePieces : List UInt8 → Option (List Piece × List UInt8)
  | [] => none
  | 34 :: rest => some ([], rest)
  | 92 :: 117 :: a :: b :: c :: d :: rest =>
    match hexUnit? a b c d, takePieces rest with
    | some n, some (pieces, rest) => some (.unit n :: pieces, rest)
    | _, _ => none
  | 92 :: b :: rest =>
    match shortEscape? b, takePieces rest with
    | some n, some (pieces, rest) => some (.unit n :: pieces, rest)
    | _, _ => none
  | b :: rest =>
    if b < 32 || b == 92 then none
    else (takePieces rest).map fun (pieces, rest) => (.byte b :: pieces, rest)

def encodePoint (n : Nat) : List UInt8 := String.utf8EncodeChar (Char.ofNat n)

/-- The bytes of a string literal. A surrogate must be the first half of a pair that follows. -/
def pieceBytes? : List Piece → Option (List UInt8)
  | [] => some []
  | .byte b :: rest => (pieceBytes? rest).map (b :: ·)
  | .unit high :: .unit low :: rest =>
    if 0xD800 ≤ high && high ≤ 0xDBFF then
      if 0xDC00 ≤ low && low ≤ 0xDFFF then
        (pieceBytes? rest).map
          (encodePoint (0x10000 + (high - 0xD800) * 1024 + (low - 0xDC00)) ++ ·)
      else none
    else if 0xDC00 ≤ high && high ≤ 0xDFFF then none
    else (pieceBytes? (.unit low :: rest)).map (encodePoint high ++ ·)
  | .unit n :: rest =>
    if 0xD800 ≤ n && n ≤ 0xDFFF then none else (pieceBytes? rest).map (encodePoint n ++ ·)

def pieceText? (pieces : List Piece) : Option String :=
  (pieceBytes? pieces).bind Text.ofUtf8?

mutual

/-- Reads a value, with `fuel` bounding the nesting and the number of items. -/
def takeValue : Nat → List UInt8 → Option (Document × List UInt8)
  | 0, _ => none
  | fuel + 1, bytes =>
    match skipBlanks bytes with
    | 110 :: 117 :: 108 :: 108 :: rest => some (.null, rest)
    | 116 :: 114 :: 117 :: 101 :: rest => some (.bool true, rest)
    | 102 :: 97 :: 108 :: 115 :: 101 :: rest => some (.bool false, rest)
    | 34 :: rest =>
      (takePieces rest).map fun (pieces, rest) => (.string (pieceText? pieces), rest)
    | 91 :: rest =>
      match skipBlanks rest with
      | 93 :: rest => some (.array [], rest)
      | rest => (takeItems fuel rest).map fun (items, rest) => (.array items, rest)
    | 123 :: rest =>
      match skipBlanks rest with
      | 125 :: rest => some (.object [], rest)
      | rest => (takeMembers fuel rest).map fun (members, rest) => (.object members, rest)
    | rest => takeNumber rest

def takeItems : Nat → List UInt8 → Option (List Document × List UInt8)
  | 0, _ => none
  | fuel + 1, bytes =>
    match takeValue fuel bytes with
    | none => none
    | some (item, rest) =>
      match skipBlanks rest with
      | 93 :: rest => some ([item], rest)
      | 44 :: rest => (takeItems fuel rest).map fun (items, rest) => (item :: items, rest)
      | _ => none

def takeMembers : Nat → List UInt8 → Option (List (Option String × Document) × List UInt8)
  | 0, _ => none
  | fuel + 1, bytes =>
    match skipBlanks bytes with
    | 34 :: rest =>
      match takePieces rest with
      | none => none
      | some (pieces, rest) =>
        match skipBlanks rest with
        | 58 :: rest =>
          match takeValue fuel rest with
          | none => none
          | some (item, rest) =>
            let member := (pieceText? pieces, item)
            match skipBlanks rest with
            | 125 :: rest => some ([member], rest)
            | 44 :: rest =>
              (takeMembers fuel rest).map fun (members, rest) => (member :: members, rest)
            | _ => none
        | _ => none
    | _ => none

end

end Reader

/-- Reads a whole text; nothing but white space may follow the value. -/
def Document.read? (bytes : List UInt8) : Option Document :=
  match Reader.takeValue (2 * bytes.length + 2) bytes with
  | none => none
  | some (doc, rest) => if (Reader.skipBlanks rest).isEmpty then some doc else none

def read? (bytes : List UInt8) : Option Json :=
  (Document.read? bytes).bind Document.value?

end AccessControl.Json
