import AccessControl.Json.Basic
import AccessControl.Bytes.Hex

/-!
# YAML scalars

A plain scalar is null, a truth value, a number or a text, by its spelling alone. Only the
spellings of the core schema count: `yes` is a text, and so is a numeral with superfluous leading
zeros. Quoted scalars are always texts; a single quote is doubled inside single quotes, and double
quotes have escapes.
-/

namespace AccessControl.Yaml

def digits? (base : Nat) (cs : List Char) : Option Nat :=
  if cs.isEmpty then none
  else
    cs.foldlM (fun n c =>
      match Bytes.hexValue? c with
      | some d => if d < base then some (n * base + d) else none
      | none => none) 0

/-- A numeral without a sign: decimal, or to another base after a mark. -/
def natural? : List Char → Option Nat
  | '0' :: 'x' :: cs => digits? 16 cs
  | '0' :: 'o' :: cs => digits? 8 cs
  | '0' :: 'b' :: cs => digits? 2 cs
  | '0' :: c :: cs => if (c :: cs).all Char.isDigit then none else digits? 10 ('0' :: c :: cs)
  | cs => digits? 10 cs

def integer? : List Char → Option Int
  | '+' :: cs => (natural? cs).map Int.ofNat
  | '-' :: cs => (natural? cs).map fun n => -(n : Int)
  | cs => (natural? cs).map Int.ofNat

/-- An exponent behind its mark; nothing at all stands for zero. -/
def exponent? : List Char → Option Int
  | [] => some 0
  | mark :: cs =>
    if mark == 'e' || mark == 'E' then
      match cs with
      | '+' :: cs => (digits? 10 cs).map Int.ofNat
      | '-' :: cs => (digits? 10 cs).map fun n => -(n : Int)
      | cs => (digits? 10 cs).map Int.ofNat
    else none

/-- A decimal fraction without a sign, as a significand and a power of ten. There is a digit on one
side of the point at least. -/
def decimal? (cs : List Char) : Option (Nat × Int) :=
  let whole := cs.takeWhile Char.isDigit
  let rest := cs.drop whole.length
  let (places, tail) := match rest with
    | '.' :: rest => (rest.takeWhile Char.isDigit, rest.dropWhile Char.isDigit)
    | rest => ([], rest)
  match digits? 10 (whole ++ places), exponent? tail with
  | some significand, some exponent => some (significand, exponent - places.length)
  | _, _ => none

/-- The double nearest to a significand with a power of ten. Powers beyond all doubles are cut. -/
def nearestDouble (negative : Bool) (significand : Nat) (exponent : Int) : Double :=
  if exponent < 0 then .nearest negative significand (Nat.pow 10 (min exponent.natAbs 2000))
  else .nearest negative (significand * Nat.pow 10 (min exponent.natAbs 2000)) 1

def double? (cs : List Char) : Option Double :=
  let (negative, cs) := match cs with
    | '-' :: cs => (true, cs)
    | '+' :: cs => (false, cs)
    | cs => (false, cs)
  (decimal? cs).bind fun (significand, exponent) =>
    (some (nearestDouble negative significand exponent)).filter Double.isFinite

def namedDouble? (s : String) : Option Double :=
  if [".inf", ".Inf", ".INF", "+.inf", "+.Inf", "+.INF"].contains s then
    some (.ofMagnitude false (2047 * Nat.pow 2 52))
  else if ["-.inf", "-.Inf", "-.INF"].contains s then some (.ofMagnitude true (2047 * Nat.pow 2 52))
  else if [".nan", ".NaN", ".NAN"].contains s then some (.ofMagnitude false (4095 * Nat.pow 2 51))
  else none

/-- Whether a text consists of digits, the first of several being a zero. -/
def isZeroPadded (cs : List Char) : Bool :=
  let cs := if cs.head? == some '-' || cs.head? == some '+' then cs.tail else cs
  1 < cs.length && cs.head? == some '0' && cs.all Char.isDigit

def plain (s : String) : Json :=
  if ["", "~", "null", "Null", "NULL"].contains s then .null
  else if ["true", "True", "TRUE"].contains s then .bool true
  else if ["false", "False", "FALSE"].contains s then .bool false
  else
    match integer? s.toList with
    | some n => .number (.int n)
    | none =>
      if isZeroPadded s.toList then .string s
      else
        match (namedDouble? s).or (double? s.toList) with
        | some d => .number (.double d)
        | none => .string s

def singleQuoted? : List Char → Option (List Char × List Char)
  | [] => none
  | '\'' :: '\'' :: rest => (singleQuoted? rest).map fun (text, rest) => ('\'' :: text, rest)
  | '\'' :: rest => some ([], rest)
  | c :: rest => (singleQuoted? rest).map fun (text, rest) => (c :: text, rest)

def escape? (c : Char) : Option Char :=
  (Entries.get? [("0", 0), ("a", 7), ("b", 8), ("t", 9), ("\t", 9), ("n", 10), ("v", 11),
    ("f", 12), ("r", 13), ("e", 27), (" ", 32), ("\"", 34), ("/", 47), ("\\", 92), ("N", 0x85),
    ("_", 0xA0), ("L", 0x2028), ("P", 0x2029)] (String.singleton c)).map Char.ofNat

def escapeDigits (c : Char) : Nat :=
  if c == 'x' then 2 else if c == 'u' then 4 else if c == 'U' then 8 else 0

/-- Reads a double-quoted text behind its first quote. The number bounds the characters read. -/
def doubleQuoted? : Nat → List Char → Option (List Char × List Char)
  | 0, _ => none
  | _ + 1, [] => none
  | _ + 1, '"' :: rest => some ([], rest)
  | fuel + 1, '\\' :: c :: rest =>
    let count := escapeDigits c
    let found :=
      if count = 0 then escape? c
      else if rest.length < count then none
      else ((digits? 16 (rest.take count)).filter fun n => n.isValidChar).map Char.ofNat
    found.bind fun c =>
      (doubleQuoted? fuel (rest.drop count)).map fun (text, rest) => (c :: text, rest)
  | fuel + 1, c :: rest => (doubleQuoted? fuel rest).map fun (text, rest) => (c :: text, rest)

def quoted? : List Char → Option (List Char × List Char)
  | '\'' :: rest => singleQuoted? rest
  | '"' :: rest => doubleQuoted? (rest.length + 1) rest
  | _ => none

end AccessControl.Yaml
