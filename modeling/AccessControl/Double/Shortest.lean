import AccessControl.Double.Basic

/-!
# Shortest decimal text of a double

`shortest` picks the decimal number with the fewest significant digits among those that round to
the double, and of several with equally few the nearest to it. For each count of digits only the
two neighbours on that decimal grid need a look. `text` then writes the digits in the positional
form for exponents from -5 to 15 and in the scientific form otherwise.
-/

namespace AccessControl.Double

/-- The decimal digits of a number, most significant first. -/
def decimalDigits (n : Nat) : List Char := Nat.toDigits 10 n

/-- The exponent of the leading decimal digit of a positive fraction. -/
def decimalExponent (num den : Nat) : Int :=
  if den ≤ num then ((decimalDigits (num / den)).length : Int) - 1
  else -((decimalDigits ((den + num - 1) / num - 1)).length : Int)

/-- Compares `x · 10 ^ e` with `y / den`. -/
def compareScaled (x : Nat) (e : Int) (y den : Nat) : Ordering :=
  if 0 ≤ e then compare (x * Nat.pow 10 e.toNat * den) y
  else compare (x * den) (y * Nat.pow 10 (-e).toNat)

/-- Whether `x · 10 ^ e` rounds to the double: it lies between the midpoints to its neighbours,
which belong to it exactly when its significand is even. -/
def roundsTo (d : Double) (x : Nat) (e : Int) : Bool :=
  let unit := Nat.pow 2 d.scale
  let below := if d.significand = Nat.pow 2 52 && d.scale ≠ 0 then unit else 2 * unit
  let value := 4 * d.significand * unit
  let den := 4 * Nat.pow 2 1074
  let low := compareScaled x e (value - below) den
  let high := compareScaled x e (value + 2 * unit) den
  if d.significand % 2 = 0 then low != .lt && high != .gt else low == .gt && high == .lt

/-- The neighbour with `count` significant digits that rounds to the double, if there is one; of
two the nearer, and of two equally near the even one. -/
def candidate (d : Double) (top : Int) (count : Nat) : Option (Nat × Int) :=
  let e := top - (count : Int) + 1
  let (num, den) := d.fraction
  let (num, den) := if 0 ≤ e then (num, den * Nat.pow 10 e.toNat) else (num * Nat.pow 10 (-e).toNat, den)
  let lower := num / den
  let upper := lower + 1
  let twice := 2 * (num % den)
  let lowerFirst := twice < den || (twice == den && lower % 2 == 0)
  let (first, second) := if lowerFirst then (lower, upper) else (upper, lower)
  if first ≠ 0 && roundsTo d first e then some (first, e)
  else if second ≠ 0 && roundsTo d second e then some (second, e)
  else none

/-- The shortest decimal significand and its power of ten, for a positive finite double. -/
def shortest (d : Double) : Nat × Int :=
  let top := decimalExponent d.fraction.1 d.fraction.2
  ((List.range 17).findSome? fun i => candidate d top (i + 1)).getD (d.significand, 0)

/-- A significand without trailing zeros, which are moved into the power of ten. -/
def stripZeros : Nat → Nat → Int → Nat × Int
  | 0, n, e => (n, e)
  | fuel + 1, n, e => if n ≠ 0 && n % 10 = 0 then stripZeros fuel (n / 10) (e + 1) else (n, e)

/-- The scientific form: one digit, a point before further digits, a signed exponent. -/
def scientific (digits : List Char) (exponent : Int) : List Char :=
  let lead :=
    match digits with
    | [] => ['0']
    | [c] => [c]
    | c :: rest => c :: '.' :: rest
  lead ++ ['e', if exponent < 0 then '-' else '+'] ++ decimalDigits exponent.natAbs

/-- The digits of `n · 10 ^ e` with a point, in the form that their exponent asks for. -/
def layout (n : Nat) (e : Int) : List Char :=
  let digits := decimalDigits n
  let point := (digits.length : Int) + e
  if 0 ≤ e && point ≤ 16 then digits ++ List.replicate e.toNat '0' ++ ['.', '0']
  else if 0 < point && point ≤ 16 then
    digits.take point.toNat ++ '.' :: digits.drop point.toNat
  else if -5 < point && point ≤ 0 then
    '0' :: '.' :: (List.replicate (-point).toNat '0' ++ digits)
  else scientific digits (point - 1)

/-- The text of a finite double. It always has a point or an exponent. -/
def text (d : Double) : String :=
  let body :=
    if d.magnitude = 0 then ['0', '.', '0']
    else
      let (n, e) := shortest d
      let (n, e) := stripZeros 20 n e
      layout n e
  String.ofList (if d.isNegative then '-' :: body else body)

end AccessControl.Double
