/-!
# Double-precision numbers

A `Double` is its 64 bits: a sign, eleven bits of exponent and 52 of significand. Arithmetic is
done on exact fractions of natural numbers and brought back by `nearest`, which takes the nearest
double and, between two equally near ones, the one with an even significand. Nothing here depends
on floating-point hardware.
-/

namespace AccessControl

structure Double where
  bits : UInt64
deriving DecidableEq, Inhabited

namespace Double

/-- The bits without the sign. -/
def magnitude (d : Double) : Nat := d.bits.toNat % Nat.pow 2 63

/-- Whether the sign bit is set; negative zero has it set too. -/
def isNegative (d : Double) : Bool := Nat.pow 2 63 ≤ d.bits.toNat

def isFinite (d : Double) : Bool := d.magnitude < 2047 * Nat.pow 2 52

def ofMagnitude (negative : Bool) (bits : Nat) : Double :=
  ⟨UInt64.ofNat (bits + if negative then Nat.pow 2 63 else 0)⟩

def significand (d : Double) : Nat :=
  let fraction := d.magnitude % Nat.pow 2 52
  if d.magnitude < Nat.pow 2 52 then fraction else fraction + Nat.pow 2 52

/-- The power of two, raised by 1074, by which the significand is multiplied. -/
def scale (d : Double) : Nat :=
  d.magnitude / Nat.pow 2 52 - 1

/-- The magnitude of a finite double as a numerator over a positive denominator. -/
def fraction (d : Double) : Nat × Nat :=
  (d.significand * Nat.pow 2 d.scale, Nat.pow 2 1074)

/-- A quotient rounded to the nearest integer, a half going to the even neighbour. -/
def roundHalfEven (num den : Nat) : Nat :=
  let q := num / den
  let r := num % den
  if 2 * r < den then q
  else if den < 2 * r then q + 1
  else q + q % 2

/-- The greatest `k` with `2 ^ k * den ≤ num * 2 ^ 1074`, or zero. -/
def binaryExponent (num den : Nat) : Nat :=
  Nat.log2 (num * Nat.pow 2 1074 / den)

/-- The magnitude bits of the double nearest to a fraction; from half a unit above the greatest
finite double on, those of infinity. -/
def nearestBits (num den : Nat) : Nat :=
  let shift := binaryExponent num den - 52
  let rounded := roundHalfEven (num * Nat.pow 2 1074) (den * Nat.pow 2 shift)
  min (shift * Nat.pow 2 52 + rounded) (2047 * Nat.pow 2 52)

def nearest (negative : Bool) (num den : Nat) : Double :=
  ofMagnitude negative (nearestBits num den)

def ofInt (n : Int) : Double :=
  nearest (decide (n < 0)) n.natAbs 1

def mulMagnitude (x y : Double) : Double :=
  nearest false (x.fraction.1 * y.fraction.1) (x.fraction.2 * y.fraction.2)

def divMagnitude (x y : Double) : Double :=
  nearest false (x.fraction.1 * y.fraction.2) (x.fraction.2 * y.fraction.1)

def powerOfTen (k : Nat) : Double := nearest false (Nat.pow 10 k) 1

/-- The double nearest to the significand divided by ten to the `k`, in steps of at most 308
places with a rounding after each. Four steps bring every 64-bit significand down to zero. -/
def scaleDown (x : Double) (k : Nat) : Double :=
  let steps := (k - 1) / 308
  let reduced := Nat.repeat (fun x => divMagnitude x (powerOfTen 308)) (min steps 4) x
  divMagnitude reduced (powerOfTen (k - 308 * steps))

/-- Reads a decimal significand below `2 ^ 64` with a power of ten. The significand is rounded
first and then scaled, with a rounding after each step; there is no value beyond the greatest
finite double. -/
def ofDecimal? (negative : Bool) (significand : Nat) (exponent : Int) : Option Double :=
  let start := nearest false significand 1
  let scaled :=
    if significand = 0 then start
    else if exponent < 0 then scaleDown start exponent.natAbs
    else if 308 < exponent then ofMagnitude false (2047 * Nat.pow 2 52)
    else mulMagnitude start (powerOfTen exponent.natAbs)
  if scaled.isFinite then some (ofMagnitude negative scaled.magnitude) else none

end Double

end AccessControl
