import AccessControl.Text.Lowercase

/-!
# Punycode

A label with characters beyond ASCII is written with ASCII letters and digits: first its ASCII
characters, then the others in increasing order, each as the number of steps from the one before
it. The steps are written to a base of 36 with digits whose thresholds adapt to what was written.
-/

namespace AccessControl.Url.Punycode

/-- The digit of a number below 36: letters first. -/
def digit (n : Nat) : Char := Char.ofNat (if n < 26 then 97 + n else 22 + n)

def threshold (position bias : Nat) : Nat :=
  if position ≤ bias then 1 else if bias + 26 ≤ position then 26 else position - bias

theorem threshold_pos (position bias : Nat) : 1 ≤ threshold position bias := by
  unfold threshold
  split
  · omega
  · split <;> omega

def digits (bias position steps : Nat) : List Char :=
  let t := threshold position bias
  if steps < t then [digit steps]
  else digit (t + (steps - t) % (36 - t)) :: digits bias (position + 36) ((steps - t) / (36 - t))
termination_by steps
decreasing_by
  have _h := threshold_pos position bias
  exact Nat.lt_of_le_of_lt (Nat.div_le_self _ _) (by omega)

/-- Divides by 35 while the number is large, counting 36 for each division. -/
def reduce (delta bias : Nat) : Nat × Nat :=
  if 455 < delta then reduce (delta / 35) (bias + 36) else (delta, bias)
termination_by delta
decreasing_by exact Nat.div_lt_self (by omega) (by omega)

def adapt (delta count : Nat) (first : Bool) : Nat :=
  let halved := if first then delta / 700 else delta / 2
  let (delta, bias) := reduce (halved + halved / count) 0
  bias + 36 * delta / (delta + 38)

/-- What has been written, the steps since then, the bias and the number of characters handled. -/
structure State where
  written : List Char
  delta : Nat
  bias : Nat
  handled : Nat

/-- Passes one character of the label while the characters equal to `point` are written. -/
def State.pass (basic point : Nat) (state : State) (c : Char) : State :=
  if c.toNat < point then { state with delta := state.delta + 1 }
  else if c.toNat = point then
    { written := state.written ++ digits state.bias 36 state.delta
      delta := 0
      bias := adapt state.delta (state.handled + 1) (state.handled == basic)
      handled := state.handled + 1 }
  else state

/-- Writes the characters of each of the given points; `next` is the first point not yet passed. -/
def writePoints (label : List Char) (basic : Nat) : List Nat → Nat → State → State
  | [], _, state => state
  | point :: rest, next, state =>
    let state := { state with delta := state.delta + (point - next) * (state.handled + 1) }
    let state := label.foldl (State.pass basic point) state
    writePoints label basic rest (point + 1) { state with delta := state.delta + 1 }

/-- The points beyond ASCII in a label, in increasing order and once each. -/
def points (label : List Char) : List Nat :=
  (((label.map Char.toNat).filter (128 ≤ ·)).mergeSort (· ≤ ·)).eraseDups

def encode (label : List Char) : List Char :=
  let basic := label.filter (·.toNat < 128)
  let state := writePoints label basic.length (points label) 128 ⟨[], 0, 72, basic.length⟩
  basic ++ (if basic.isEmpty then [] else ['-']) ++ state.written

end AccessControl.Url.Punycode
