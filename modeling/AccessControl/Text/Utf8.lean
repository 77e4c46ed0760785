/-!
# UTF-8

`utf8 s` is the byte form of a text. Reading goes one character at a time: `takeScalar b rest`
reads the character that starts at the byte `b`, or, when the bytes are ill-formed, passes over
the longest part that could still have begun a character. Strict reading fails at the first such
part; lossy reading puts the replacement character in its place.
-/

namespace AccessControl.Text

def utf8 (s : String) : List UInt8 :=
  s.toList.flatMap String.utf8EncodeChar

def isTail (low high : Nat) (b : UInt8) : Bool :=
  low ≤ b.toNat && b.toNat ≤ high

/-- The character that starts at `b`, if there is one, and the bytes behind it. -/
def takeScalar (b : UInt8) (rest : List UInt8) : Option Char × List UInt8 :=
  let n := b.toNat
  if n < 0x80 then (some (Char.ofNat n), rest)
  else if 0xC2 ≤ n && n ≤ 0xDF then
    match rest with
    | c :: r =>
      if isTail 0x80 0xBF c then (some (Char.ofNat ((n - 0xC0) * 64 + (c.toNat - 0x80))), r)
      else (none, rest)
    | [] => (none, [])
  else if 0xE0 ≤ n && n ≤ 0xEF then
    let low := if n = 0xE0 then 0xA0 else 0x80
    let high := if n = 0xED then 0x9F else 0xBF
    match rest with
    | c :: d :: r =>
      if !isTail low high c then (none, rest)
      else if isTail 0x80 0xBF d then
        (some (Char.ofNat (((n - 0xE0) * 64 + (c.toNat - 0x80)) * 64 + (d.toNat - 0x80))), r)
      else (none, d :: r)
    | [c] => if isTail low high c then (none, []) else (none, rest)
    | [] => (none, [])
  else if 0xF0 ≤ n && n ≤ 0xF4 then
    let low := if n = 0xF0 then 0x90 else 0x80
    let high := if n = 0xF4 then 0x8F else 0xBF
    match rest with
    | c :: d :: e :: r =>
      if !isTail low high c then (none, rest)
      else if !isTail 0x80 0xBF d then (none, d :: e :: r)
      else if isTail 0x80 0xBF e then
        (some (Char.ofNat ((((n - 0xF0) * 64 + (c.toNat - 0x80)) * 64 + (d.toNat - 0x80)) * 64 +
          (e.toNat - 0x80))), r)
      else (none, e :: r)
    | [c, d] =>
      if !isTail low high c then (none, rest)
      else if isTail 0x80 0xBF d then (none, []) else (none, [d])
    | [c] => if isTail low high c then (none, []) else (none, rest)
    | [] => (none, [])
  else (none, rest)

theorem takeScalar_length_le (b : UInt8) (rest : List UInt8) :
    (takeScalar b rest).2.length ≤ rest.length := by
  unfold takeScalar
  simp only []
  repeat' split
  all_goals
    try simp only [List.length_cons, List.length_nil]
    omega

/-- The characters of a byte sequence, `none` standing for an ill-formed part. -/
def scalars : List UInt8 → List (Option Char)
  | [] => []
  | b :: rest => (takeScalar b rest).1 :: scalars (takeScalar b rest).2
termination_by bytes => bytes.length
decreasing_by
  have := takeScalar_length_le b rest
  simp only [List.length_cons]
  omega

def ofUtf8? (bytes : List UInt8) : Option String :=
  ((scalars bytes).mapM id).map String.ofList

/-- The text of a byte sequence, with a replacement character for every ill-formed part. -/
def ofUtf8Lossy (bytes : List UInt8) : String :=
  String.ofList ((scalars bytes).map (·.getD '\uFFFD'))

/-- Where a byte sequence stops to be UTF-8: the number of bytes before the first ill-formed part,
and the length of that part, `none` if it is the beginning of a character that the end cuts off. -/
def firstFault : Nat → List UInt8 → Option (Nat × Option Nat)
  | _, [] => none
  | start, b :: rest =>
    let after := (takeScalar b rest).2
    let length := 1 + rest.length - after.length
    if (takeScalar b rest).1.isSome then firstFault (start + length) (takeScalar b rest).2
    else some (start, if after.isEmpty && 0xC2 ≤ b && b ≤ 0xF4 then none else some length)
termination_by _ bytes => bytes.length
decreasing_by
  have := takeScalar_length_le b rest
  simp only [List.length_cons]
  omega

@[simp] theorem scalars_nil : scalars [] = [] := by
  simp [scalars]

theorem scalars_cons (b : UInt8) (rest : List UInt8) :
    scalars (b :: rest) = (takeScalar b rest).1 :: scalars (takeScalar b rest).2 := by
  rw [scalars]

end AccessControl.Text
