import AccessControl.Json.Reader
import AccessControl.Proofs.Double.Shortest
import AccessControl.Proofs.Json.Numbers
import AccessControl.Proofs.Text.Utf8

/-!
# Numbers as text

A numeral is what the grammar allows for a number: digits without a leading zero, then digits behind
a point and an exponent, both of which may be missing. The reader takes a numeral up to its end if
what follows cannot go on with it. The text of every number is a numeral, so it is read; `reread?`
is the number that comes out.

An integer of 64 bits comes out as it was. A double need not: the reader rounds the digits first and
then scales them with a rounding of its own.
-/

namespace AccessControl.Json

open Text (encode encode_append encode_cons_of_ascii)

/-! ## Numerals -/

def AreDigits (cs : List Char) : Prop := cs ≠ [] ∧ ∀ c ∈ cs, c.isDigit = true

/-- The parts of a number literal. An exponent is negative or not. -/
structure Numeral where
  negative : Bool
  whole : List Char
  places : Option (List Char)
  exponent : Option (Bool × List Char)
  areDigits_whole : AreDigits whole
  leading : ∀ rest, whole = '0' :: rest → rest = []
  areDigits_places : ∀ digits ∈ places, AreDigits digits
  areDigits_exponent : ∀ power ∈ exponent, AreDigits power.2

namespace Numeral

def placesChars : Option (List Char) → List Char
  | none => []
  | some digits => '.' :: digits

def exponentChars : Option (Bool × List Char) → List Char
  | none => []
  | some (negative, digits) => 'e' :: (if negative then '-' else '+') :: digits

def chars (numeral : Numeral) : List Char :=
  (if numeral.negative then ['-'] else []) ++
    (numeral.whole ++ (placesChars numeral.places ++ exponentChars numeral.exponent))

end Numeral

namespace Reader

def digitValue (c : Char) : Nat := c.toNat - 48

/-- A number does not go on in the bytes. -/
def EndsNumber (bytes : List UInt8) : Prop :=
  ∀ b ∈ bytes.head?, isDigit b = false ∧ b ≠ 46 ∧ b ≠ 101 ∧ b ≠ 69

def EndsDigits (bytes : List UInt8) : Prop := ∀ b ∈ bytes.head?, isDigit b = false

theorem EndsNumber.endsDigits {bytes : List UInt8} (h : EndsNumber bytes) : EndsDigits bytes :=
  fun b hb => (h b hb).1

theorem endsNumber_nil : EndsNumber [] := nofun

theorem toNat_le_of_isDigit {c : Char} (h : c.isDigit = true) : 48 ≤ c.toNat ∧ c.toNat ≤ 57 :=
  Char.isDigit_iff_toNat.mp h

theorem encode_digit {c : Char} (h : c.isDigit = true) (cs : List Char) :
    encode (c :: cs) = UInt8.ofNat c.toNat :: encode cs ∧
      (UInt8.ofNat c.toNat).toNat = c.toNat ∧ isDigit (UInt8.ofNat c.toNat) = true := by
  obtain ⟨hlow, hhigh⟩ := toNat_le_of_isDigit h
  have hbyte := Text.toNat_ofNat_of_lt (show c.toNat < 256 by omega)
  refine ⟨encode_cons_of_ascii (by omega) cs, hbyte, ?_⟩
  simp [isDigit, UInt8.le_iff_toNat_le, hbyte, hlow, hhigh]

theorem takeDigits_encode {digits : List Char} (h : ∀ c ∈ digits, c.isDigit = true)
    {rest : List UInt8} (hrest : EndsDigits rest) :
    takeDigits (encode digits ++ rest) = (digits.map digitValue, rest) := by
  induction digits with
  | nil =>
      cases rest with
      | nil => rfl
      | cons b rest =>
          have hb : isDigit b = false := hrest b rfl
          simp [takeDigits, hb]
  | cons c digits ih =>
      obtain ⟨hc, hdigits⟩ := List.forall_mem_cons.mp h
      obtain ⟨hbytes, hvalue, hdigit⟩ := encode_digit hc digits
      obtain ⟨hvalues, htail⟩ := Prod.mk.inj (ih hdigits)
      rw [hbytes, List.cons_append, takeDigits, List.takeWhile_cons_of_pos hdigit,
        List.dropWhile_cons_of_pos hdigit, List.map_cons, hvalues, htail, hvalue]
      rfl

section

variable {digits : List Char} (h : AreDigits digits) {rest : List UInt8}
include h

theorem takePlaces_encode (hrest : EndsDigits rest) :
    takePlaces (encode ('.' :: digits) ++ rest) = some (some (digits.map digitValue), rest) := by
  obtain ⟨hne, hdigits⟩ := h
  have hbytes : encode ('.' :: digits) ++ rest = 46 :: (encode digits ++ rest) := rfl
  rw [hbytes, takePlaces, takeDigits_encode hdigits hrest]
  cases digits with
  | nil => exact absurd rfl hne
  | cons c digits => rfl

def exponentValue (negative : Bool) (digits : List Char) : Int :=
  let n : Nat := (digits.map digitValue).foldl (fun n d => n * 10 + d) 0
  if negative then -(n : Int) else n

theorem takeExponent_encode (negative : Bool) (hrest : EndsDigits rest) :
    takeExponent (encode ('e' :: (if negative then '-' else '+') :: digits) ++ rest) =
      some (some (exponentValue negative digits), rest) := by
  obtain ⟨hne, hdigits⟩ := h
  cases negative with
  | false =>
      have hbytes : encode ('e' :: '+' :: digits) ++ rest = 101 :: 43 :: (encode digits ++ rest) :=
        rfl
      rw [if_neg Bool.false_ne_true, hbytes, takeExponent, if_pos (by decide)]
      dsimp only
      rw [takeDigits_encode hdigits hrest]
      cases digits with
      | nil => exact absurd rfl hne
      | cons c digits => rfl
  | true =>
      have hbytes : encode ('e' :: '-' :: digits) ++ rest = 101 :: 45 :: (encode digits ++ rest) :=
        rfl
      rw [if_pos rfl, hbytes, takeExponent, if_pos (by decide)]
      dsimp only
      rw [takeDigits_encode hdigits hrest]
      cases digits with
      | nil => exact absurd rfl hne
      | cons c digits => rfl

end

theorem takePlaces_of_ends {bytes : List UInt8} (h : ∀ b ∈ bytes.head?, b ≠ 46) :
    takePlaces bytes = some (none, bytes) := by
  unfold takePlaces
  split
  · exact absurd rfl (h 46 rfl)
  · rfl

theorem takeExponent_of_ends {bytes : List UInt8} (h : ∀ b ∈ bytes.head?, b ≠ 101 ∧ b ≠ 69) :
    takeExponent bytes = some (none, bytes) := by
  cases bytes with
  | nil => rfl
  | cons b rest =>
      obtain ⟨hlower, hupper⟩ := h b rfl
      simp [takeExponent, hlower, hupper]

def takeUnsigned (negative : Bool) (bytes : List UInt8) : Option (Document × List UInt8) :=
  match takeDigits bytes with
  | ([], _) => none
  | (0 :: _ :: _, _) => none
  | (whole, rest) =>
    (takePlaces rest).bind fun (places, rest) =>
      (takeExponent rest).bind fun (exponent, rest) =>
        some (.number (numberValue negative whole places exponent), rest)

theorem takeNumber_minus (rest : List UInt8) : takeNumber (45 :: rest) = takeUnsigned true rest :=
  rfl

theorem takeNumber_of_ne {b : UInt8} (h : b ≠ 45) (rest : List UInt8) :
    takeNumber (b :: rest) = takeUnsigned false (b :: rest) := by
  unfold takeNumber
  split
  rename_i negative bytes heq
  split at heq
  · rename_i hbytes
    exact absurd (List.cons.inj hbytes).1 h
  · cases heq
    rfl

def numeralValue? (numeral : Numeral) : Option Number :=
  numberValue numeral.negative (numeral.whole.map digitValue)
    (numeral.places.map (·.map digitValue))
    (numeral.exponent.map fun power => exponentValue power.1 power.2)

theorem eq_zero_of_digitValue {c : Char} (hc : c.isDigit = true) (h : digitValue c = 0) :
    c = '0' := by
  obtain ⟨hlow, -⟩ := toNat_le_of_isDigit hc
  refine Char.toNat_inj.mp ?_
  change c.toNat = 48
  unfold digitValue at h
  omega

theorem takeUnsigned_of_parts (negative : Bool) {whole : List Char} (hwhole : AreDigits whole)
    (hleading : ∀ rest, whole = '0' :: rest → rest = []) {behind later rest : List UInt8}
    {places : Option (List Nat)} {exponent : Option Int} (hbehind : EndsDigits behind)
    (hplaces : takePlaces behind = some (places, later))
    (hexponent : takeExponent later = some (exponent, rest)) :
    takeUnsigned negative (encode whole ++ behind) =
      some (.number (numberValue negative (whole.map digitValue) places exponent), rest) := by
  obtain ⟨hne, hdigits⟩ := hwhole
  unfold takeUnsigned
  rw [takeDigits_encode hdigits hbehind]
  split
  · rename_i heq
    exact absurd (List.map_eq_nil_iff.mp (Prod.mk.inj heq).1) hne
  · rename_i first more _ heq
    -- A leading zero would stand alone.
    obtain ⟨c, digits, rfl⟩ := List.exists_cons_of_ne_nil hne
    obtain ⟨hzero, hmore⟩ := List.cons.inj (Prod.mk.inj heq).1
    have hc := eq_zero_of_digitValue (hdigits c List.mem_cons_self) hzero
    rw [hleading digits (by rw [hc])] at hmore
    cases hmore
  · rename_i heq
    cases heq
    simp only [hplaces, hexponent, Option.bind_some]

/-- A numeral is read up to its end. -/
theorem takeNumber_numeral (numeral : Numeral) {rest : List UInt8} (hrest : EndsNumber rest) :
    takeNumber (encode numeral.chars ++ rest) = some (.number (numeralValue? numeral), rest) := by
  obtain ⟨negative, whole, places, exponent, hwhole, hleading, hplaces, hexponent⟩ := numeral
  have hends : ∀ b ∈ rest.head?, isDigit b = false ∧ b ≠ 46 := fun b hb =>
    ⟨(hrest b hb).1, (hrest b hb).2.1⟩
  -- From the end of the literal to its front, each part stops where the next one starts.
  have hlater : ∀ b ∈ (encode (Numeral.exponentChars exponent) ++ rest).head?,
      isDigit b = false ∧ b ≠ 46 := by
    cases exponent with
    | none => exact hends
    | some power =>
        rintro b ⟨⟩
        decide
  have htakeExponent : takeExponent (encode (Numeral.exponentChars exponent) ++ rest) =
      some (exponent.map fun power => exponentValue power.1 power.2, rest) := by
    cases exponent with
    | none => exact takeExponent_of_ends fun b hb => (hrest b hb).2.2
    | some power => exact takeExponent_encode (hexponent power rfl) power.1 hrest.endsDigits
  have hbehind : EndsDigits (encode (Numeral.placesChars places) ++
      (encode (Numeral.exponentChars exponent) ++ rest)) := by
    cases places with
    | none => exact fun b hb => (hlater b hb).1
    | some digits =>
        rintro b ⟨⟩
        decide
  have htakePlaces : takePlaces (encode (Numeral.placesChars places) ++
      (encode (Numeral.exponentChars exponent) ++ rest)) =
        some (places.map (·.map digitValue), encode (Numeral.exponentChars exponent) ++ rest) := by
    cases places with
    | none => exact takePlaces_of_ends fun b hb => (hlater b hb).2
    | some digits => exact takePlaces_encode (hplaces digits rfl) fun b hb => (hlater b hb).1
  have hunsigned := takeUnsigned_of_parts negative hwhole hleading hbehind
    htakePlaces htakeExponent
  obtain ⟨c, digits, rfl⟩ := List.exists_cons_of_ne_nil hwhole.1
  obtain ⟨hbytes, -, hdigit⟩ := encode_digit (hwhole.2 c List.mem_cons_self) digits
  rw [Numeral.chars, encode_append, encode_append, encode_append, List.append_assoc,
    List.append_assoc, List.append_assoc]
  cases negative with
  | true => exact (takeNumber_minus _).trans hunsigned
  | false =>
      rw [hbytes] at hunsigned ⊢
      refine (takeNumber_of_ne ?_ _).trans hunsigned
      intro hminus
      rw [hminus] at hdigit
      exact absurd hdigit (by decide)

end Reader

/-! ## The text of a number is a numeral -/

theorem areDigits_toDigits (n : Nat) : AreDigits (Nat.toDigits 10 n) :=
  ⟨Nat.toDigits_ne_nil, fun _ hc => Nat.isDigit_of_mem_toDigits (by decide) (by decide) hc⟩

theorem exists_toDigits_eq_cons {n : Nat} (h : n ≠ 0) :
    ∃ c rest, Nat.toDigits 10 n = c :: rest ∧ c ≠ '0' := by
  induction n using Nat.strongRecOn with
  | ind n ih =>
      by_cases hn : n < 10
      · rw [Nat.toDigits_of_lt_base hn]
        exact ⟨_, [], rfl, mt Nat.digitChar_eq_zero.mp h⟩
      · obtain ⟨c, rest, hdigits, hc⟩ := ih (n / 10) (by omega) (by omega)
        rw [Nat.toDigits_of_base_le (by decide) (by omega), hdigits]
        exact ⟨c, _, rfl, hc⟩

theorem leading_of_ne {c : Char} (h : c ≠ '0') {digits : List Char} :
    ∀ rest, c :: digits = '0' :: rest → rest = [] :=
  fun _ heq => absurd (List.cons.inj heq).1 h

theorem leading_toDigits (n : Nat) : ∀ rest, Nat.toDigits 10 n = '0' :: rest → rest = [] := by
  by_cases hn : n = 0
  · subst hn
    rintro rest ⟨⟩
    rfl
  · obtain ⟨c, digits, hdigits, hc⟩ := exists_toDigits_eq_cons hn
    rw [hdigits]
    exact leading_of_ne hc

def Numeral.ofInt (n : Int) : Numeral where
  negative := decide (n < 0)
  whole := Nat.toDigits 10 n.natAbs
  places := none
  exponent := none
  areDigits_whole := areDigits_toDigits _
  leading := leading_toDigits _
  areDigits_places := nofun
  areDigits_exponent := nofun

theorem toList_text_int (n : Int) :
    (Number.text (.int n)).toList = (Numeral.ofInt n).chars := by
  rw [Number.text, Int.toString_eq_repr, Int.repr_eq_if]
  by_cases hn : 0 ≤ n
  · have hnat : n.toNat = n.natAbs := by omega
    rw [if_pos hn, hnat, Nat.toList_repr]
    simp [Numeral.chars, Numeral.ofInt, Numeral.placesChars, Numeral.exponentChars, hn]
  · have hnat : (-n).toNat = n.natAbs := by omega
    rw [if_neg hn, hnat, String.toList_append, Nat.toList_repr]
    simp [Numeral.chars, Numeral.ofInt, Numeral.placesChars, Numeral.exponentChars, Int.not_le.mp hn]

/-! ## Doubles -/

theorem AreDigits.of_subset {cs ds : List Char} (h : AreDigits ds) (hne : cs ≠ [])
    (hsubset : cs ⊆ ds) : AreDigits cs :=
  ⟨hne, fun c hc => h.2 c (hsubset hc)⟩

theorem AreDigits.zeros_append {cs : List Char} (h : AreDigits cs) (count : Nat) :
    AreDigits (List.replicate count '0' ++ cs) := by
  refine ⟨List.append_ne_nil_of_right_ne_nil _ h.1, fun c hc => ?_⟩
  rcases List.mem_append.mp hc with hc | hc
  · rw [List.eq_of_mem_replicate hc]
    rfl
  · exact h.2 c hc

theorem AreDigits.append_zeros {cs : List Char} (h : AreDigits cs) (count : Nat) :
    AreDigits (cs ++ List.replicate count '0') := by
  refine ⟨List.append_ne_nil_of_left_ne_nil h.1 _, fun c hc => ?_⟩
  rcases List.mem_append.mp hc with hc | hc
  · exact h.2 c hc
  · rw [List.eq_of_mem_replicate hc]
    rfl

theorem areDigits_zero : AreDigits ['0'] := areDigits_toDigits 0

theorem exists_numeral_scientific (negative : Bool) {c : Char} {digits : List Char} (hc : c ≠ '0')
    (hdigits : AreDigits (c :: digits)) (exponent : Int) :
    ∃ numeral : Numeral, numeral.chars =
      (if negative then ['-'] else []) ++ Double.scientific (c :: digits) exponent := by
  have hfirst : AreDigits [c] := hdigits.of_subset (List.cons_ne_nil _ _) (by simp)
  have hpower : ∀ power ∈ some (decide (exponent < 0), Nat.toDigits 10 exponent.natAbs),
      AreDigits power.2 := by
    rintro power ⟨⟩
    exact areDigits_toDigits _
  have hchars : Numeral.exponentChars
      (some (decide (exponent < 0), Nat.toDigits 10 exponent.natAbs)) =
        ['e', if exponent < 0 then '-' else '+'] ++ Double.decimalDigits exponent.natAbs := by
    simp [Numeral.exponentChars, Double.decimalDigits]
  cases digits with
  | nil =>
      refine ⟨⟨negative, [c], none, _, hfirst, leading_of_ne hc, nofun, hpower⟩, ?_⟩
      rw [Numeral.chars, hchars]
      simp [Numeral.placesChars, Double.scientific]
  | cons d digits =>
      have hplaces : AreDigits (d :: digits) :=
        hdigits.of_subset (List.cons_ne_nil _ _) (List.subset_cons_self _ _)
      refine ⟨⟨negative, [c], some (d :: digits), _, hfirst, leading_of_ne hc, ?_, hpower⟩, ?_⟩
      · rintro places ⟨⟩
        exact hplaces
      · rw [Numeral.chars, hchars]
        simp [Numeral.placesChars, Double.scientific]

/-- The digits of a positive significand are laid out as a numeral. -/
theorem exists_numeral_layout (negative : Bool) {n : Nat} (h : n ≠ 0) (e : Int) :
    ∃ numeral : Numeral, numeral.chars =
      (if negative then ['-'] else []) ++ Double.layout n e := by
  obtain ⟨c, digits, hdigits, hc⟩ := exists_toDigits_eq_cons h
  have hall : AreDigits (c :: digits) := hdigits ▸ areDigits_toDigits n
  unfold Double.layout
  rw [Double.decimalDigits, hdigits]
  simp only [Bool.and_eq_true, decide_eq_true_eq]
  by_cases hwhole : 0 ≤ e ∧ ((c :: digits).length : Int) + e ≤ 16
  · refine ⟨⟨negative, c :: digits ++ List.replicate e.toNat '0', some ['0'], none,
      hall.append_zeros _, leading_of_ne hc, ?_, nofun⟩, ?_⟩
    · rintro places ⟨⟩
      exact areDigits_zero
    · rw [if_pos hwhole]
      simp [Numeral.chars, Numeral.placesChars, Numeral.exponentChars]
  rw [if_neg hwhole]
  by_cases hbroken : 0 < ((c :: digits).length : Int) + e ∧ ((c :: digits).length : Int) + e ≤ 16
  · -- The point stands between two of the digits.
    obtain ⟨k, hk⟩ : ∃ k : Nat, (((c :: digits).length : Int) + e).toNat = k + 1 :=
      ⟨(((c :: digits).length : Int) + e).toNat - 1, by omega⟩
    have hplaces : digits.drop k ≠ [] := by
      rw [Ne, List.drop_eq_nil_iff]
      rw [List.length_cons] at hk hwhole hbroken
      omega
    refine ⟨⟨negative, c :: digits.take k, some (digits.drop k), none,
      hall.of_subset (List.cons_ne_nil _ _) ?_, leading_of_ne hc, ?_, nofun⟩, ?_⟩
    · exact List.cons_subset_cons _ (List.take_subset _ _)
    · rintro places ⟨⟩
      exact hall.of_subset hplaces
        (List.Subset.trans (List.drop_subset _ _) (List.subset_cons_self _ _))
    · rw [if_pos hbroken, hk]
      simp [Numeral.chars, Numeral.placesChars, Numeral.exponentChars]
  rw [if_neg hbroken]
  by_cases hsmall : -5 < ((c :: digits).length : Int) + e ∧ ((c :: digits).length : Int) + e ≤ 0
  · refine ⟨⟨negative, ['0'],
      some (List.replicate (-(((c :: digits).length : Int) + e)).toNat '0' ++ c :: digits), none,
      areDigits_zero, leading_toDigits 0, ?_, nofun⟩, ?_⟩
    · rintro places ⟨⟩
      exact hall.zeros_append _
    · rw [if_pos hsmall]
      simp [Numeral.chars, Numeral.placesChars, Numeral.exponentChars]
  rw [if_neg hsmall]
  exact exists_numeral_scientific negative hc hall _

theorem exists_numeral_text_double (d : Double) :
    ∃ numeral : Numeral, d.text.toList = numeral.chars := by
  unfold Double.text
  rw [String.toList_ofList]
  have hsign : ∀ body : List Char, (if d.isNegative then '-' :: body else body) =
      (if d.isNegative then ['-'] else []) ++ body := by
    intro body
    cases d.isNegative <;> rfl
  rw [hsign]
  by_cases hzero : d.magnitude = 0
  · refine ⟨⟨d.isNegative, ['0'], some ['0'], none, areDigits_zero, leading_toDigits 0, ?_, nofun⟩,
      ?_⟩
    · rintro places ⟨⟩
      exact areDigits_zero
    · rw [if_pos hzero]
      rfl
  · have hpositive := Double.shortest_ne_zero hzero
    rw [if_neg hzero]
    generalize d.shortest = shortest at hpositive ⊢
    have hstripped := Double.stripZeros_ne_zero 20 hpositive shortest.2
    generalize hstrip : Double.stripZeros 20 shortest.1 shortest.2 = stripped at hstripped
    obtain ⟨numeral, hnumeral⟩ := exists_numeral_layout d.isNegative hstripped stripped.2
    refine ⟨numeral, ?_⟩
    simp only [hstrip, hnumeral]

/-- The text of a number is a numeral. -/
theorem exists_numeral_utf8 (n : Number) :
    ∃ numeral : Numeral, Text.utf8 n.text = encode numeral.chars := by
  cases n with
  | int n => exact ⟨.ofInt n, Text.utf8_eq_encode (toList_text_int n)⟩
  | double d =>
      obtain ⟨numeral, hnumeral⟩ := exists_numeral_text_double d
      exact ⟨numeral, Text.utf8_eq_encode hnumeral⟩

/-! ## Numbers that are read from their own text -/

def Number.reread? (n : Number) : Option Number :=
  match Reader.takeNumber (Text.utf8 n.text) with
  | some (.number found, _) => found
  | _ => none

theorem takeNumber_text (n : Number) {rest : List UInt8} (hrest : Reader.EndsNumber rest) :
    Reader.takeNumber (Text.utf8 n.text ++ rest) = some (.number n.reread?, rest) := by
  obtain ⟨numeral, hbytes⟩ := exists_numeral_utf8 n
  have halone := Reader.takeNumber_numeral numeral Reader.endsNumber_nil
  rw [List.append_nil] at halone
  rw [Number.reread?, hbytes, halone, Reader.takeNumber_numeral numeral hrest]

theorem fill_append {xs ys : List Nat} {start middle : Nat} {result : Nat × List Nat}
    (h : Reader.fill start xs = (middle, [])) (hrest : Reader.fill middle ys = result) :
    Reader.fill start (xs ++ ys) = result := by
  induction xs generalizing start with
  | nil =>
      cases h
      exact hrest
  | cons x xs ih =>
      rw [Reader.fill] at h
      split at h
      · rename_i hfits
        rw [List.cons_append, Reader.fill, if_pos hfits]
        exact ih h
      · cases h

theorem digitValue_digitChar {n : Nat} (h : n < 10) : Reader.digitValue n.digitChar = n := by
  rw [Reader.digitValue, Nat.toNat_digitChar_of_lt_ten h, Nat.add_sub_cancel_left]

/-- The digits of a number of 64 bits fill the significand with it. -/
theorem fill_toDigits {n : Nat} (h : n < UInt64.size) :
    Reader.fill 0 ((Nat.toDigits 10 n).map Reader.digitValue) = (n, []) := by
  induction n using Nat.strongRecOn with
  | ind n ih =>
      by_cases hn : n < 10
      · rw [Nat.toDigits_of_lt_base hn, List.map_singleton, digitValue_digitChar hn, Reader.fill,
          if_pos (by omega), Reader.fill]
        simp
      · have hprefix := ih (n / 10) (by omega) (by omega)
        have hlast : n / 10 * 10 + n % 10 = n := by omega
        rw [Nat.toDigits_of_base_le (by decide) (by omega), List.map_append, List.map_singleton,
          digitValue_digitChar (by omega)]
        refine fill_append hprefix ?_
        rw [Reader.fill, hlast, if_pos h, Reader.fill]

/-- An integer of 64 bits is read back as it was. -/
theorem reread?_int {n : Int} (h : Number.Held (.int n)) :
    (Number.int n).reread? = some (.int n) := by
  obtain ⟨hlow, hhigh⟩ := h
  have hbytes : Text.utf8 (Number.int n).text = encode (Numeral.ofInt n).chars :=
    Text.utf8_eq_encode (toList_text_int n)
  have htake := Reader.takeNumber_numeral (Numeral.ofInt n) Reader.endsNumber_nil
  have hfill : Reader.fill 0 ((Nat.toDigits 10 n.natAbs).map Reader.digitValue) =
      (n.natAbs, []) := fill_toDigits (by change _ < 18446744073709551616; omega)
  rw [List.append_nil] at htake
  rw [Number.reread?, hbytes, htake]
  change Reader.numberValue (decide (n < 0)) _ none none = _
  unfold Reader.numberValue
  rw [show (Numeral.ofInt n).whole = Nat.toDigits 10 n.natAbs from rfl, hfill]
  by_cases hn : n < 0
  · have hsmall : 0 < n.natAbs ∧ n.natAbs ≤ Nat.pow 2 63 := by
      change _ ∧ _ ≤ 9223372036854775808
      omega
    simp only [hn, hsmall, decide_true, Bool.not_true, Bool.false_eq_true, if_false, Bool.and_self,
      if_true]
    congr 2
    omega
  · simp only [hn, decide_false, Bool.not_false, if_true]
    congr 2
    omega

end AccessControl.Json
