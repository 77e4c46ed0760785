import AccessControl.Protobuf.Message
import AccessControl.Proofs.Text.Utf8
import Mathlib.Algebra.Group.Nat.Defs

/-!
# Answers on the wire

An answer as a server writes it: each decision is a counted field of the answer, with its name and
its outcome as fields, which are left out if they are empty or false. Each reader takes back what
the writer of the same kind puts in front of the rest of the bytes, numbers below `2 ^ 64` first,
then keys, texts and flags, then the fields of a message one after the other. So an answer is read
back whole, and with the outcomes that were written.
-/

namespace AccessControl.Protobuf

def writeDecision (decision : Decision) : List UInt8 :=
  textField 1 decision.name ++ flagField 2 decision.holds

def writeAnswer (answer : Answer) : List UInt8 :=
  answer.decisions.flatMap fun decision => counted 1 (writeDecision decision)

/-- Whether the length of every decision can be written. -/
def Fits (answer : Answer) : Prop :=
  ∀ decision ∈ answer.decisions, (writeDecision decision).length < 2 ^ 64

/-! ## Numbers -/

theorem varint_of_lt {n : Nat} (h : n < 128) : varint n = [UInt8.ofNat n] := by
  rw [varint, if_pos h]

theorem varint_of_le {n : Nat} (h : 128 ≤ n) :
    varint n = UInt8.ofNat (n % 128 + 128) :: varint (n / 128) := by
  rw [varint, if_neg (Nat.not_lt.mpr h)]

theorem length_varint_pos (n : Nat) : 0 < (varint n).length := by
  unfold varint
  split <;> simp

/-- A low byte ends a number, and in the last place it holds one bit. -/
theorem varintWithin_low {left n : Nat} (hn : n < 128) (hlast : left = 0 → n < 2)
    (rest : List UInt8) : varintWithin (left + 1) (UInt8.ofNat n :: rest) = .ok (n, rest) := by
  have hbyte : (UInt8.ofNat n).toNat = n := Text.toNat_ofNat_of_lt (by omega)
  have hlow : UInt8.ofNat n < 128 := by
    rw [UInt8.lt_iff_toNat_lt, hbyte]
    exact hn
  have hfits : ¬ (left = 0 ∧ 2 ≤ UInt8.ofNat n) := by
    rintro ⟨hleft, hle⟩
    rw [UInt8.le_iff_toNat_le, hbyte] at hle
    exact absurd (hlast hleft) (Nat.not_lt.mpr hle)
  rw [varintWithin, if_pos hlow, if_neg (by simpa using hfits), hbyte]

/-- A high byte goes before the rest of its number. -/
theorem varintWithin_high {left n m : Nat} {bytes rest : List UInt8} (hn : n < 128)
    (hrest : varintWithin left bytes = .ok (m, rest)) :
    varintWithin (left + 1) (UInt8.ofNat (n + 128) :: bytes) = .ok (n + 128 * m, rest) := by
  have hbyte : (UInt8.ofNat (n + 128)).toNat = n + 128 := Text.toNat_ofNat_of_lt (by omega)
  have hhigh : ¬ UInt8.ofNat (n + 128) < 128 := by
    rw [UInt8.lt_iff_toNat_lt, hbyte]
    exact Nat.not_lt.mpr (Nat.le_add_left 128 n)
  rw [varintWithin, if_neg hhigh, hrest, hbyte, Nat.add_sub_cancel]
  rfl

theorem varintWithin_varint {left n : Nat} (h : n < 2 * 128 ^ left) (rest : List UInt8) :
    varintWithin (left + 1) (varint n ++ rest) = .ok (n, rest) := by
  induction left generalizing n with
  | zero =>
      have hlow : n < 2 := by simpa using h
      rw [varint_of_lt (by omega)]
      exact varintWithin_low (by omega) (fun _ => hlow) rest
  | succ left ih =>
      by_cases hlow : n < 128
      · rw [varint_of_lt hlow]
        exact varintWithin_low hlow (fun hzero => absurd hzero (Nat.succ_ne_zero left)) rest
      · have hrest : n / 128 < 2 * 128 ^ left := by
          rw [Nat.pow_succ, ← Nat.mul_assoc] at h
          exact Nat.div_lt_of_lt_mul (Nat.mul_comm _ 128 ▸ h)
        rw [varint_of_le (Nat.not_lt.mp hlow), List.cons_append,
          varintWithin_high (Nat.mod_lt n (by decide)) (ih hrest), Nat.mod_add_div]

theorem readVarint_varint {n : Nat} (h : n < 2 ^ 64) (rest : List UInt8) :
    readVarint (varint n ++ rest) = .ok (n, rest) :=
  varintWithin_varint (by simpa using h) rest

/-! ## Fields -/

theorem readKey_key {number wire : Nat} {layout : Layout} (hnumber : 0 < number)
    (hkey : 8 * number + wire < UInt32.size) (hwire : wire < 8)
    (hlayout : Layout.ofCode? wire = some layout) (rest : List UInt8) :
    readKey (key number wire ++ rest) = .ok (number, layout, rest) := by
  have hsmall : 8 * number + wire < 2 ^ 64 := Nat.lt_trans hkey (by decide)
  have hcode : (8 * number + wire) % 8 = wire := by omega
  have hindex : (8 * number + wire) / 8 = number := by omega
  simp only [readKey, key, readVarint_varint hsmall, bind, Except.bind]
  rw [if_neg (Nat.not_le.mpr hkey), hcode, hlayout, hindex]
  exact if_neg (Nat.ne_of_gt hnumber)

theorem length_key_pos (number wire : Nat) : 0 < (key number wire).length := length_varint_pos _

theorem readCounted_append {payload : List UInt8} (h : payload.length < 2 ^ 64)
    (rest : List UInt8) :
    readCounted (varint payload.length ++ payload ++ rest) = .ok (payload, rest) := by
  rw [List.append_assoc]
  simp only [readCounted, readVarint_varint h, bind, Except.bind, takeBytes]
  rw [if_neg (by simp), List.take_left, List.drop_left]

theorem readText_append {s : String} (h : (Text.utf8 s).length < 2 ^ 64) (rest : List UInt8) :
    readText .counted (varint (Text.utf8 s).length ++ Text.utf8 s ++ rest) = .ok (s, rest) := by
  simp only [readText, expect_self, readCounted_append h, bind, Except.bind, Text.ofUtf8?_utf8]

section

variable {α : Type} {field : FieldReader α} {stop fuel : Nat} {bytes rest : List UInt8}
  {value next : α} {number wire : Nat} {layout : Layout}

theorem readFields_of_le (h : bytes.length ≤ stop) :
    readFields field stop fuel bytes value = .ok (value, bytes) := by
  cases fuel with
  | zero => rfl
  | succ fuel => rw [readFields, if_pos h]

/-- A field that starts with its key is taken up at the cost of one unit of fuel. -/
theorem readFields_key (hkey : readKey (key number wire ++ bytes) = .ok (number, layout, bytes))
    (hstop : stop ≤ bytes.length) (hfuel : 0 < fuel)
    (hfield : field number layout bytes value = .ok (next, rest)) :
    readFields field stop fuel (key number wire ++ bytes) value =
      readFields field stop (fuel - 1) rest next := by
  have hlonger : stop < (key number wire ++ bytes).length := by
    have hpositive := length_key_pos number wire
    rw [List.length_append]
    omega
  obtain ⟨left, rfl⟩ := Nat.exists_eq_add_one_of_ne_zero (Nat.ne_of_gt hfuel)
  rw [readFields, if_neg (Nat.not_le.mpr hlonger), hkey]
  simp only [hfield, Nat.add_sub_cancel]

end

/-! ## Decisions -/

theorem flagField_true (number : Nat) : flagField number true = key number 0 ++ varint 1 := by
  rw [flagField, numberField, Bool.toNat_true, if_neg Nat.one_ne_zero]

theorem textField_of_ne {s : String} (h : s ≠ "") (number : Nat) :
    textField number s = key number 2 ++ (varint (Text.utf8 s).length ++ Text.utf8 s) := by
  rw [textField, if_neg (by rwa [String.isEmpty_iff]), text, counted, List.append_assoc]

theorem readFields_flag {fuel : Nat} {holds : Bool} (name : String)
    (hfuel : (flagField 2 holds).length ≤ fuel) (rest : List UInt8) :
    readFields decisionField rest.length fuel (flagField 2 holds ++ rest) ⟨name, false⟩ =
      .ok (⟨name, holds⟩, rest) := by
  cases holds with
  | false => exact readFields_of_le (Nat.le_refl _)
  | true =>
      have hfield : decisionField 2 .varint (varint 1 ++ rest) ⟨name, false⟩ =
          .ok (⟨name, true⟩, rest) := by
        simp only [decisionField, readFlag, expect_self, bind, Except.bind,
          readVarint_varint (show 1 < 2 ^ 64 by decide)]
        rfl
      have hpositive := length_key_pos 2 0
      rw [flagField_true, List.length_append] at hfuel
      rw [flagField_true, List.append_assoc,
        readFields_key (readKey_key (by decide) (by decide) (by decide) rfl _) (by simp) (by omega)
          hfield, readFields_of_le (Nat.le_refl _)]

theorem readFields_decision {fuel : Nat} {decision : Decision}
    (hfits : (writeDecision decision).length < 2 ^ 64)
    (hfuel : (writeDecision decision).length ≤ fuel) (rest : List UInt8) :
    readFields decisionField rest.length fuel (writeDecision decision ++ rest) ⟨"", false⟩ =
      .ok (decision, rest) := by
  rcases decision with ⟨name, holds⟩
  by_cases hname : name = ""
  · subst hname
    exact readFields_flag "" hfuel rest
  · simp only [writeDecision, textField_of_ne hname, List.length_append] at hfits hfuel
    have hfield : decisionField 1 .counted
        (varint (Text.utf8 name).length ++ Text.utf8 name ++ (flagField 2 holds ++ rest))
        ⟨"", false⟩ = .ok (⟨name, false⟩, flagField 2 holds ++ rest) := by
      simp only [decisionField, readText_append (show (Text.utf8 name).length < 2 ^ 64 by omega)]
      rfl
    have hpositive := length_key_pos 1 2
    simp only [writeDecision, textField_of_ne hname]
    rw [List.append_assoc, List.append_assoc,
      readFields_key (readKey_key (by decide) (by decide) (by decide) rfl _)
        (by simp only [List.length_append]; omega) (by omega) hfield]
    exact readFields_flag name (by omega) rest

theorem mapError_ok {α ε ε' : Type} (f : ε → ε') (value : α) :
    (Except.ok value : Except ε α).mapError f = .ok value := rfl

theorem readNested_decision {decision : Decision} (hfits : (writeDecision decision).length < 2 ^ 64)
    (rest : List UInt8) :
    readNested decisionField ⟨"", false⟩ .counted
      (varint (writeDecision decision).length ++ writeDecision decision ++ rest) =
        .ok (decision, rest) := by
  have hstop : (writeDecision decision ++ rest).length - (writeDecision decision).length =
      rest.length := by simp
  rw [List.append_assoc]
  simp only [readNested, expect_self, readVarint_varint hfits, mapError_ok, bind, Except.bind]
  rw [if_neg (by simp), hstop, readFields_decision hfits (by simp)]
  exact if_pos rfl

/-! ## Answers -/

theorem readFields_answer {decisions : List Decision} {fuel : Nat} (hfits : Fits ⟨decisions⟩)
    (hfuel : (writeAnswer ⟨decisions⟩).length ≤ fuel) (read : List Decision) :
    readFields answerField 0 fuel (writeAnswer ⟨decisions⟩) ⟨read⟩ =
      .ok (⟨read ++ decisions⟩, []) := by
  induction decisions generalizing fuel read with
  | nil =>
      rw [List.append_nil]
      exact readFields_of_le (Nat.le_refl _)
  | cons decision decisions ih =>
      obtain ⟨hdecision, hrest⟩ := List.forall_mem_cons.mp hfits
      have hbytes : writeAnswer ⟨decision :: decisions⟩ = key 1 2 ++
          (varint (writeDecision decision).length ++ writeDecision decision ++
            writeAnswer ⟨decisions⟩) := by
        simp only [writeAnswer, List.flatMap_cons, counted, List.append_assoc]
      have hfield : answerField 1 .counted
          (varint (writeDecision decision).length ++ writeDecision decision ++
            writeAnswer ⟨decisions⟩) ⟨read⟩ =
          .ok (⟨read ++ [decision]⟩, writeAnswer ⟨decisions⟩) := by
        simp only [answerField, readNested_decision hdecision]
        rfl
      have hpositive := length_key_pos 1 2
      rw [hbytes] at hfuel ⊢
      rw [List.length_append, List.length_append] at hfuel
      rw [readFields_key (readKey_key (by decide) (by decide) (by decide) rfl _) (Nat.zero_le _)
        (by omega) hfield, ih hrest (by omega), List.append_assoc]
      rfl

/-- An answer is read back as it was written. -/
theorem readAnswer_writeAnswer {answer : Answer} (h : Fits answer) :
    readAnswer (writeAnswer answer) = .ok answer := by
  rw [readAnswer, readMessage, readFields_answer h (Nat.le_refl _) []]
  rfl

end AccessControl.Protobuf
