import AccessControl.Bytes.Percent
import Mathlib.Data.String.Basic

/-!
# Reading UTF-8 back

The bytes of a text are read back as that text. A byte below `0x80` stands for its own character
only, so a text without a percent sign has no such byte, and resolving percent signs leaves it as
it is. ASCII texts have their bytes in the same order as their characters.
-/

namespace AccessControl.Text

section

variable {b c d e : UInt8} (rest : List UInt8)

theorem takeScalar_one (hb : b.toNat < 0x80) :
    takeScalar b rest = (some (Char.ofNat b.toNat), rest) := by
  simp [takeScalar, hb]

theorem takeScalar_two (hb : 0xC2 ≤ b.toNat ∧ b.toNat ≤ 0xDF)
    (hc : 0x80 ≤ c.toNat ∧ c.toNat ≤ 0xBF) :
    takeScalar b (c :: rest) =
      (some (Char.ofNat ((b.toNat - 0xC0) * 64 + (c.toNat - 0x80))), rest) := by
  have hone : ¬ b.toNat < 0x80 := by omega
  simp [takeScalar, isTail, hone, hb, hc]

theorem takeScalar_three (hb : 0xE0 ≤ b.toNat ∧ b.toNat ≤ 0xEF)
    (hlow : (if b.toNat = 0xE0 then 0xA0 else 0x80) ≤ c.toNat)
    (hhigh : c.toNat ≤ if b.toNat = 0xED then 0x9F else 0xBF)
    (hd : 0x80 ≤ d.toNat ∧ d.toNat ≤ 0xBF) :
    takeScalar b (c :: d :: rest) =
      (some (Char.ofNat (((b.toNat - 0xE0) * 64 + (c.toNat - 0x80)) * 64 + (d.toNat - 0x80))),
        rest) := by
  have hone : ¬ b.toNat < 0x80 := by omega
  have htwo : ¬ b.toNat ≤ 0xDF := by omega
  simp [takeScalar, isTail, hone, htwo, hb, hlow, hhigh, hd]

theorem takeScalar_four (hb : 0xF0 ≤ b.toNat ∧ b.toNat ≤ 0xF4)
    (hlow : (if b.toNat = 0xF0 then 0x90 else 0x80) ≤ c.toNat)
    (hhigh : c.toNat ≤ if b.toNat = 0xF4 then 0x8F else 0xBF)
    (hd : 0x80 ≤ d.toNat ∧ d.toNat ≤ 0xBF) (he : 0x80 ≤ e.toNat ∧ e.toNat ≤ 0xBF) :
    takeScalar b (c :: d :: e :: rest) =
      (some (Char.ofNat ((((b.toNat - 0xF0) * 64 + (c.toNat - 0x80)) * 64 +
        (d.toNat - 0x80)) * 64 + (e.toNat - 0x80))), rest) := by
  have hone : ¬ b.toNat < 0x80 := by omega
  have htwo : ¬ b.toNat ≤ 0xDF := by omega
  have hthree : ¬ b.toNat ≤ 0xEF := by omega
  simp [takeScalar, isTail, hone, htwo, hthree, hb, hlow, hhigh, hd, he]

end

theorem toNat_ofNat_of_lt {n : Nat} (h : n < 256) : (UInt8.ofNat n).toNat = n :=
  UInt8.toNat_ofNat_of_lt' h

/-- The bytes of a character are read as that character. -/
theorem exists_takeScalar_utf8EncodeChar (c : Char) :
    ∃ b bytes, String.utf8EncodeChar c = b :: bytes ∧
      ∀ rest, takeScalar b (bytes ++ rest) = (some c, rest) := by
  have hvalid : c.toNat < 55296 ∨ 57343 < c.toNat ∧ c.toNat < 1114112 := c.valid
  have hval : c.val.toNat = c.toNat := rfl
  have hread : ∀ n : Nat, n = c.toNat → Char.ofNat n = c := by
    rintro n rfl
    exact Char.ofNat_toNat c
  unfold String.utf8EncodeChar
  rw [hval]
  generalize c.toNat = n at hvalid hread
  by_cases hone : n ≤ 127
  · refine ⟨_, [], if_pos hone, fun rest => ?_⟩
    have hb := toNat_ofNat_of_lt (show n < 256 by omega)
    rw [List.nil_append, takeScalar_one rest (by omega), hread _ hb]
  by_cases htwo : n ≤ 2047
  · refine ⟨_, [_], by rw [if_neg hone, if_pos htwo], fun rest => ?_⟩
    have hb := toNat_ofNat_of_lt (show n / 64 % 32 + 192 < 256 by omega)
    have hc := toNat_ofNat_of_lt (show n % 64 + 128 < 256 by omega)
    refine (takeScalar_two rest (by omega) (by omega)).trans ?_
    rw [hread _ (by omega)]
  by_cases hthree : n ≤ 65535
  · refine ⟨_, [_, _], by rw [if_neg hone, if_neg htwo, if_pos hthree], fun rest => ?_⟩
    have hb := toNat_ofNat_of_lt (show n / 4096 % 16 + 224 < 256 by omega)
    have hc := toNat_ofNat_of_lt (show n / 64 % 64 + 128 < 256 by omega)
    have hd := toNat_ofNat_of_lt (show n % 64 + 128 < 256 by omega)
    refine (takeScalar_three rest (by omega) ?_ ?_ (by omega)).trans ?_
    · split <;> omega
    · split <;> omega
    · rw [hread _ (by omega)]
  · refine ⟨_, [_, _, _], by rw [if_neg hone, if_neg htwo, if_neg hthree], fun rest => ?_⟩
    have hb := toNat_ofNat_of_lt (show n / 262144 % 8 + 240 < 256 by omega)
    have hc := toNat_ofNat_of_lt (show n / 4096 % 64 + 128 < 256 by omega)
    have hd := toNat_ofNat_of_lt (show n / 64 % 64 + 128 < 256 by omega)
    have he := toNat_ofNat_of_lt (show n % 64 + 128 < 256 by omega)
    refine (takeScalar_four rest (by omega) ?_ ?_ (by omega) (by omega)).trans ?_
    · split <;> omega
    · split <;> omega
    · rw [hread _ (by omega)]

theorem scalars_flatMap_utf8EncodeChar (cs : List Char) :
    scalars (cs.flatMap String.utf8EncodeChar) = cs.map some := by
  induction cs with
  | nil => simp
  | cons c cs ih =>
      obtain ⟨b, bytes, hbytes, htake⟩ := exists_takeScalar_utf8EncodeChar c
      rw [List.flatMap_cons, hbytes, List.cons_append, scalars_cons, htake, ih]
      rfl

theorem ofUtf8?_utf8 (s : String) : ofUtf8? (utf8 s) = some s := by
  have hchars : (s.toList.map some).mapM id = some s.toList := by
    rw [List.mapM_map]
    exact (List.mapM_pure (m := Option)).trans (congrArg some (List.map_id _))
  rw [ofUtf8?, utf8, scalars_flatMap_utf8EncodeChar, hchars, Option.map_some, String.ofList_toList]

theorem ofUtf8Lossy_utf8 (s : String) : ofUtf8Lossy (utf8 s) = s := by
  have hchars : (s.toList.map some).map (·.getD '\uFFFD') = s.toList := by
    rw [List.map_map]
    exact List.map_id _
  rw [ofUtf8Lossy, utf8, scalars_flatMap_utf8EncodeChar, hchars, String.ofList_toList]

theorem firstFault_flatMap_utf8EncodeChar (cs : List Char) (start : Nat) :
    firstFault start (cs.flatMap String.utf8EncodeChar) = none := by
  induction cs generalizing start with
  | nil => rw [List.flatMap_nil, firstFault]
  | cons c cs ih =>
      obtain ⟨b, bytes, hbytes, htake⟩ := exists_takeScalar_utf8EncodeChar c
      rw [List.flatMap_cons, hbytes, List.cons_append, firstFault, htake]
      exact ih _

theorem utf8_injective : Function.Injective utf8 := by
  intro s t h
  have hread := ofUtf8?_utf8 s
  rw [h, ofUtf8?_utf8] at hread
  exact (Option.some_inj.mp hread).symm

theorem toNat_of_mem_utf8EncodeChar {b : UInt8} {c : Char} (h : b ∈ String.utf8EncodeChar c)
    (hb : b.toNat < 0x80) : b.toNat = c.toNat := by
  have hlarge : ∀ n : Nat, 0x80 ≤ n → n < 256 → b ≠ UInt8.ofNat n := by
    rintro n hn hn' rfl
    rw [toNat_ofNat_of_lt hn'] at hb
    omega
  have hval : c.val.toNat = c.toNat := rfl
  simp only [String.utf8EncodeChar, hval] at h
  by_cases hone : c.toNat ≤ 127
  · rw [if_pos hone] at h
    rw [List.mem_singleton.mp h, toNat_ofNat_of_lt (by omega)]
  -- All bytes of a longer sequence are large.
  rw [if_neg hone] at h
  exfalso
  split at h
  · simp only [List.mem_cons, List.not_mem_nil, or_false] at h
    rcases h with h | h <;> exact hlarge _ (by omega) (by omega) h
  split at h
  · simp only [List.mem_cons, List.not_mem_nil, or_false] at h
    rcases h with h | h | h <;> exact hlarge _ (by omega) (by omega) h
  · simp only [List.mem_cons, List.not_mem_nil, or_false] at h
    rcases h with h | h | h | h <;> exact hlarge _ (by omega) (by omega) h

theorem percent_notMem_utf8 {s : String} (h : '%' ∉ s.toList) : (37 : UInt8) ∉ utf8 s := by
  intro hmem
  obtain ⟨c, hc, hbyte⟩ := List.mem_flatMap.mp hmem
  have hchar : c = '%' := Char.toNat_inj.mp (toNat_of_mem_utf8EncodeChar hbyte (by decide)).symm
  exact h (hchar ▸ hc)

/-! ## Bytes of characters -/

def encode (cs : List Char) : List UInt8 := cs.flatMap String.utf8EncodeChar

theorem utf8_ofList (cs : List Char) : utf8 (String.ofList cs) = encode cs := by
  rw [utf8, String.toList_ofList, encode]

@[simp] theorem encode_nil : encode [] = [] := rfl

theorem encode_append (cs ds : List Char) : encode (cs ++ ds) = encode cs ++ encode ds :=
  List.flatMap_append

theorem encode_cons_of_ascii {c : Char} (h : c.toNat < 128) (cs : List Char) :
    encode (c :: cs) = UInt8.ofNat c.toNat :: encode cs := by
  have hval : c.val.toNat = c.toNat := rfl
  rw [encode, List.flatMap_cons, String.utf8EncodeChar, hval, if_pos (Nat.le_of_lt_succ h)]
  rfl

theorem utf8_eq_encode {s : String} {cs : List Char} (h : s.toList = cs) : utf8 s = encode cs := by
  rw [← h, utf8, encode]

/-- On ASCII texts the order of the characters is the order of the bytes. -/
theorem encode_lt_encode {cs ds : List Char} (hcs : ∀ c ∈ cs, c.toNat < 128)
    (hds : ∀ d ∈ ds, d.toNat < 128) (h : cs < ds) : encode cs < encode ds := by
  induction cs generalizing ds with
  | nil =>
      cases ds with
      | nil => exact absurd h (List.not_lt_nil _)
      | cons d ds =>
          rw [encode_cons_of_ascii (List.forall_mem_cons.mp hds).1]
          exact List.nil_lt_cons _ _
  | cons c cs ih =>
      cases ds with
      | nil => exact absurd h (List.not_lt_nil _)
      | cons d ds =>
          obtain ⟨hc, hcs⟩ := List.forall_mem_cons.mp hcs
          obtain ⟨hd, hrest⟩ := List.forall_mem_cons.mp hds
          rw [encode_cons_of_ascii hc, encode_cons_of_ascii hd, List.cons_lt_cons_iff]
          rcases List.cons_lt_cons_iff.mp h with hlt | ⟨rfl, hlt⟩
          · left
            rw [UInt8.lt_iff_toNat_lt, toNat_ofNat_of_lt (by omega), toNat_ofNat_of_lt (by omega)]
            exact hlt
          · exact .inr ⟨rfl, ih hcs hrest hlt⟩

theorem utf8_lt_utf8_iff {s t : String} (hs : ∀ c ∈ s.toList, c.toNat < 128)
    (ht : ∀ c ∈ t.toList, c.toNat < 128) : utf8 s < utf8 t ↔ s < t := by
  refine ⟨fun h => ?_, fun h => encode_lt_encode hs ht (String.lt_iff.mp h)⟩
  rcases lt_trichotomy s t with hlt | rfl | hgt
  · exact hlt
  · exact absurd h (List.lt_irrefl _)
  · exact absurd h (List.lt_asymm (encode_lt_encode ht hs (String.lt_iff.mp hgt)))

end AccessControl.Text

namespace AccessControl.Bytes

theorem percentDecode_of_notMem {bytes : List UInt8} (h : (37 : UInt8) ∉ bytes) :
    percentDecode bytes = bytes := by
  induction bytes with
  | nil => simp
  | cons b bytes ih =>
      rw [List.mem_cons, not_or] at h
      unfold percentDecode
      rw [if_neg (Ne.symm h.1), ih h.2]

end AccessControl.Bytes
