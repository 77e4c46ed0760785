import AccessControl.Json.Printer
import AccessControl.Proofs.Json.Numeral

/-!
# String literals

A string literal is read in pieces: a byte for each byte of a character that stands for itself, a
code unit for a character that is escaped. Each character is escaped by a letter of its own, by its
number or not at all, and in each case its pieces give it back. So the literal of a text is read as
that text.
-/

namespace AccessControl.Json.Reader

open Text (encode encode_append encode_cons_of_ascii)

section

variable (rest : List UInt8)

theorem takePieces_short {b : UInt8} {n : Nat} (h : shortEscape? b = some n) :
    takePieces (92 :: b :: rest) =
      (takePieces rest).map fun (pieces, rest) => (.unit n :: pieces, rest) := by
  have hb : b ≠ 117 := by
    rintro rfl
    cases h
  rw [takePieces, h]
  · cases takePieces rest <;> rfl
  · rintro _ _ _ _ _ hunicode _
    exact hb hunicode

theorem takePieces_unicode {a b c d : UInt8} {n : Nat} (h : hexUnit? a b c d = some n) :
    takePieces (92 :: 117 :: a :: b :: c :: d :: rest) =
      (takePieces rest).map fun (pieces, rest) => (.unit n :: pieces, rest) := by
  rw [takePieces, h]
  cases takePieces rest <;> rfl

theorem takePieces_byte {b : UInt8} (hlow : 32 ≤ b.toNat) (hquote : b ≠ 34) (hslash : b ≠ 92) :
    takePieces (b :: rest) =
      (takePieces rest).map fun (pieces, rest) => (.byte b :: pieces, rest) := by
  have hb : ¬ b < 32 := by
    rw [UInt8.lt_iff_toNat_lt]
    exact Nat.not_lt.mpr hlow
  rw [takePieces]
  · simp [hb, hslash]
  · exact hquote
  · rintro _ _ _ _ _ hescape _
    exact hslash hescape
  · rintro _ _ hescape _
    exact hslash hescape

theorem takePieces_bytes {bytes : List UInt8}
    (h : ∀ b ∈ bytes, 32 ≤ b.toNat ∧ b ≠ 34 ∧ b ≠ 92) :
    takePieces (bytes ++ rest) =
      (takePieces rest).map fun (pieces, rest) => (bytes.map .byte ++ pieces, rest) := by
  induction bytes with
  | nil =>
      rw [List.nil_append]
      cases takePieces rest <;> rfl
  | cons b bytes ih =>
      obtain ⟨⟨hlow, hquote, hslash⟩, hbytes⟩ := List.forall_mem_cons.mp h
      rw [List.cons_append, takePieces_byte _ hlow hquote hslash, ih hbytes]
      cases takePieces rest <;> rfl

def isEscaped (c : Char) : Bool := c == '"' || c == '\\' || c.toNat < 32

def charPieces (c : Char) : List Piece :=
  if isEscaped c then [.unit c.toNat] else (String.utf8EncodeChar c).map .byte

theorem hexUnit?_control : ∀ n < 32, hexUnit? 48 48
    (UInt8.ofNat (Bytes.hexDigit (n / 16)).toNat) (UInt8.ofNat (Bytes.hexDigit (n % 16)).toNat) =
      some n := by
  decide

theorem toNat_hexDigit_lt : ∀ n < 16, (Bytes.hexDigit n).toNat < 128 := by
  decide

theorem takePieces_of_not_isEscaped {c : Char} (h : isEscaped c = false) :
    takePieces (encode [c] ++ rest) =
      (takePieces rest).map fun (pieces, rest) => (charPieces c ++ pieces, rest) := by
  have hbytes : ∀ b ∈ String.utf8EncodeChar c, 32 ≤ b.toNat ∧ b ≠ 34 ∧ b ≠ 92 := by
    intro b hb
    simp only [isEscaped, Bool.or_eq_false_iff, beq_eq_false_iff_ne, decide_eq_false_iff_not] at h
    obtain ⟨⟨hquote, hslash⟩, hlow⟩ := h
    by_cases hsmall : b.toNat < 0x80
    · have hnat := Text.toNat_of_mem_utf8EncodeChar hb hsmall
      refine ⟨by omega, ?_, ?_⟩
      · rintro rfl
        exact hquote (Char.toNat_inj.mp hnat.symm)
      · rintro rfl
        exact hslash (Char.toNat_inj.mp hnat.symm)
    · refine ⟨by omega, ?_, ?_⟩ <;> rintro rfl <;> exact hsmall (by decide)
  have hencode : encode [c] = String.utf8EncodeChar c := List.append_nil _
  rw [hencode, takePieces_bytes rest hbytes, charPieces, h]
  rfl

/-- An escape of one letter stands for the character that it names. -/
theorem takePieces_letter {c : Char} (letter : Char) (hletter : letter.toNat < 128)
    (hc : isEscaped c = true) (h : shortEscape? (UInt8.ofNat letter.toNat) = some c.toNat) :
    takePieces (encode ['\\', letter] ++ rest) =
      (takePieces rest).map fun (pieces, rest) => (charPieces c ++ pieces, rest) := by
  have hbytes : encode ['\\', letter] = [92, UInt8.ofNat letter.toNat] := by
    rw [encode_cons_of_ascii (by decide), encode_cons_of_ascii hletter]
    rfl
  rw [hbytes, charPieces, if_pos hc]
  exact takePieces_short rest h

theorem takePieces_control {c : Char} (h : c.toNat < 32) :
    takePieces (encode ['\\', 'u', '0', '0', Bytes.hexDigit (c.toNat / 16),
        Bytes.hexDigit (c.toNat % 16)] ++ rest) =
      (takePieces rest).map fun (pieces, rest) => (charPieces c ++ pieces, rest) := by
  have hc : isEscaped c = true := by simp [isEscaped, h]
  rw [encode_cons_of_ascii (by decide), encode_cons_of_ascii (by decide),
    encode_cons_of_ascii (by decide), encode_cons_of_ascii (by decide),
    encode_cons_of_ascii (toNat_hexDigit_lt _ (by omega)),
    encode_cons_of_ascii (toNat_hexDigit_lt _ (by omega)), charPieces, if_pos hc]
  exact takePieces_unicode rest (hexUnit?_control _ h)

theorem takePieces_escapeChar (c : Char) :
    takePieces (encode (escapeChar c) ++ rest) =
      (takePieces rest).map fun (pieces, rest) => (charPieces c ++ pieces, rest) := by
  by_cases hescaped : isEscaped c = true
  · unfold escapeChar
    split
    · rename_i h
      cases eq_of_beq h
      exact takePieces_letter rest '"' (by decide) hescaped rfl
    split
    · rename_i h
      cases eq_of_beq h
      exact takePieces_letter rest '\\' (by decide) hescaped rfl
    split
    · rename_i h
      exact takePieces_letter rest 'b' (by decide) hescaped (by rw [h]; rfl)
    split
    · rename_i h
      exact takePieces_letter rest 'f' (by decide) hescaped (by rw [h]; rfl)
    split
    · rename_i h
      cases eq_of_beq h
      exact takePieces_letter rest 'n' (by decide) hescaped rfl
    split
    · rename_i h
      cases eq_of_beq h
      exact takePieces_letter rest 'r' (by decide) hescaped rfl
    split
    · rename_i h
      cases eq_of_beq h
      exact takePieces_letter rest 't' (by decide) hescaped rfl
    · rename_i hquote hslash _ _ _ _ _
      have hlow : c.toNat < 32 := by simpa [isEscaped, hquote, hslash] using hescaped
      rw [if_pos hlow]
      exact takePieces_control rest hlow
  · rw [Bool.not_eq_true] at hescaped
    have hplain : escapeChar c = [c] := by
      simp only [isEscaped, Bool.or_eq_false_iff, beq_eq_false_iff_ne,
        decide_eq_false_iff_not] at hescaped
      obtain ⟨⟨hquote, hslash⟩, hlow⟩ := hescaped
      have hne : ∀ d : Char, d.toNat < 32 → c ≠ d := by
        rintro d hd rfl
        exact hlow hd
      simp [escapeChar, hquote, hslash, hlow, hne '\n' (by decide), hne '\r' (by decide),
        hne '\t' (by decide), show c.toNat ≠ 8 by omega, show c.toNat ≠ 12 by omega]
    rw [hplain]
    exact takePieces_of_not_isEscaped rest hescaped

def textPieces (cs : List Char) : List Piece := cs.flatMap charPieces

theorem takePieces_encode (cs : List Char) :
    takePieces (encode (cs.flatMap escapeChar ++ ['"']) ++ rest) = some (textPieces cs, rest) := by
  induction cs with
  | nil => rfl
  | cons c cs ih =>
      rw [List.flatMap_cons, List.append_assoc, encode_append, List.append_assoc,
        takePieces_escapeChar, ih]
      rfl

end

theorem pieceBytes?_bytes (bytes : List UInt8) (rest : List Piece) :
    pieceBytes? (bytes.map .byte ++ rest) = (pieceBytes? rest).map (bytes ++ ·) := by
  induction bytes with
  | nil =>
      rw [List.map_nil, List.nil_append]
      cases pieceBytes? rest <;> rfl
  | cons b bytes ih =>
      rw [List.map_cons, List.cons_append, pieceBytes?, ih]
      cases pieceBytes? rest <;> rfl

theorem pieceBytes?_unit {n : Nat} (h : n < 0xD800) (rest : List Piece) :
    pieceBytes? (.unit n :: rest) = (pieceBytes? rest).map (encodePoint n ++ ·) := by
  have hhigh : ¬ (0xD800 ≤ n ∧ n ≤ 0xDBFF) := by omega
  have hlow : ¬ (0xDC00 ≤ n ∧ n ≤ 0xDFFF) := by omega
  have hany : ¬ (0xD800 ≤ n ∧ n ≤ 0xDFFF) := by omega
  match rest with
  | [] => simp [pieceBytes?, hany]
  | .byte b :: rest => simp [pieceBytes?, hany]
  | .unit low :: rest => simp [pieceBytes?, hhigh, hlow]

theorem pieceBytes?_charPieces (c : Char) (rest : List Piece) :
    pieceBytes? (charPieces c ++ rest) =
      (pieceBytes? rest).map (String.utf8EncodeChar c ++ ·) := by
  unfold charPieces
  split
  · rename_i hescaped
    have hsmall : c.toNat < 0xD800 := by
      simp only [isEscaped, Bool.or_eq_true, beq_iff_eq, decide_eq_true_eq] at hescaped
      rcases hescaped with (rfl | rfl) | hlow
      · decide
      · decide
      · omega
    rw [List.singleton_append, pieceBytes?_unit hsmall, encodePoint, Char.ofNat_toNat]
  · exact pieceBytes?_bytes _ _

theorem pieceText?_textPieces (s : String) : pieceText? (textPieces s.toList) = some s := by
  have hall : ∀ cs, pieceBytes? (textPieces cs) = some (encode cs) := by
    intro cs
    induction cs with
    | nil => rfl
    | cons c cs ih =>
        rw [textPieces, List.flatMap_cons, pieceBytes?_charPieces, ← textPieces, ih]
        rfl
  rw [pieceText?, hall, Option.bind_some]
  exact Text.ofUtf8?_utf8 s

end AccessControl.Json.Reader
