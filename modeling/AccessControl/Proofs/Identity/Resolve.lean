import AccessControl.Proofs.Identity.Rules

/-!
# How rules resolve

A mapper is asked first and its result is normalized. Without a mapper the rules take one text,
from their source or their fixed one, and `ofText` makes an identity of it: anonymous if nothing is
left of the text, of the declared kind if there is one, and otherwise a token or a subject, as the
text looks. Every identity that comes out is anonymous exactly if it has no text.
-/

namespace AccessControl.Identity

/-- What is left of a text: it is trimmed, and an authorization value loses its scheme. -/
def remainder (fromAuthorization : Bool) (raw : String) : String :=
  if fromAuthorization then stripBearer raw else Text.trim raw

def ofText (kind : Option Kind) (fromAuthorization : Bool) (raw : String) : Identity :=
  if (remainder fromAuthorization raw).isEmpty then unknown
  else ofValue kind fromAuthorization (remainder fromAuthorization raw)

theorem kind_of (kind : Kind) (value : String) :
    (of kind value).kind = if value = "" then .anonymous else kind := by
  unfold of
  by_cases hkind : kind = .anonymous <;> by_cases hvalue : value = "" <;>
    simp [hkind, hvalue, unknown]

theorem value_of {kind : Kind} (hkind : kind ≠ .anonymous) (value : String) :
    (of kind value).value = value := by
  unfold of
  by_cases hvalue : value = "" <;> simp [hkind, hvalue, unknown]

theorem ofText_of_remainder {kind : Option Kind} {fromAuthorization : Bool} {raw : String}
    (h : remainder fromAuthorization raw = "") : ofText kind fromAuthorization raw = unknown := by
  simp [ofText, h]

/-- Nothing is left of a blank text, whichever way it is read. -/
theorem remainder_of_blank {raw : String} (h : Text.trim raw = "") (fromAuthorization : Bool) :
    remainder fromAuthorization raw = "" := by
  cases fromAuthorization with
  | false => exact h
  | true =>
      simp only [remainder, stripBearer, h]
      decide

/-- The `sub` claim may take the place of a token, but a declared kind stays. -/
theorem exists_ofValue_some (kind : Kind) (fromAuthorization : Bool) (value : String) :
    ∃ text, ofValue (some kind) fromAuthorization value = of kind text := by
  cases kind with
  | subject => cases fromAuthorization <;> exact ⟨_, rfl⟩
  | anonymous => exact ⟨value, rfl⟩
  | jwt => exact ⟨value, rfl⟩
  | manual => exact ⟨value, rfl⟩

theorem ofValue_none (fromAuthorization : Bool) (value : String) :
    ofValue none fromAuthorization value =
      of (if Token.looksLike value then .jwt else .subject) value := by
  unfold ofValue
  cases Token.looksLike value <;> rfl

/-- A text of which nothing is left needs no case of its own: it is anonymous in every kind. -/
theorem ofText_eq_ofValue (kind : Option Kind) (fromAuthorization : Bool) (raw : String) :
    ofText kind fromAuthorization raw =
      ofValue kind fromAuthorization (remainder fromAuthorization raw) := by
  by_cases h : remainder fromAuthorization raw = ""
  · rw [ofText_of_remainder h, h]
    cases kind with
    | none => rw [ofValue_none, of_empty]
    | some kind => cases kind <;> cases fromAuthorization <;> rfl
  · simp [ofText, h]

/-- The kind of a text that is no authorization value. -/
def kindOf (kind : Option Kind) (text : String) : Kind :=
  kind.getD (if Token.looksLike text then .jwt else .subject)

theorem ofValue_false (kind : Option Kind) (text : String) :
    ofValue kind false text = of (kindOf kind text) text := by
  cases kind with
  | none => exact ofValue_none false text
  | some kind => cases kind <;> rfl

theorem wellFormed_ofText (kind : Option Kind) (fromAuthorization : Bool) (raw : String) :
    (ofText kind fromAuthorization raw).WellFormed := by
  rw [ofText_eq_ofValue]
  cases kind with
  | none =>
      rw [ofValue_none]
      exact wellFormed_of _ _
  | some kind =>
      obtain ⟨text, htext⟩ := exists_ofValue_some kind fromAuthorization
        (remainder fromAuthorization raw)
      rw [htext]
      exact wellFormed_of kind text

theorem kind_ofText_some (kind : Kind) (fromAuthorization : Bool) (raw : String) :
    (ofText (some kind) fromAuthorization raw).kind = kind ∨
      (ofText (some kind) fromAuthorization raw).kind = .anonymous := by
  obtain ⟨text, htext⟩ := exists_ofValue_some kind fromAuthorization
    (remainder fromAuthorization raw)
  rw [ofText_eq_ofValue, htext, kind_of]
  by_cases hempty : text = "" <;> simp [hempty]

/-- Without a declared kind the text itself tells how it is to be read. -/
theorem kind_ofText_none (fromAuthorization : Bool) (raw : String) :
    let identity := ofText none fromAuthorization raw
    identity.kind =
      if identity.value = "" then .anonymous
      else if Token.looksLike identity.value then .jwt
      else .subject := by
  intro identity
  have hidentity : identity = _ := (ofText_eq_ofValue none _ raw).trans (ofValue_none _ _)
  rw [hidentity, kind_of, value_of (by split <;> simp)]

/-- A text that is no authorization value is the value of its identity, trimmed. -/
theorem value_ofText {kind : Option Kind} (hkind : kind ≠ some .anonymous) (raw : String) :
    (ofText kind false raw).value = Text.trim raw := by
  have hremainder : remainder false raw = Text.trim raw := rfl
  have hne : kindOf kind (Text.trim raw) ≠ .anonymous := by
    cases kind with
    | none =>
        unfold kindOf
        split <;> simp
    | some kind => exact fun h => hkind (congrArg some h)
  rw [ofText_eq_ofValue, hremainder, ofValue_false, value_of hne]

variable {rules : Rules}

theorem Rules.resolve_of_mapper {f : Call → Identity} (h : rules.mapper = some f) (call : Call) :
    rules.resolve call = of (f call).kind (f call).value := by
  simp only [resolve, h]

theorem Rules.resolve_of_anonymous (hmapper : rules.mapper = none)
    (hkind : rules.kind = some .anonymous) (call : Call) : rules.resolve call = unknown := by
  simp only [resolve, hmapper, hkind, if_true]

theorem Rules.resolve_of_text (hmapper : rules.mapper = none) (hkind : rules.kind ≠ some .anonymous)
    (call : Call) :
    rules.resolve call = ofText rules.kind (rules.value call).2 (rules.value call).1 := by
  simp only [resolve, hmapper, hkind, if_false]
  rfl

/-- Rules without a mapper make an identity of what is left of their text. -/
theorem Rules.resolve_eq_ofValue (hmapper : rules.mapper = none) {call : Call} {raw : String}
    {fromAuthorization : Bool} (hvalue : rules.value call = (raw, fromAuthorization)) :
    rules.resolve call =
      ofValue rules.kind fromAuthorization (remainder fromAuthorization raw) := by
  by_cases hkind : rules.kind = some .anonymous
  · rw [resolve_of_anonymous hmapper hkind, hkind, ofValue, of_anonymous]
    nofun
  · rw [resolve_of_text hmapper hkind, hvalue, ofText_eq_ofValue]

/-- However the identity of a call comes about, it is anonymous exactly if it has no text. -/
theorem Rules.wellFormed_resolve (rules : Rules) (call : Call) :
    (rules.resolve call).WellFormed := by
  cases hmapper : rules.mapper with
  | some f =>
      rw [resolve_of_mapper hmapper]
      exact wellFormed_of _ _
  | none =>
      by_cases hkind : rules.kind = some .anonymous
      · rw [resolve_of_anonymous hmapper hkind]
        exact wellFormed_unknown
      · rw [resolve_of_text hmapper hkind]
        exact wellFormed_ofText _ _ _

end AccessControl.Identity
