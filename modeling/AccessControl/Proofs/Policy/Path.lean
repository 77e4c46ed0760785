import AccessControl.Policy.Path
import AccessControl.Proofs.Text.Lowercase
import AccessControl.Proofs.Text.Split

/-!
# The parts of a policy path

A policy path is joined from the root, the method and the segments of a template. Comparing two
paths means comparing these parts, so the joining is undone here once. A segment is rendered as a
parameter exactly if it is spelled like one, and then its spelling is lost.
-/

namespace AccessControl.Policy

/-- A segment that is spelled like a parameter. The braces may hold a star. -/
inductive SpellsParameter : List Char → Prop
  | colon (name : List Char) : SpellsParameter (':' :: name)
  | star (name : List Char) : SpellsParameter ('*' :: name)
  | braces (name : List Char) : SpellsParameter (Char.ofNat 123 :: (name ++ [Char.ofNat 125]))

theorem renderSegment_colon (name : List Char) :
    renderSegment (':' :: name) = '_' :: '_' :: name := rfl

theorem renderSegment_star (name : List Char) :
    renderSegment ('*' :: name) = '_' :: '_' :: name := rfl

theorem renderSegment_braces (name : List Char) :
    renderSegment (Char.ofNat 123 :: (name ++ [Char.ofNat 125])) =
      '_' :: '_' :: name.dropWhile (· == '*') := by
  simp [renderSegment]

/-- A segment spelled like a parameter changes, and starts with another character than before. -/
theorem renderSegment_of_spellsParameter {segment : List Char} (h : SpellsParameter segment) :
    (∃ name, renderSegment segment = '_' :: '_' :: name) ∧ segment ≠ [] ∧
      (renderSegment segment).head? ≠ segment.head? := by
  cases h with
  | colon name =>
      rw [renderSegment_colon]
      exact ⟨⟨name, rfl⟩, by simp, by simp⟩
  | star name =>
      rw [renderSegment_star]
      exact ⟨⟨name, rfl⟩, by simp, by simp⟩
  | braces name =>
      rw [renderSegment_braces]
      exact ⟨⟨_, rfl⟩, by simp, by simp⟩

theorem renderSegment_of_literal {segment : List Char} (h : ¬ SpellsParameter segment) :
    renderSegment segment = segment := by
  unfold renderSegment
  cases segment with
  | nil => rfl
  | cons c rest =>
      have hcolon : c ≠ ':' := by
        rintro rfl
        exact h (.colon rest)
      have hstar : c ≠ '*' := by
        rintro rfl
        exact h (.star rest)
      have hbraces : ¬ (c.toNat = 123 ∧ rest.getLast? = some (Char.ofNat 125)) := by
        rintro ⟨hopen, hclose⟩
        obtain ⟨name, rfl⟩ := List.getLast?_eq_some_iff.mp hclose
        rw [← Char.ofNat_toNat c, hopen] at h
        exact h (.braces name)
      simp [hbraces]
      split <;> simp_all

/-- Only a segment spelled like a parameter is changed. -/
theorem renderSegment_eq_self_iff (segment : List Char) :
    renderSegment segment = segment ↔ ¬ SpellsParameter segment := by
  constructor
  · intro hself hspells
    exact (renderSegment_of_spellsParameter hspells).2.2 (congrArg List.head? hself)
  · exact renderSegment_of_literal

instance : DecidablePred SpellsParameter := fun segment =>
  decidable_of_iff (renderSegment segment ≠ segment) <| by
    rw [ne_eq, renderSegment_eq_self_iff, Classical.not_not]

def pathParts (root method : String) (segments : List (List Char)) : List (List Char) :=
  (underRoot root []).map String.toList ++ (Text.asciiUppercase method).toList :: segments

theorem underRoot_eq_append (root : String) (parts : List String) :
    underRoot root parts = underRoot root [] ++ parts := by
  by_cases h : (Text.trimChar '.' root).isEmpty <;> simp [underRoot, h]

theorem toList_intercalate_underRoot (root method : String) (segments : List (List Char)) :
    (".".intercalate (underRoot root
      (Text.asciiUppercase method :: segments.map String.ofList))).toList =
        ['.'].intercalate (pathParts root method segments) := by
  rw [String.toList_intercalate, underRoot_eq_append]
  simp [pathParts, Function.comp_def]

theorem toList_urlPath (root method template : String) :
    (urlPath root method template).toList =
      ['.'].intercalate (pathParts root method ((templateSegments template).map renderSegment)) := by
  rw [← toList_intercalate_underRoot, List.map_map]
  rfl

theorem dot_notMem_asciiUppercase {method : String} (h : '.' ∉ method.toList) :
    '.' ∉ (Text.asciiUppercase method).toList := by
  intro hdot
  simp only [Text.asciiUppercase, String.toList_ofList, List.mem_map] at hdot
  obtain ⟨c, hc, hupper⟩ := hdot
  exact h (Text.toUpper_eq_dot hupper ▸ hc)

end AccessControl.Policy
