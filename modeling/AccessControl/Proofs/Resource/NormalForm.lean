import AccessControl.Proofs.Fold
import AccessControl.Resource.FieldMask
import Mathlib.Data.List.Lex
import Mathlib.Data.String.Basic

/-!
# The normal form of a field mask

The order of paths is the lexicographic order of their segments, in which the extensions of a path
follow it without a gap. So a pass that compares each path only with the one it kept last drops
every path that a shorter one covers: the paths that are left strictly increase, and none of them
starts with another.
-/

namespace AccessControl.FieldMask

theorem precedes_iff_lt (path other : List String) : precedes path other = true ↔ path < other := by
  induction path generalizing other with
  | nil =>
      cases other with
      | nil => simp [precedes]
      | cons _ _ => simp [precedes]
  | cons segment path ih =>
      cases other with
      | nil => simp [precedes]
      | cons segment' other =>
          rw [List.cons_lt_cons_iff, precedes]
          by_cases h : segment = segment'
          · simp [h, ih]
          · simp [h]

/-- Between a path and an extension of it there are only extensions. -/
theorem prefix_of_between {path between extension : List String} (h : path <+: extension)
    (hlow : path < between) (hhigh : between < extension) : path <+: between := by
  induction path generalizing between extension with
  | nil => exact List.nil_prefix
  | cons segment path ih =>
      obtain ⟨rest, rfl⟩ := h
      cases between with
      | nil => exact absurd hlow (List.not_lt_nil _)
      | cons segment' between =>
          rw [List.cons_append, List.cons_lt_cons_iff] at hhigh
          rw [List.cons_lt_cons_iff] at hlow
          rcases hlow with hlow | ⟨rfl, hlow⟩
          · rcases hhigh with hhigh | ⟨rfl, -⟩
            · exact absurd hlow (lt_asymm hhigh)
            · exact absurd hlow (lt_irrefl _)
          · rcases hhigh with hhigh | ⟨-, hhigh⟩
            · exact absurd hhigh (lt_irrefl _)
            · exact List.cons_prefix_cons.mpr ⟨rfl, ih (List.prefix_append _ _) hlow hhigh⟩

theorem not_lt_of_prefix {path extension : List String} (h : path <+: extension) :
    ¬extension < path := by
  obtain ⟨rest, rfl⟩ := h
  induction path with
  | nil => exact List.not_lt_nil _
  | cons segment path ih =>
      rw [List.cons_append, List.cons_lt_cons_iff]
      rintro (hlt | ⟨-, hlt⟩)
      · exact lt_irrefl _ hlt
      · exact ih hlt

def Incomparable (path other : List String) : Prop := ¬path <+: other ∧ ¬other <+: path

/-- Paths that strictly increase and of which none starts with another. -/
structure Normal (paths : List (List String)) : Prop where
  sorted : paths.Pairwise (· < ·)
  prefixFree : paths.Pairwise fun path other => ¬path <+: other

theorem Normal.incomparable {done after : List (List String)} {path : List String}
    (h : Normal (done ++ path :: after)) : ∀ other ∈ done, Incomparable path other := by
  intro other hother
  have hlt := (List.pairwise_append.mp h.sorted).2.2 other hother path List.mem_cons_self
  refine ⟨fun hprefix => not_lt_of_prefix hprefix hlt, ?_⟩
  exact (List.pairwise_append.mp h.prefixFree).2.2 other hother path List.mem_cons_self

theorem mem_insertPath_iff (path other : List String) (paths : List (List String)) :
    other ∈ insertPath path paths ↔ other = path ∨ other ∈ paths := by
  induction paths with
  | nil => simp [insertPath]
  | cons first rest ih =>
      unfold insertPath
      split
      · rename_i h
        simp [h]
      · split
        · simp
        · simp [ih, or_left_comm]

theorem sorted_insertPath {paths : List (List String)} (h : paths.Pairwise (· < ·))
    (path : List String) : (insertPath path paths).Pairwise (· < ·) := by
  induction paths with
  | nil => exact List.pairwise_singleton _ _
  | cons first rest ih =>
      obtain ⟨hfirst, hrest⟩ := List.pairwise_cons.mp h
      unfold insertPath
      split
      · exact h
      · rename_i hne
        split
        · rename_i hlt
          rw [precedes_iff_lt] at hlt
          refine List.pairwise_cons.mpr ⟨?_, h⟩
          exact List.forall_mem_cons.mpr ⟨hlt, fun other hother => hlt.trans (hfirst other hother)⟩
        · rename_i hnot
          rw [precedes_iff_lt] at hnot
          refine List.pairwise_cons.mpr ⟨?_, ih hrest⟩
          intro other hother
          rcases (mem_insertPath_iff path other rest).mp hother with rfl | hother
          · exact lt_of_le_of_ne (not_lt.mp hnot) (Ne.symm hne)
          · exact hfirst other hother

theorem mem_sortPaths_iff (path : List String) (paths : List (List String)) :
    path ∈ sortPaths paths ↔ path ∈ paths := by
  induction paths with
  | nil => rfl
  | cons first rest ih => rw [sortPaths, List.foldr_cons, mem_insertPath_iff, List.mem_cons, ← ih]; rfl

theorem sorted_sortPaths (paths : List (List String)) : (sortPaths paths).Pairwise (· < ·) := by
  induction paths with
  | nil => exact List.Pairwise.nil
  | cons first rest ih => exact sorted_insertPath ih first

theorem dropCovered_sublist (kept : List String) (paths : List (List String)) :
    (dropCovered kept paths).Sublist paths := by
  induction paths generalizing kept with
  | nil => exact .slnil
  | cons path rest ih =>
      unfold dropCovered
      split
      · exact (ih kept).cons path
      · exact (ih path).cons_cons path

/-- The path kept last stands for all paths kept before: what does not start with it starts with
none of them. -/
theorem normal_dropCovered {kept : List String} {paths : List (List String)}
    (h : (kept :: paths).Pairwise (· < ·)) : Normal (kept :: dropCovered kept paths) := by
  refine ⟨h.sublist ((dropCovered_sublist kept paths).cons_cons kept), ?_⟩
  induction paths generalizing kept with
  | nil => exact List.pairwise_singleton _ _
  | cons path rest ih =>
      obtain ⟨hkept, hpaths⟩ := List.pairwise_cons.mp h
      unfold dropCovered
      split
      · exact ih (h.sublist ((List.sublist_cons_self path rest).cons_cons kept))
      · rename_i hcovered
        rw [List.isPrefixOf_iff_prefix] at hcovered
        have hrest := ih hpaths
        refine List.pairwise_cons.mpr ⟨?_, hrest⟩
        refine List.forall_mem_cons.mpr ⟨hcovered, ?_⟩
        intro other hother hprefix
        have hlater := (List.pairwise_cons.mp hpaths).1 other
          ((dropCovered_sublist path rest).subset hother)
        exact hcovered (prefix_of_between hprefix (hkept path List.mem_cons_self) hlater)

theorem normal_minimalPaths {paths : List (List String)} (h : paths.Pairwise (· < ·)) :
    Normal (minimalPaths paths) := by
  cases paths with
  | nil => exact ⟨.nil, .nil⟩
  | cons path rest => exact normal_dropCovered h

theorem minimalPaths_sublist (paths : List (List String)) : (minimalPaths paths).Sublist paths := by
  cases paths with
  | nil => exact .slnil
  | cons path rest => exact (dropCovered_sublist path rest).cons_cons path

theorem segments?_ne_nil {path : String} {segments : List String}
    (h : segments? path = .ok segments) : segments ≠ [] := by
  simp only [segments?] at h
  split at h
  · cases h
  · cases h
    simp [Text.splitOn, Text.splitList_ne_nil]

theorem normal_of_parse {paths : List String} {mask : FieldMask} (h : parse paths = .ok mask) :
    Normal mask.paths ∧ ∀ path ∈ mask.paths, path ≠ [] := by
  unfold parse at h
  cases hlist : ((paths.map Text.trim).filter (· ≠ star)).mapM segments? with
  | error error =>
      simp only [hlist] at h
      cases h
  | ok list =>
      simp only [hlist] at h
      cases h
      refine ⟨normal_minimalPaths (sorted_sortPaths list), fun path hpath => ?_⟩
      have hmem := (mem_sortPaths_iff path list).mp ((minimalPaths_sublist _).subset hpath)
      obtain ⟨item, -, hitem⟩ := exists_mem_of_mem_mapM hlist hmem
      exact segments?_ne_nil hitem

end AccessControl.FieldMask
