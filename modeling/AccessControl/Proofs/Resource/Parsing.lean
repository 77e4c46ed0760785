import AccessControl.Proofs.Resource.NormalForm
import AccessControl.Proofs.Text.Split
import AccessControl.Proofs.Text.Trim
import Mathlib.Data.List.Sort

/-!
# What a mask keeps of its paths

Parsing fails at the first path that has an empty segment. Otherwise the mask holds those of the
listed paths that no other listed path covers, and whether the wildcard was among them; order,
repetition and covered paths leave no trace. Since the paths of a mask cover one another no more,
writing them out and parsing them again gives the same mask.
-/

namespace AccessControl.FieldMask

def segments (path : String) : List String := Text.splitOn '.' (Text.trim path)

def IsStar (path : String) : Prop := Text.trim path = star

/-- Whether a path names fields and one of the names is missing. -/
def IsFaulty (path : String) : Prop := ¬IsStar path ∧ "" ∈ segments path

instance (path : String) : Decidable (IsStar path) := inferInstanceAs (Decidable (_ = _))

instance (path : String) : Decidable (IsFaulty path) := inferInstanceAs (Decidable (_ ∧ _))

/-- The paths of a list that name fields, as segments. -/
def listed (paths : List String) : List (List String) :=
  (paths.filter fun path => Text.trim path ≠ star).map segments

/-- One of some paths that none of the others covers. -/
def IsMinimal (paths : List (List String)) (path : List String) : Prop :=
  path ∈ paths ∧ ∀ other ∈ paths, other <+: path → other = path

/-! ## The pass over the sorted paths -/

/-- A path that is dropped has one that is kept in front of it. -/
theorem exists_prefix_mem_dropCovered (kept : List String) (paths : List (List String)) :
    ∀ path ∈ kept :: paths, ∃ stored ∈ kept :: dropCovered kept paths, stored <+: path := by
  induction paths generalizing kept with
  | nil =>
      intro path hpath
      exact ⟨path, hpath, List.prefix_rfl⟩
  | cons first rest ih =>
      intro path hpath
      unfold dropCovered
      rcases List.mem_cons.mp hpath with rfl | hpath
      · exact ⟨path, List.mem_cons_self, List.prefix_rfl⟩
      · split
        · rename_i hcovered
          rw [List.isPrefixOf_iff_prefix] at hcovered
          rcases List.mem_cons.mp hpath with rfl | hpath
          · exact ⟨kept, List.mem_cons_self, hcovered⟩
          · exact ih kept path (List.mem_cons_of_mem _ hpath)
        · obtain ⟨stored, hstored, hextends⟩ := ih first path hpath
          exact ⟨stored, List.mem_cons_of_mem _ hstored, hextends⟩

theorem exists_prefix_mem_minimalPaths {paths : List (List String)} {path : List String}
    (h : path ∈ paths) : ∃ stored ∈ minimalPaths paths, stored <+: path := by
  cases paths with
  | nil => cases h
  | cons first rest => exact exists_prefix_mem_dropCovered first rest path h

theorem Normal.eq_of_covers {paths : List (List String)} (h : Normal paths)
    {path other : List String} (hpath : path ∈ paths) (hother : other ∈ paths)
    (hextends : path <+: other) : path = other := by
  obtain ⟨before, after, rfl⟩ := List.append_of_mem hpath
  rcases List.mem_append.mp hother with hother | hother
  · exact absurd hextends (h.incomparable other hother).1
  · rcases List.mem_cons.mp hother with rfl | hother
    · rfl
    · have hafter := (List.pairwise_append.mp h.prefixFree).2.1
      exact absurd hextends ((List.pairwise_cons.mp hafter).1 other hother)

/-- The pass keeps the minimal paths and no others. -/
theorem mem_minimalPaths_iff {paths : List (List String)} (h : paths.Pairwise (· < ·))
    (path : List String) : path ∈ minimalPaths paths ↔ IsMinimal paths path := by
  have hsubset := (minimalPaths_sublist paths).subset
  constructor
  · intro hpath
    refine ⟨hsubset hpath, fun other hother hextends => ?_⟩
    obtain ⟨stored, hstored, hcovers⟩ := exists_prefix_mem_minimalPaths hother
    obtain rfl := (normal_minimalPaths h).eq_of_covers hstored hpath (hcovers.trans hextends)
    exact hextends.eq_of_length_le hcovers.length_le
  · rintro ⟨hpath, hminimal⟩
    obtain ⟨stored, hstored, hcovers⟩ := exists_prefix_mem_minimalPaths hpath
    rwa [hminimal stored (hsubset hstored) hcovers] at hstored

theorem isMinimal_sortPaths_iff (paths : List (List String)) (path : List String) :
    IsMinimal (sortPaths paths) path ↔ IsMinimal paths path := by
  simp only [IsMinimal, mem_sortPaths_iff]

theorem Normal.eq_of_mem_iff {paths others : List (List String)} (h : Normal paths)
    (h' : Normal others) (hmem : ∀ path, path ∈ paths ↔ path ∈ others) : paths = others :=
  h.sorted.eq_of_mem_iff h'.sorted hmem

/-! ## Parsing -/

def refusal? (path : String) : Option MaskError :=
  if "" ∈ Text.splitOn '.' path then some (.emptySegment path) else none

theorem segments?_eq (path : String) :
    segments? path =
      if "" ∈ Text.splitOn '.' path then .error (.emptySegment path)
      else .ok (Text.splitOn '.' path) := by
  simp [segments?]

theorem segments?_eq_error_iff (path : String) (error : MaskError) :
    segments? path = .error error ↔ refusal? path = some error := by
  rw [segments?_eq, refusal?]
  split <;> simp

theorem refusal?_star : refusal? star = none := by decide

theorem isFaulty_iff (path : String) : IsFaulty path ↔ "" ∈ segments path := by
  refine ⟨fun h => h.2, fun h => ⟨fun hstar => ?_, h⟩⟩
  rw [segments, hstar] at h
  exact absurd h (by decide)

theorem refusal?_trim_eq_some_iff (path : String) (error : MaskError) :
    refusal? (Text.trim path) = some error ↔
      IsFaulty path ∧ error = .emptySegment (Text.trim path) := by
  rw [isFaulty_iff, segments, refusal?]
  split <;> simp_all [eq_comm]

theorem refusal?_trim_eq_none_iff (path : String) :
    refusal? (Text.trim path) = none ↔ ¬IsFaulty path := by
  rw [isFaulty_iff, segments, refusal?]
  split <;> simp_all

/-- The wildcard is never refused, so it may be left out. -/
theorem findSome?_refusal?_filter (paths : List String) :
    (paths.filter (· ≠ star)).findSome? refusal? = paths.findSome? refusal? := by
  induction paths with
  | nil => rfl
  | cons path paths ih =>
      by_cases hstar : path = star
      · rw [List.filter_cons_of_neg (by simpa using hstar), ih, List.findSome?_cons, hstar,
          refusal?_star]
      · rw [List.filter_cons_of_pos (by simpa using hstar), List.findSome?_cons,
          List.findSome?_cons, ih]

theorem parse_eq_error_iff (paths : List String) (error : MaskError) :
    parse paths = .error error ↔ (paths.map Text.trim).findSome? refusal? = some error := by
  rw [← findSome?_refusal?_filter, ← mapM_eq_error_iff segments?_eq_error_iff, parse]
  split
  · rename_i found hfound
    rw [hfound, Except.error.injEq, Except.error.injEq]
  · rename_i list hlist
    rw [hlist]
    exact ⟨nofun, nofun⟩

theorem parse_of_forall_not_isFaulty {paths : List String}
    (h : ∀ path ∈ paths, ¬IsFaulty path) :
    parse paths = .ok ⟨minimalPaths (sortPaths (listed paths)),
      (paths.map Text.trim).contains star⟩ := by
  have hfilter : (paths.map Text.trim).filter (· ≠ star) =
      (paths.filter fun path => Text.trim path ≠ star).map Text.trim := by
    rw [List.filter_map, Function.comp_def]
  have hlist : ((paths.map Text.trim).filter (· ≠ star)).mapM segments? = .ok (listed paths) := by
    rw [mapM_eq_ok_iff, hfilter, listed, List.forall₂_map_left_iff, List.forall₂_map_right_iff,
      List.forall₂_same]
    intro path hpath
    have hnotFaulty := h path (List.mem_of_mem_filter hpath)
    rw [isFaulty_iff, segments] at hnotFaulty
    rw [segments?_eq, if_neg hnotFaulty, segments]
  simp only [parse, hlist]

theorem exists_parse_eq_ok_iff (paths : List String) :
    (∃ mask, parse paths = .ok mask) ↔ ∀ path ∈ paths, ¬IsFaulty path := by
  refine ⟨?_, fun h => ⟨_, parse_of_forall_not_isFaulty h⟩⟩
  rintro ⟨mask, hmask⟩ path hpath
  have hnone := eq_none_of_ok (parse_eq_error_iff paths) hmask
  rw [List.findSome?_eq_none_iff] at hnone
  exact (refusal?_trim_eq_none_iff path).mp (hnone _ (List.mem_map_of_mem hpath))

theorem eq_of_parse {paths : List String} {mask : FieldMask} (h : parse paths = .ok mask) :
    mask = ⟨minimalPaths (sortPaths (listed paths)), (paths.map Text.trim).contains star⟩ := by
  have hok := parse_of_forall_not_isFaulty ((exists_parse_eq_ok_iff paths).mp ⟨mask, h⟩)
  exact Except.ok.inj (h.symm.trans hok)

theorem mem_paths_of_parse_iff {paths : List String} {mask : FieldMask}
    (h : parse paths = .ok mask) (path : List String) :
    path ∈ mask.paths ↔ IsMinimal (listed paths) path := by
  rw [eq_of_parse h, ← isMinimal_sortPaths_iff]
  exact mem_minimalPaths_iff (sorted_sortPaths _) path

theorem wildcard_of_parse_iff {paths : List String} {mask : FieldMask}
    (h : parse paths = .ok mask) : mask.wildcard = true ↔ ∃ path ∈ paths, IsStar path := by
  rw [eq_of_parse h]
  simp [IsStar]

/-- A mask shows of its list of paths the minimal ones and the wildcard, and nothing else. -/
theorem parse_eq_parse_iff {paths others : List String} {mask other : FieldMask}
    (h : parse paths = .ok mask) (h' : parse others = .ok other) :
    other = mask ↔
      (∀ path, IsMinimal (listed others) path ↔ IsMinimal (listed paths) path) ∧
        ((∃ path ∈ others, IsStar path) ↔ ∃ path ∈ paths, IsStar path) := by
  simp only [← mem_paths_of_parse_iff h, ← mem_paths_of_parse_iff h', ← wildcard_of_parse_iff h,
    ← wildcard_of_parse_iff h']
  constructor
  · rintro rfl
    exact ⟨fun _ => Iff.rfl, Iff.rfl⟩
  · rintro ⟨hpaths, hwildcard⟩
    rcases mask with ⟨maskPaths, wildcard⟩
    rcases other with ⟨otherPaths, wildcard'⟩
    obtain rfl := (normal_of_parse h').1.eq_of_mem_iff (normal_of_parse h).1 hpaths
    obtain rfl := Bool.eq_iff_iff.mpr hwildcard
    rfl

/-! ## Writing a mask out -/

theorem segments_trim (path : String) : segments (Text.trim path) = segments path := by
  rw [segments, segments, Text.trim_trim]

theorem isStar_trim_iff (path : String) : IsStar (Text.trim path) ↔ IsStar path := by
  rw [IsStar, IsStar, Text.trim_trim]

theorem isFaulty_trim_iff (path : String) : IsFaulty (Text.trim path) ↔ IsFaulty path := by
  rw [isFaulty_iff, isFaulty_iff, segments_trim]

theorem mem_listed_iff (paths : List String) (path : List String) :
    path ∈ listed paths ↔ ∃ text ∈ paths, ¬IsStar text ∧ segments text = path := by
  simp [listed, IsStar, and_assoc]

theorem mem_render_iff (mask : FieldMask) (text : String) :
    text ∈ mask.render ↔
      (mask.wildcard = true ∧ text = star) ∨ ∃ path ∈ mask.paths, ".".intercalate path = text := by
  unfold render
  cases mask.wildcard <;> simp

/-- A stored path is written as the path that it was read from, without the blanks at its ends. -/
theorem exists_intercalate_eq_trim {paths : List String} {mask : FieldMask}
    (h : parse paths = .ok mask) {path : List String} (hpath : path ∈ mask.paths) :
    ∃ text, ¬IsStar text ∧ ¬IsFaulty text ∧ segments text = path ∧
      ".".intercalate path = Text.trim text := by
  have hlisted := ((mem_paths_of_parse_iff h path).mp hpath).1
  obtain ⟨text, htext, hstar, rfl⟩ := (mem_listed_iff paths path).mp hlisted
  have hfaulty := (exists_parse_eq_ok_iff paths).mp ⟨mask, h⟩ text htext
  exact ⟨text, hstar, hfaulty, rfl, Text.intercalate_splitOn_dot _⟩

theorem mem_listed_render_iff {paths : List String} {mask : FieldMask} (h : parse paths = .ok mask)
    (path : List String) : path ∈ listed mask.render ↔ path ∈ mask.paths := by
  rw [mem_listed_iff]
  constructor
  · rintro ⟨written, hwritten, hstar, hsegments⟩
    rcases (mem_render_iff mask written).mp hwritten with ⟨-, rfl⟩ | ⟨stored, hstored, rfl⟩
    · exact absurd (by decide) hstar
    · obtain ⟨text, -, -, htext, htrim⟩ := exists_intercalate_eq_trim h hstored
      rw [htrim, segments_trim, htext] at hsegments
      exact hsegments ▸ hstored
  · intro hpath
    obtain ⟨text, hstar, -, htext, htrim⟩ := exists_intercalate_eq_trim h hpath
    refine ⟨Text.trim text, (mem_render_iff mask _).mpr (.inr ⟨path, hpath, htrim⟩), ?_, ?_⟩
    · rw [isStar_trim_iff]
      exact hstar
    · rw [segments_trim, htext]

theorem parse_render {paths : List String} {mask : FieldMask} (h : parse paths = .ok mask) :
    parse mask.render = .ok mask := by
  have hfaulty : ∀ written ∈ mask.render, ¬IsFaulty written := by
    intro written hwritten
    rcases (mem_render_iff mask written).mp hwritten with ⟨-, rfl⟩ | ⟨path, hpath, rfl⟩
    · decide
    · obtain ⟨text, -, hfaulty, -, htrim⟩ := exists_intercalate_eq_trim h hpath
      rw [htrim, isFaulty_trim_iff]
      exact hfaulty
  obtain ⟨again, hagain⟩ := (exists_parse_eq_ok_iff mask.render).mpr hfaulty
  have hnormal := (normal_of_parse h).1
  suffices hsame : again = mask by rw [hagain, hsame]
  rw [parse_eq_parse_iff h hagain]
  constructor
  · intro path
    rw [← mem_paths_of_parse_iff h]
    simp only [IsMinimal, mem_listed_render_iff h]
    exact ⟨fun hminimal => hminimal.1,
      fun hpath => ⟨hpath, fun other hother => hnormal.eq_of_covers hother hpath⟩⟩
  · rw [← wildcard_of_parse_iff h]
    constructor
    · rintro ⟨written, hwritten, hstar⟩
      rcases (mem_render_iff mask written).mp hwritten with ⟨hwildcard, -⟩ | ⟨path, hpath, rfl⟩
      · exact hwildcard
      · obtain ⟨text, htext, -, -, htrim⟩ := exists_intercalate_eq_trim h hpath
        rw [htrim, isStar_trim_iff] at hstar
        exact absurd hstar htext
    · intro hwildcard
      exact ⟨star, (mem_render_iff mask star).mpr (.inl ⟨hwildcard, rfl⟩), by decide⟩

/-- A list of paths is refused for its first path with an empty segment. Any other list makes a
mask: its paths strictly increase, none of them starts with another, each was listed, and each
listed path starts with one of them. They are the minimal ones of the listed paths, so two lists
make the same mask exactly if they agree in their minimal paths and in whether the wildcard is
among them. And the mask is read back from what it is written as. -/
theorem parse_normalizes (paths : List String) :
    ((∃ mask, parse paths = .ok mask) ↔ ∀ path ∈ paths, ¬IsFaulty path) ∧
    (∀ error, parse paths = .error error ↔
      ∃ before path after, paths = before ++ path :: after ∧
        (∀ other ∈ before, ¬IsFaulty other) ∧ IsFaulty path ∧
        error = .emptySegment (Text.trim path)) ∧
    ∀ mask, parse paths = .ok mask →
      mask.paths.Pairwise (· < ·) ∧
      (∀ path ∈ mask.paths, ∀ other ∈ mask.paths, path <+: other → path = other) ∧
      (∀ path ∈ listed paths, ∃ stored ∈ mask.paths, stored <+: path) ∧
      (∀ path ∈ mask.paths, path ∈ listed paths) ∧
      (∀ path, path ∈ mask.paths ↔ IsMinimal (listed paths) path) ∧
      (mask.wildcard = true ↔ ∃ path ∈ paths, IsStar path) ∧
      (∀ others other, parse others = .ok other →
        (other = mask ↔
          (∀ path, IsMinimal (listed others) path ↔ IsMinimal (listed paths) path) ∧
            ((∃ path ∈ others, IsStar path) ↔ ∃ path ∈ paths, IsStar path))) ∧
      parse mask.render = .ok mask := by
  refine ⟨exists_parse_eq_ok_iff paths, fun error => ?_, fun mask hmask => ?_⟩
  · rw [parse_eq_error_iff, List.findSome?_map, List.findSome?_eq_some_iff]
    simp only [Function.comp_apply, refusal?_trim_eq_some_iff, refusal?_trim_eq_none_iff]
    constructor
    · rintro ⟨before, path, after, hsplit, ⟨hfaulty, herror⟩, hbefore⟩
      exact ⟨before, path, after, hsplit, hbefore, hfaulty, herror⟩
    · rintro ⟨before, path, after, hsplit, hbefore, hfaulty, herror⟩
      exact ⟨before, path, after, hsplit, ⟨hfaulty, herror⟩, hbefore⟩
  · have hnormal := (normal_of_parse hmask).1
    have hmem := mem_paths_of_parse_iff hmask
    refine ⟨hnormal.sorted, ?_, ?_, fun path hpath => ((hmem path).mp hpath).1, hmem,
      wildcard_of_parse_iff hmask, fun _ _ hother => parse_eq_parse_iff hmask hother,
      parse_render hmask⟩
    · exact fun path hpath other hother => hnormal.eq_of_covers hpath hother
    · intro path hpath
      rw [eq_of_parse hmask]
      exact exists_prefix_mem_minimalPaths ((mem_sortPaths_iff path _).mpr hpath)

/-- Paths are compared segment by segment, so `a-b` stands between `a` and `ab` and is covered by
neither. -/
example : parse ["ab", "a.b", " a ", "a-b", "*", "a"] = .ok ⟨[["a"], ["a-b"], ["ab"]], true⟩ := by
  decide +kernel

end AccessControl.FieldMask
