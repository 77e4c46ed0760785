import AccessControl.Proofs.Policy.Path
import AccessControl.Proofs.Text.Trim

/-!
# Which routes share a policy path

The dots of a policy path show where its parts end, if no part has a dot of its own. A part that
starts with two underscores was a parameter, if no literal segment starts with them, and the rest of
it is the name. What a path does not show are empty segments, the case of the method and which of
its four spellings a parameter had: two routes share a path exactly if they differ in nothing else.
-/

namespace AccessControl.Policy

/-- A segment that is the parameter of a name, in one of the four spellings. In braces the stars in
front of the name belong to the spelling, however many there are. -/
inductive IsParameter : List Char → List Char → Prop
  | colon (name : List Char) : IsParameter (':' :: name) name
  | star (name : List Char) : IsParameter ('*' :: name) name
  | param {name : List Char} (h : name.head? ≠ some '*') :
      IsParameter (Char.ofNat 123 :: (name ++ [Char.ofNat 125])) name
  | tail (stars : Nat) {name : List Char} (h : name.head? ≠ some '*') :
      IsParameter
        (Char.ofNat 123 :: ('*' :: (List.replicate stars '*' ++ name) ++ [Char.ofNat 125])) name

/-- Two segments that are one literal, or parameters of one name. -/
inductive SameSegment : List Char → List Char → Prop
  | literal {segment : List Char} (h : ¬ SpellsParameter segment) : SameSegment segment segment
  | parameter {segment other name : List Char} (h : IsParameter segment name)
      (hother : IsParameter other name) : SameSegment segment other

/-- A segment without dots which does not start with the mark of a parameter unless it is one. -/
structure Unmistakable (segment : List Char) : Prop where
  dot_notMem : '.' ∉ segment
  literal : ¬ SpellsParameter segment → ¬ ['_', '_'] <+: segment

instance : DecidablePred Unmistakable := fun segment =>
  decidable_of_iff ('.' ∉ segment ∧ (¬ SpellsParameter segment → ¬ ['_', '_'] <+: segment))
    ⟨fun h => ⟨h.1, h.2⟩, fun h => ⟨h.dot_notMem, h.literal⟩⟩

/-! ## Segments -/

theorem dropWhile_star_append (stars : Nat) {name : List Char} (h : name.head? ≠ some '*') :
    (List.replicate stars '*' ++ name).dropWhile (· == '*') = name := by
  have hstars : ∀ c ∈ List.replicate stars '*', (c == '*') = true := by
    intro c hc
    rw [List.eq_of_mem_replicate hc]
    rfl
  rw [List.dropWhile_append_of_pos hstars, Text.dropWhile_eq_self_iff_head?]
  rintro c hc
  simp only [beq_eq_false_iff_ne, ne_eq]
  rintro rfl
  exact h hc

theorem renderSegment_of_isParameter {segment name : List Char} (h : IsParameter segment name) :
    renderSegment segment = '_' :: '_' :: name := by
  cases h with
  | colon => rfl
  | star => rfl
  | param hname =>
      rw [renderSegment_braces]
      exact congrArg _ (congrArg _ (dropWhile_star_append 0 hname))
  | tail stars hname =>
      rw [renderSegment_braces]
      exact congrArg _ (congrArg _ (dropWhile_star_append (stars + 1) hname))

theorem exists_eq_replicate_append (inner : List Char) :
    ∃ stars name, inner = List.replicate stars '*' ++ name ∧ name.head? ≠ some '*' := by
  refine ⟨(inner.takeWhile (· == '*')).length, inner.dropWhile (· == '*'), ?_, ?_⟩
  · have hstars : inner.takeWhile (· == '*') =
        List.replicate (inner.takeWhile (· == '*')).length '*' := by
      rw [List.eq_replicate_iff]
      exact ⟨rfl, fun c hc => by simpa using List.all_eq_true.mp List.all_takeWhile c hc⟩
    rw [← hstars, List.takeWhile_append_dropWhile]
  · intro hstar
    have hhead := List.head?_dropWhile_not (· == '*') inner
    rw [hstar] at hhead
    simp at hhead

theorem spellsParameter_iff_exists_isParameter (segment : List Char) :
    SpellsParameter segment ↔ ∃ name, IsParameter segment name := by
  constructor
  · intro h
    cases h with
    | colon name => exact ⟨name, .colon name⟩
    | star name => exact ⟨name, .star name⟩
    | braces inner =>
        obtain ⟨stars, name, rfl, hname⟩ := exists_eq_replicate_append inner
        cases stars with
        | zero => exact ⟨name, .param hname⟩
        | succ stars => exact ⟨name, .tail stars hname⟩
  · rintro ⟨name, h⟩
    cases h with
    | colon => exact .colon name
    | star => exact .star name
    | param => exact .braces name
    | tail stars => exact .braces _

theorem SameSegment.refl (segment : List Char) : SameSegment segment segment := by
  by_cases h : SpellsParameter segment
  · obtain ⟨name, hname⟩ := (spellsParameter_iff_exists_isParameter segment).mp h
    exact .parameter hname hname
  · exact .literal h

theorem SameSegment.renderSegment_eq {segment other : List Char} (h : SameSegment segment other) :
    renderSegment segment = renderSegment other := by
  cases h with
  | literal => rfl
  | parameter hname hname' =>
      rw [renderSegment_of_isParameter hname, renderSegment_of_isParameter hname']

theorem dot_notMem_renderSegment {segment : List Char} (h : '.' ∉ segment) :
    '.' ∉ renderSegment segment := by
  by_cases hspells : SpellsParameter segment
  · obtain ⟨name, hname⟩ := (spellsParameter_iff_exists_isParameter segment).mp hspells
    have hnodot : '.' ∉ name := by
      cases hname <;> simp_all
    rw [renderSegment_of_isParameter hname]
    simpa using hnodot
  · rwa [renderSegment_of_literal hspells]

/-- Two segments are rendered alike only if they are the same but for the spelling. -/
theorem renderSegment_eq_iff {segment other : List Char} (h : Unmistakable segment)
    (hother : Unmistakable other) :
    renderSegment segment = renderSegment other ↔ SameSegment segment other := by
  constructor
  · intro heq
    by_cases hspells : SpellsParameter segment
    · obtain ⟨name, hname⟩ := (spellsParameter_iff_exists_isParameter segment).mp hspells
      rw [renderSegment_of_isParameter hname] at heq
      by_cases hspells' : SpellsParameter other
      · obtain ⟨name', hname'⟩ := (spellsParameter_iff_exists_isParameter other).mp hspells'
        rw [renderSegment_of_isParameter hname'] at heq
        cases heq
        exact .parameter hname hname'
      · rw [renderSegment_of_literal hspells'] at heq
        exact absurd ⟨name, heq⟩ (hother.literal hspells')
    · rw [renderSegment_of_literal hspells] at heq
      by_cases hspells' : SpellsParameter other
      · obtain ⟨name', hname'⟩ := (spellsParameter_iff_exists_isParameter other).mp hspells'
        rw [renderSegment_of_isParameter hname'] at heq
        exact absurd ⟨name', heq.symm⟩ (h.literal hspells)
      · rw [renderSegment_of_literal hspells'] at heq
        rw [← heq]
        exact .literal hspells
  · exact SameSegment.renderSegment_eq

/-! ## Templates -/

theorem map_renderSegment_eq_iff {segments others : List (List Char)}
    (h : ∀ segment ∈ segments, Unmistakable segment)
    (hothers : ∀ other ∈ others, Unmistakable other) :
    segments.map renderSegment = others.map renderSegment ↔
      List.Forall₂ SameSegment segments others := by
  induction segments generalizing others with
  | nil => rw [List.map_nil, eq_comm, List.map_eq_nil_iff, List.forall₂_nil_left_iff]
  | cons segment segments ih =>
      cases others with
      | nil => exact ⟨nofun, nofun⟩
      | cons other others =>
          rw [List.forall_mem_cons] at h hothers
          rw [List.map_cons, List.map_cons, List.cons.injEq, renderSegment_eq_iff h.1 hothers.1,
            ih h.2 hothers.2, List.forall₂_cons]

theorem templateSegments_slash (before after : String) :
    templateSegments (before ++ "/" ++ after) =
      templateSegments before ++ templateSegments after := by
  have hslash : (before ++ "/" ++ after).toList = before.toList ++ '/' :: after.toList := by
    simp
  rw [templateSegments, hslash, Text.splitList_eq_splitOn, List.splitOn_append_cons_self,
    List.filter_append, ← Text.splitList_eq_splitOn, ← Text.splitList_eq_splitOn]
  rfl

theorem urlPath_congr {template other : String}
    (h : templateSegments template = templateSegments other) (root method : String) :
    urlPath root method template = urlPath root method other := by
  rw [urlPath, h, urlPath]

/-- Templates that differ only in the spelling of parameters share every path. -/
theorem urlPath_eq_of_sameSegment {template other : String}
    (h : List.Forall₂ SameSegment (templateSegments template) (templateSegments other))
    (root method : String) : urlPath root method other = urlPath root method template := by
  have hrendered : (templateSegments other).map renderSegment =
      (templateSegments template).map renderSegment := by
    rw [← List.forall₂_eq_eq_eq, List.forall₂_map_left_iff, List.forall₂_map_right_iff]
    exact h.flip.imp fun _ _ hsame => hsame.renderSegment_eq.symm
  rw [← String.toList_inj, toList_urlPath, toList_urlPath, hrendered]

/-- A path without dots in its parts is a method and a list of rendered segments. -/
theorem urlPath_eq_iff (root : String) {method other template others : String}
    (hmethod : '.' ∉ method.toList) (hother : '.' ∉ other.toList)
    (htemplate : ∀ segment ∈ templateSegments template, '.' ∉ segment)
    (hothers : ∀ segment ∈ templateSegments others, '.' ∉ segment) :
    urlPath root method template = urlPath root other others ↔
      Text.eqIgnoringCase method other = true ∧
        (templateSegments template).map renderSegment =
          (templateSegments others).map renderSegment := by
  have hparts : ∀ {method template : String}, '.' ∉ method.toList →
      (∀ segment ∈ templateSegments template, '.' ∉ segment) →
      (['.'].intercalate ((Text.asciiUppercase method).toList ::
        (templateSegments template).map renderSegment)).splitOn '.' =
          (Text.asciiUppercase method).toList :: (templateSegments template).map renderSegment := by
    intro method template hmethod htemplate
    refine List.splitOn_intercalate '.' (List.forall_mem_cons.mpr ⟨?_, ?_⟩) (List.cons_ne_nil _ _)
    · exact dot_notMem_asciiUppercase hmethod
    · rw [List.forall_mem_map]
      exact fun segment hsegment => dot_notMem_renderSegment (htemplate segment hsegment)
  rw [← String.toList_inj, toList_urlPath, toList_urlPath, pathParts, pathParts,
    Text.intercalate_append_eq_iff '.' _ (by simp), ← Text.asciiUppercase_eq_iff,
    ← String.toList_inj, ← List.cons.injEq]
  constructor
  · intro hjoined
    rw [← hparts hmethod htemplate, hjoined, hparts hother hothers]
  · exact congrArg _

/-- Two routes have one policy path exactly if their methods differ at most in the case of letters
and their segments at most in the spelling of parameters. Slashes that make empty segments do not
matter. -/
theorem path_eq_iff_same_route (root : String) {method other template others : String}
    (hmethod : '.' ∉ method.toList) (hother : '.' ∉ other.toList)
    (htemplate : ∀ segment ∈ templateSegments template, Unmistakable segment)
    (hothers : ∀ segment ∈ templateSegments others, Unmistakable segment) :
    (urlPath root method template = urlPath root other others ↔
      Text.eqIgnoringCase method other = true ∧
        List.Forall₂ SameSegment (templateSegments template) (templateSegments others)) ∧
    urlPath root method ("/" ++ template) = urlPath root method template ∧
    urlPath root method (template ++ "/") = urlPath root method template ∧
    ∀ before after : String, urlPath root method (before ++ "//" ++ after) =
      urlPath root method (before ++ "/" ++ after) := by
  refine ⟨?_, ?_, ?_, ?_⟩
  · rw [urlPath_eq_iff root hmethod hother (fun segment h => (htemplate segment h).dot_notMem)
      (fun segment h => (hothers segment h).dot_notMem), map_renderSegment_eq_iff htemplate hothers]
  · exact urlPath_congr (templateSegments_slash "" template) root method
  · refine urlPath_congr ?_ root method
    have hslash := templateSegments_slash template ""
    rw [String.append_empty] at hslash
    exact hslash.trans (List.append_nil _)
  · intro before after
    refine urlPath_congr ?_ root method
    have hdoubled : before ++ "//" ++ after = before ++ "/" ++ "" ++ "/" ++ after := by
      have htwo : "//" = "/" ++ "/" := rfl
      rw [htwo, String.append_empty, ← String.append_assoc]
    rw [hdoubled, templateSegments_slash, templateSegments_slash, templateSegments_slash]
    exact congrArg (· ++ _) (List.append_nil _)

/-- A route keeps its path in another spelling, and a literal with the name of the parameter has
another path. -/
theorem path_eq_iff_same_route_for_product :
    urlPath ".app." "GET" "//products/:id" = urlPath ".app." "get" "products/\x7b*id\x7d/" ∧
      urlPath ".app." "GET" "//products/:id" ≠ urlPath ".app." "GET" "/products/id" := by
  have hcolon : templateSegments "//products/:id" = ["products".toList, ":id".toList] := by
    decide +kernel
  have hbraces : templateSegments "products/\x7b*id\x7d/" =
      ["products".toList, "\x7b*id\x7d".toList] := by
    decide +kernel
  have hliteral : templateSegments "/products/id" = ["products".toList, "id".toList] := by
    decide +kernel
  constructor
  · refine (path_eq_iff_same_route ".app." (by decide +kernel) (by decide +kernel)
      (by decide +kernel) (by decide +kernel)).1.mpr ⟨by decide +kernel, ?_⟩
    rw [hcolon, hbraces]
    refine .cons (.literal (by decide +kernel)) (.cons ?_ .nil)
    have hname : "id".toList.head? ≠ some '*' := by decide +kernel
    exact .parameter (.colon "id".toList) (.tail 0 hname)
  · intro hpath
    have hsame := ((path_eq_iff_same_route ".app." (by decide +kernel) (by decide +kernel)
      (by decide +kernel) (by decide +kernel)).1.mp hpath).2
    rw [hcolon, hliteral, List.forall₂_cons, List.forall₂_cons] at hsame
    have hid := (renderSegment_eq_iff (by decide +kernel) (by decide +kernel)).mpr hsame.2.1
    exact absurd hid (by decide +kernel)

end AccessControl.Policy
