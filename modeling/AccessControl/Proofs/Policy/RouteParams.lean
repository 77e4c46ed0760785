import AccessControl.Proofs.Entries
import AccessControl.Proofs.Policy.Path
import AccessControl.Proofs.Route.Table
import AccessControl.Resource.Mapper
import Mathlib.Data.List.Basic

/-!
# Parameters in the policy path of a matched route

The names of the parameters of a route are read twice. The table reads them off the template as a
whole, with escaped braces, text beside a parameter, and names that end before the first character
that no name has. The policy path reads a segment as a parameter if it is spelled like one, and
everything else in the segment is the name. The two readings agree exactly if they agree on every
segment of the template: a segment is then `Legible`. Literal segments without braces and segments
that are one parameter with a plain name are.
-/

namespace AccessControl.Policy

/-- The name by which a policy path shows a template segment as a parameter, if it does. -/
def renderedName? (segment : List Char) : Option (List Char) :=
  if renderSegment segment = segment then none else some ((renderSegment segment).drop 2)

def renderedNames (template : String) : List String :=
  (templateSegments template).filterMap fun segment => (renderedName? segment).map String.ofList

theorem renderSegment_eq_elim (segment : List Char) :
    renderSegment segment = (renderedName? segment).elim segment fun name => '_' :: '_' :: name := by
  unfold renderedName?
  by_cases hself : renderSegment segment = segment
  · rw [if_pos hself]
    exact hself
  · rw [if_neg hself]
    have hspells : SpellsParameter segment := by
      rwa [renderSegment_eq_self_iff, Classical.not_not] at hself
    obtain ⟨⟨name, hname⟩, -⟩ := renderSegment_of_spellsParameter hspells
    rw [hname]
    rfl

theorem renderedName?_of_literal {segment : List Char} (h : ¬ SpellsParameter segment) :
    renderedName? segment = none :=
  if_pos (renderSegment_of_literal h)

theorem renderedName?_of_spellsParameter {segment name : List Char} (h : SpellsParameter segment)
    (hname : renderSegment segment = '_' :: '_' :: name) : renderedName? segment = some name := by
  unfold renderedName?
  rw [if_neg fun hself => (renderSegment_eq_self_iff segment).mp hself h, hname]
  rfl

/-- A rendered name has no other characters than its segment. -/
theorem subset_of_renderedName? {segment name : List Char} (h : renderedName? segment = some name) :
    name ⊆ segment := by
  by_cases hspells : SpellsParameter segment
  · cases hspells with
    | colon rest =>
        rw [renderedName?_of_spellsParameter (.colon rest) (renderSegment_colon rest)] at h
        cases h
        exact List.subset_cons_self _ _
    | star rest =>
        rw [renderedName?_of_spellsParameter (.star rest) (renderSegment_star rest)] at h
        cases h
        exact List.subset_cons_self _ _
    | braces inner =>
        rw [renderedName?_of_spellsParameter (.braces inner) (renderSegment_braces inner)] at h
        cases h
        refine List.Subset.trans (List.dropWhile_sublist _).subset ?_
        exact List.subset_cons_of_subset _ (List.subset_append_left _ _)
  · rw [renderedName?_of_literal hspells] at h
    cases h

/-- Read on its own, a segment has exactly the parameter by whose name it is rendered. -/
def Legible (segment : List Char) : Prop :=
  Route.ownNames? segment = some (renderedName? segment).toList

instance (segment : List Char) : Decidable (Legible segment) :=
  inferInstanceAs (Decidable (Route.ownNames? segment = some (renderedName? segment).toList))

theorem legible_nil : Legible [] := by decide

theorem renderedName?_of_plainSegment {segment : List Char} {name? : Option (List Char)}
    (h : Route.PlainSegment segment name?) : renderedName? segment = name? := by
  cases h with
  | literal plain colon star =>
      refine renderedName?_of_literal ?_
      intro hspells
      cases hspells with
      | colon name => exact colon rfl
      | star name => exact star rfl
      | braces name => exact (plain _ List.mem_cons_self).1 rfl
  | colon ne plain =>
      exact renderedName?_of_spellsParameter (.colon _) (renderSegment_colon _)
  | star ne plain => exact renderedName?_of_spellsParameter (.star _) (renderSegment_star _)
  | @param name ne plain =>
      have hstars : name.dropWhile (· == '*') = name := by
        obtain ⟨c, rest, rfl⟩ := List.exists_cons_of_ne_nil ne
        rw [List.dropWhile_cons_of_neg]
        simpa using (plain c List.mem_cons_self).2.2.1
      have hrender := renderSegment_braces name
      rw [hstars] at hrender
      exact renderedName?_of_spellsParameter (.braces name) hrender
  | @tail name ne plain =>
      have hstars : ('*' :: name).dropWhile (· == '*') = name := by
        obtain ⟨c, rest, rfl⟩ := List.exists_cons_of_ne_nil ne
        rw [List.dropWhile_cons_of_pos (by decide), List.dropWhile_cons_of_neg]
        simpa using (plain c List.mem_cons_self).2.2.1
      have hrender := renderSegment_braces ('*' :: name)
      rw [hstars] at hrender
      exact renderedName?_of_spellsParameter (.braces ('*' :: name)) hrender

theorem legible_of_plainSegment {segment : List Char} {name? : Option (List Char)}
    (h : Route.PlainSegment segment name?) : Legible segment := by
  rw [Legible, h.ownNames?_eq, renderedName?_of_plainSegment h]

/-- Empty segments, which the policy path leaves out, have no parameter. -/
theorem renderedNames_eq_map (template : String) :
    renderedNames template = ((Text.splitList '/' template.toList).flatMap
      fun segment => (renderedName? segment).toList).map String.ofList := by
  rw [← List.filterMap_eq_flatMap_toList, List.map_filterMap, renderedNames, templateSegments,
    List.filterMap_filter]
  congr 1
  funext segment
  cases segment <;> rfl

/-- What holds of the empty segment has to be checked on the other segments only. -/
theorem forall_templateSegments_iff {P : List Char → Prop} (hnil : P []) (template : String) :
    (∀ segment ∈ templateSegments template, P segment) ↔
      ∀ segment ∈ Text.splitList '/' template.toList, P segment := by
  constructor
  · intro h segment hsegment
    cases segment with
    | nil => exact hnil
    | cons c rest => exact h _ (List.mem_filter_of_mem hsegment rfl)
  · intro h segment hsegment
    exact h segment (List.mem_filter.mp hsegment).1

section

variable {α β : Type} {f g : α → List β} {items : List α}

theorem length_flatMap_le (h : ∀ item ∈ items, (f item).length ≤ (g item).length) :
    (items.flatMap f).length ≤ (items.flatMap g).length := by
  induction items with
  | nil => exact le_refl 0
  | cons item items ih =>
      obtain ⟨hitem, hitems⟩ := List.forall_mem_cons.mp h
      rw [List.flatMap_cons, List.flatMap_cons, List.length_append, List.length_append]
      exact Nat.add_le_add hitem (ih hitems)

/-- Lists of lists, none longer than its counterpart, are joined alike only if they are the same. -/
theorem eq_of_flatMap_eq (hle : ∀ item ∈ items, (f item).length ≤ (g item).length)
    (h : items.flatMap f = items.flatMap g) : ∀ item ∈ items, f item = g item := by
  induction items with
  | nil => exact nofun
  | cons item items ih =>
      obtain ⟨hitem, hitems⟩ := List.forall_mem_cons.mp hle
      have hrest := length_flatMap_le hitems
      rw [List.flatMap_cons, List.flatMap_cons] at h
      have hlengths := congrArg List.length h
      rw [List.length_append, List.length_append] at hlengths
      obtain ⟨hfirst, hothers⟩ := List.append_inj h (by omega)
      exact List.forall_mem_cons.mpr ⟨hfirst, ih hitems hothers⟩

end

/-- A segment that shows no parameter without having one shows at most as many as it has. -/
theorem length_renderedName?_le {segment : List Char} {names : List (List Char)}
    (hread : Route.ownNames? segment = some names)
    (hliteral : Route.ownNames? segment = some [] → renderedName? segment = none) :
    (renderedName? segment).toList.length ≤ names.length := by
  cases names with
  | nil =>
      rw [hliteral hread]
      exact le_refl 0
  | cons name names =>
      cases renderedName? segment with
      | none => exact Nat.zero_le _
      | some name => exact Nat.succ_le_succ (Nat.zero_le _)

/-- The names of a template that is read as a whole are those that its policy path shows, and no
segment without a parameter is shown as one, exactly if every segment is legible. -/
theorem renderedNames_eq_iff {template : String} {tokens : List Route.Token}
    (h : Route.Token.read? none (Route.unescape (Route.braced template.toList)) = some tokens) :
    (renderedNames template = (Route.tokenNames tokens).map String.ofList ∧
      ∀ segment ∈ templateSegments template,
        Route.ownNames? segment = some [] → renderedName? segment = none) ↔
      ∀ segment ∈ templateSegments template, Legible segment := by
  have hinjective : Function.Injective (List.map String.ofList) :=
    List.map_injective_iff.mpr fun _ _ => String.ofList_injective
  rw [forall_templateSegments_iff legible_nil, forall_templateSegments_iff (fun _ => rfl),
    renderedNames_eq_map, hinjective.eq_iff]
  constructor
  · rintro ⟨hnames, hliteral⟩ segment hsegment
    rcases Route.tokenNames_eq_flatMap_ownNames? h with ⟨hread, hown⟩ | ⟨-, name, hname, hslash⟩
    · have hle : ∀ segment ∈ Text.splitList '/' template.toList,
          (renderedName? segment).toList.length ≤
            ((Route.ownNames? segment).getD []).length := by
        intro segment hsegment
        obtain ⟨names, hnames⟩ := Option.isSome_iff_exists.mp (hread segment hsegment)
        rw [hnames]
        exact length_renderedName?_le hnames (hliteral segment hsegment)
      have hsame := eq_of_flatMap_eq hle (hnames.trans hown) segment hsegment
      obtain ⟨names, hnames⟩ := Option.isSome_iff_exists.mp (hread segment hsegment)
      rw [Legible, hsame, hnames]
      rfl
    -- No rendered name has a slash.
    · rw [← hnames] at hname
      obtain ⟨other, hother, hrendered⟩ := List.mem_flatMap.mp hname
      have hchars := subset_of_renderedName? (Option.mem_toList.mp hrendered)
      exact absurd (hchars hslash) (Text.notMem_of_mem_splitList hother)
  · intro hlegible
    refine ⟨?_, ?_⟩
    · rcases Route.tokenNames_eq_flatMap_ownNames? h with ⟨-, hown⟩ | ⟨⟨other, hother, hnone⟩, -⟩
      · rw [hown]
        refine List.flatMap_congr fun segment hsegment => ?_
        rw [hlegible segment hsegment]
        rfl
      · have hread := hlegible other hother
        rw [Legible, hnone] at hread
        cases hread
    · intro segment hsegment hnone
      have hread := hlegible segment hsegment
      rw [Legible, hnone, Option.some.injEq, eq_comm, Option.toList_eq_nil_iff] at hread
      exact hread

theorem renderedName?_eq_none_iff (segment : List Char) :
    renderedName? segment = none ↔ renderSegment segment = segment := by
  unfold renderedName?
  split <;> simp_all

/-- Copying the path parameters fills the resource with their names. -/
theorem isSome_get?_of_build_default {call : Call} {resource : Resource}
    (h : Resource.Chain.default.build call = .ok resource) (name : String) :
    (Entries.get? resource name).isSome ↔ name ∈ call.pathParams.map Prod.fst := by
  cases h
  refine (Entries.isSome_get?_ofList_iff _ name).trans ?_
  rw [Resource.ofParams, List.map_map]
  rfl

theorem urlPath_eq_intercalate (root method template : String) :
    urlPath root method template = ".".intercalate (underRoot root (Text.asciiUppercase method ::
      (templateSegments template).map fun segment =>
        String.ofList ((renderedName? segment).elim segment fun name => '_' :: '_' :: name))) := by
  simp only [urlPath, ← renderSegment_eq_elim]

/-- A matched route comes with the template that it was registered by. The names that the policy
path of the template shows are those of the match, in order, and no segment without a parameter is
shown as one, exactly if every segment of the template is legible. That is the case for literal
segments and for parameters with plain names, in all four spellings. The names of the match are
also the keys that the path parameters get in the resource. -/
theorem route_params_rendered_iff {table : Route.Table} (built : table.Built) {path : String}
    {found : RouteMatch} (h : table.recognize path = some found) :
    ∃ template, found.template = some template ∧
      (∃ route ∈ table.routes, route.template = template) ∧
      ((renderedNames template = found.params.map Prod.fst ∧
          ∀ segment ∈ templateSegments template,
            Route.ownNames? segment = some [] → renderSegment segment = segment) ↔
        ∀ segment ∈ templateSegments template, Legible segment) ∧
      ((∀ segment ∈ templateSegments template, ∃ name?, Route.PlainSegment segment name?) →
        renderedNames template = found.params.map Prod.fst) ∧
      ∀ call : Call, call.route = some found →
        (∀ root, (PathSource.url root).resolve call =
          ".".intercalate (underRoot root (Text.asciiUppercase call.method ::
            (templateSegments template).map fun segment => String.ofList
              ((renderedName? segment).elim segment fun name => '_' :: '_' :: name)))) ∧
        ∀ resource, Resource.Chain.default.build call = .ok resource →
          ∀ name, (Entries.get? resource name).isSome ↔ name ∈ found.params.map Prod.fst := by
  obtain ⟨route, hroute, htemplate, tokens, htokens, hnames⟩ := built.exists_route_of_recognize h
  have hiff := renderedNames_eq_iff htokens
  rw [← hnames] at hiff
  refine ⟨route.template, htemplate, ⟨route, hroute, rfl⟩, ?_, ?_, ?_⟩
  · simpa only [renderedName?_eq_none_iff] using hiff
  · intro hplain
    refine (hiff.mpr ?_).1
    intro segment hsegment
    obtain ⟨name?, hspelled⟩ := hplain segment hsegment
    exact legible_of_plainSegment hspelled
  · intro call hcall
    refine ⟨?_, ?_⟩
    · intro root
      have htemplated : call.routePath = route.template := by
        rcases found with ⟨template, params⟩
        cases htemplate
        rw [Call.routePath, hcall]
      rw [PathSource.resolve, htemplated, urlPath_eq_intercalate]
    · intro resource hresource name
      rw [isSome_get?_of_build_default hresource, Call.pathParams, hcall]

/-- A route with a name in each of three spellings shows the names that it matches. -/
theorem route_params_rendered_of_plain_names :
    let template := "/products/:id/reviews/\x7breview\x7d/\x7b*rest\x7d"
    ∃ table found, Route.Table.ofTemplates [template] = .ok table ∧
      table.recognize "/products/7/reviews/3/a/b" = some found ∧
      found.template = some template ∧ found.params.map Prod.fst = ["id", "review", "rest"] ∧
      renderedNames template = ["id", "review", "rest"] := by
  intro template
  let table : Route.Table :=
    ⟨[⟨template, [.literal [], .literal "products".toList, .param [] "id" [],
      .literal "reviews".toList, .param [] "review" [], .tail [] "rest"]⟩]⟩
  let found : RouteMatch :=
    ⟨some template, [("id", "7"), ("review", "3"), ("rest", "a/b")]⟩
  have htable : Route.Table.ofTemplates [template] = .ok table := by decide +kernel
  have hfound : table.recognize "/products/7/reviews/3/a/b" = some found := by decide +kernel
  obtain ⟨matched, hmatched, -, hiff, -⟩ :=
    route_params_rendered_iff (Route.Table.built_of_ofTemplates htable) hfound
  cases hmatched
  refine ⟨table, found, htable, hfound, rfl, rfl, ?_⟩
  exact (hiff.mpr (by decide +kernel)).1

/-- Text before or behind a parameter hides it from the policy path or gets into its name, and
escaped braces pass for a parameter. -/
theorem route_params_rendered_differently :
    let before := "/users/u\x7bid\x7d"
    let behind := "/files/:id.json"
    let escaped := "/\x7b\x7bid\x7d\x7d"
    ∃ table, Route.Table.ofTemplates [before, behind, escaped] = .ok table ∧
      table.recognize "/users/u42" = some ⟨some before, [("id", "42")]⟩ ∧
      renderedNames before = [] ∧ urlPath "app" "GET" before = "app.GET.users.u\x7bid\x7d" ∧
      table.recognize "/files/42.json" = some ⟨some behind, [("id", "42")]⟩ ∧
      renderedNames behind = ["id.json"] ∧ urlPath "app" "GET" behind = "app.GET.files.__id.json" ∧
      table.recognize "/\x7bid\x7d" = some ⟨some escaped, []⟩ ∧
      renderedNames escaped = ["\x7bid\x7d"] ∧
      urlPath "app" "GET" escaped = "app.GET.__\x7bid\x7d" := by
  intro before behind escaped
  let table : Route.Table :=
    ⟨[⟨before, [.literal [], .literal "users".toList, .param "u".toList "id" []]⟩,
      ⟨behind, [.literal [], .literal "files".toList, .param [] "id" ".json".toList]⟩,
      ⟨escaped, [.literal [], .literal "\x7bid\x7d".toList]⟩]⟩
  refine ⟨table, ?_⟩
  decide +kernel

end AccessControl.Policy
