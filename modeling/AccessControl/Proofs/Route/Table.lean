import AccessControl.Proofs.Fold
import AccessControl.Proofs.Route.Template
import AccessControl.Proofs.Text.Split
import AccessControl.Route.Table

/-!
# Tables of templates

Every route of a table has been read without a fault from its template, so what a table recognizes
carries the names that stand in the template of the route.

A template with all its parameters in braces is put into braces without a change. So a table that
takes both spellings and one that takes braces only are the same for such templates.
-/

namespace AccessControl.Route

deriving instance DecidableEq for Table

/-- No segment of a template spells a parameter without braces. -/
def InBraces (template : String) : Prop :=
  ∀ segment ∈ Text.splitList '/' template.toList,
    segment.head? ≠ some ':' ∧ segment.head? ≠ some '*'

instance (template : String) : Decidable (InBraces template) :=
  inferInstanceAs (Decidable (∀ segment ∈ Text.splitList '/' template.toList,
    segment.head? ≠ some ':' ∧ segment.head? ≠ some '*'))

theorem braced_of_inBraces {template : String} (h : InBraces template) :
    braced template.toList = template.toList := by
  have hsegments : (Text.splitList '/' template.toList).map bracedSegment =
      Text.splitList '/' template.toList := by
    rw [List.map_congr_left fun segment hsegment =>
      bracedSegment_of_literal (h segment hsegment).1 (h segment hsegment).2, List.map_id']
  rw [braced, hsegments, Text.splitList_eq_splitOn, List.intercalate_splitOn]

theorem Table.ofTemplates_eq_ofBraced {templates : List String}
    (h : ∀ template ∈ templates, InBraces template) : ofTemplates templates = ofBraced templates := by
  refine foldlM_congr_of_mem ?_ empty
  intro template htemplate table
  rw [insert, braced_of_inBraces (h template htemplate)]

/-- The tables that adding templates one after the other leads to. A refused template changes
nothing. -/
inductive Table.Built : Table → Prop
  | empty : Built empty
  | insert {table next : Table} {template : String} (built : Built table)
      (inserted : table.insert template = .ok next) : Built next

theorem Table.built_of_ofTemplates {templates : List String} {table : Table}
    (h : ofTemplates templates = .ok table) : table.Built :=
  foldlM_ok_of_step (fun _ _ _ _ built inserted => .insert built inserted) .empty h

theorem Table.routes_of_insert {table next : Table} {template : String}
    (h : table.insert template = .ok next) :
    ∃ segments, readSegments (braced template.toList) = (segments, none) ∧
      next.routes = table.standing ++ [⟨template, segments⟩] := by
  unfold insert add at h
  rcases hread : readSegments (braced template.toList) with ⟨segments, fault⟩
  rw [hread] at h
  dsimp only at h
  split at h
  · cases h
  · cases h
  · cases h
    exact ⟨segments, rfl, rfl⟩

theorem Table.mem_of_mem_standing {table : Table} {route : Entry} (h : route ∈ table.standing) :
    route ∈ table.routes := by
  unfold standing at h
  split at h
  · exact absurd h List.not_mem_nil
  · exact h

theorem Table.Built.readSegments_eq {table : Table} (built : table.Built) :
    ∀ route ∈ table.routes,
      readSegments (braced route.template.toList) = (route.segments, none) := by
  induction built with
  | empty => exact nofun
  | insert built inserted ih =>
      obtain ⟨segments, hread, hroutes⟩ := routes_of_insert inserted
      rw [hroutes]
      intro route hroute
      rcases List.mem_append.mp hroute with hroute | hroute
      · exact ih route (mem_of_mem_standing hroute)
      · rw [List.mem_singleton.mp hroute]
        exact hread

/-- A match reports the names that stand in the template of the route, in order. -/
theorem Table.Built.exists_route_of_recognize {table : Table} (built : table.Built) {path : String}
    {found : RouteMatch} (h : table.recognize path = some found) :
    ∃ route ∈ table.routes, found.template = some route.template ∧
      ∃ tokens, Token.read? none (unescape (braced route.template.toList)) = some tokens ∧
        found.params.map Prod.fst = (tokenNames tokens).map String.ofList := by
  have htails : ∀ candidate ∈ table.routes.map fun route =>
      (⟨route.template, route.segments, []⟩ : Candidate), TailsLast candidate.ahead := by
    intro candidate hcandidate
    obtain ⟨route, hroute, rfl⟩ := List.mem_map.mp hcandidate
    obtain ⟨-, -, -, htails⟩ := exists_tokens_of_readSegments (built.readSegments_eq route hroute)
    exact htails
  obtain ⟨candidate, hcandidate, htemplate, hnames⟩ := comesFrom_of_search htails h
  obtain ⟨route, hroute, rfl⟩ := List.mem_map.mp hcandidate
  obtain ⟨tokens, htokens, hsegments, -⟩ :=
    exists_tokens_of_readSegments (built.readSegments_eq route hroute)
  exact ⟨route, hroute, htemplate, tokens, htokens, hnames.trans hsegments⟩

end AccessControl.Route
