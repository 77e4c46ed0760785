import AccessControl.Route.Matching

/-!
# What a search binds

Going past a segment moves the name of its parameter, if it has one, from the segments ahead to the
parameters bound. So the names of a candidate, bound and still ahead, stay the same along a search,
and a match has the names of the route that it started from. That a tail takes the rest of a path
loses no name, because a tail is the last segment of its route.
-/

namespace AccessControl.Route

def TailsLast : List Segment → Prop
  | [] => True
  | .tail _ _ :: rest => rest = []
  | _ :: rest => TailsLast rest

theorem TailsLast.of_cons {segment : Segment} {rest : List Segment}
    (h : TailsLast (segment :: rest)) : TailsLast rest := by
  cases segment with
  | literal text => exact h
  | param before name after => exact h
  | tail before name =>
      have hrest : rest = [] := h
      rw [hrest]
      trivial

def segmentNames (segments : List Segment) : List String := segments.filterMap Segment.name?

namespace Candidate

/-- The names of a candidate, bound or ahead. -/
def names (candidate : Candidate) : List String :=
  candidate.bound.map Prod.fst ++ segmentNames candidate.ahead

structure Follows (candidate next : Candidate) : Prop where
  template : next.template = candidate.template
  names : next.names = candidate.names
  tailsLast : TailsLast candidate.ahead → TailsLast next.ahead

theorem follows_of_passLiteral {text : List Char} {candidate next : Candidate}
    (h : candidate.passLiteral text = some next) : candidate.Follows next := by
  rcases candidate with ⟨template, ahead, bound⟩
  unfold passLiteral at h
  split at h
  · rename_i literal rest hahead
    dsimp only at hahead
    subst hahead
    split at h
    · cases h
      exact ⟨rfl, rfl, TailsLast.of_cons⟩
    · cases h
  · cases h

theorem follows_of_passParam {before text ending : List Char} {isLast : Bool}
    {candidate next : Candidate} (h : candidate.passParam before text ending isLast = some next) :
    candidate.Follows next := by
  rcases candidate with ⟨template, ahead, bound⟩
  unfold passParam at h
  split at h
  · split at h
    · rename_i start name after rest hahead
      dsimp only at hahead
      subst hahead
      cases h
      refine ⟨rfl, ?_, TailsLast.of_cons⟩
      simp [names, segmentNames, Segment.name?]
    · cases h
  · cases h

theorem names_of_passTail {before value : List Char} {candidate : Candidate} {route : RouteMatch}
    (hahead : TailsLast candidate.ahead) (h : candidate.passTail before value = some route) :
    route.template = some candidate.template ∧ route.params.map Prod.fst = candidate.names := by
  rcases candidate with ⟨template, ahead, bound⟩
  unfold passTail at h
  split at h
  · rename_i start name rest htail
    dsimp only at htail
    subst htail
    have hrest : rest = [] := hahead
    subst hrest
    split at h
    · cases h
      exact ⟨rfl, by simp [names, segmentNames, Segment.name?]⟩
    · cases h
  · cases h

end Candidate

def ComesFrom (route : RouteMatch) (candidates : List Candidate) : Prop :=
  ∃ candidate ∈ candidates,
    route.template = some candidate.template ∧ route.params.map Prod.fst = candidate.names

section

variable {candidates : List Candidate} {step : Candidate → Option Candidate}

theorem tailsLast_filterMap (hstep : ∀ candidate next, step candidate = some next →
      candidate.Follows next) (htails : ∀ candidate ∈ candidates, TailsLast candidate.ahead) :
    ∀ next ∈ candidates.filterMap step, TailsLast next.ahead := by
  intro next hnext
  obtain ⟨candidate, hmem, hpass⟩ := List.mem_filterMap.mp hnext
  exact (hstep candidate next hpass).tailsLast (htails candidate hmem)

theorem ComesFrom.of_filterMap (hstep : ∀ candidate next, step candidate = some next →
      candidate.Follows next) {route : RouteMatch}
    (h : ComesFrom route (candidates.filterMap step)) : ComesFrom route candidates := by
  obtain ⟨next, hnext, htemplate, hnames⟩ := h
  obtain ⟨candidate, hmem, hpass⟩ := List.mem_filterMap.mp hnext
  have hfollows := hstep candidate next hpass
  exact ⟨candidate, hmem, htemplate.trans (congrArg some hfollows.template),
    hnames.trans hfollows.names⟩

end

theorem comesFrom_of_search {path : List (List Char)} {candidates : List Candidate}
    (htails : ∀ candidate ∈ candidates, TailsLast candidate.ahead) {route : RouteMatch}
    (h : search path candidates = some route) : ComesFrom route candidates := by
  induction path generalizing candidates route with
  | nil =>
      rw [search, Option.map_eq_some_iff] at h
      obtain ⟨candidate, hfind, rfl⟩ := h
      have hahead : candidate.ahead = [] := by simpa using List.find?_some hfind
      refine ⟨candidate, List.mem_of_find?_eq_some hfind, rfl, ?_⟩
      simp [Candidate.names, segmentNames, hahead]
  | cons segment rest ih =>
      have hdeeper : ∀ step : Candidate → Option Candidate,
          (∀ candidate next, step candidate = some next → candidate.Follows next) →
          (if (candidates.filterMap step).isEmpty then none
            else search rest (candidates.filterMap step)) = some route →
          ComesFrom route candidates := by
        intro step hstep hsearch
        split at hsearch
        · cases hsearch
        · exact (ih (tailsLast_filterMap hstep htails) hsearch).of_filterMap hstep
      rw [search, Option.or_eq_some_iff] at h
      rcases h with hliteral | ⟨-, hcut⟩
      · exact hdeeper _ (fun _ _ => Candidate.follows_of_passLiteral) hliteral
      · obtain ⟨⟨before, text⟩, -, hcut⟩ := List.exists_of_findSome?_eq_some hcut
        rcases Option.or_eq_some_iff.mp hcut with htail | ⟨-, hparam⟩
        · obtain ⟨candidate, hmem, hpass⟩ := List.exists_of_findSome?_eq_some htail
          exact ⟨candidate, hmem, Candidate.names_of_passTail (htails candidate hmem) hpass⟩
        · split at hparam
          · cases hparam
          · exact hdeeper _ (fun _ _ => Candidate.follows_of_passParam) hparam

end AccessControl.Route
