import AccessControl.Proofs.Steps
import AccessControl.Relation.Middleware

/-!
# Filters among the steps

A step either adds a filter or settles something about the tuple, never both. `filtersOf` and
`settingsOf` split a list of steps accordingly: the filters of the built middleware are the first
part in order, and everything else about it depends on the second part alone.
-/

namespace AccessControl.RelationMiddleware

def Step.filter? : Step → Option (Call → Bool)
  | .methodFilter methods => some (acceptsMethod methods)
  | .contextFilter key values => some (acceptsContext key values)
  | .filter f => some f
  | _ => none

def filtersOf (steps : List Step) : List (Call → Bool) := steps.filterMap Step.filter?

def settingsOf (steps : List Step) : List Step := steps.filter fun s => s.filter?.isNone

def withoutFilters (m : RelationMiddleware) : RelationMiddleware := { m with filters := [] }

theorem filters_step (m : RelationMiddleware) (s : Step) :
    (m.step s).filters = m.filters ++ s.filter?.toList := by
  cases s <;> simp [step, Step.filter?]

theorem filters_foldl (steps : List Step) (m : RelationMiddleware) :
    (steps.foldl step m).filters = m.filters ++ filtersOf steps := by
  rw [filtersOf, List.filterMap_eq_flatMap_toList]
  exact appended_slot_foldl filters filters_step steps m

theorem filters_ofSteps (steps : List Step) : (ofSteps steps).filters = filtersOf steps := by
  rw [ofSteps, filters_foldl]
  exact List.nil_append _

theorem isFiltered_ofSteps_iff (steps : List Step) (call : Call) :
    (ofSteps steps).isFiltered call = true ↔ ∃ f ∈ filtersOf steps, f call = true := by
  rw [isFiltered, filters_ofSteps, List.any_eq_true]

theorem withoutFilters_step_of_filter {s : Step} (hs : s.filter?.isNone = false)
    (m : RelationMiddleware) : (m.step s).withoutFilters = m.withoutFilters := by
  cases s with
  | methodFilter methods => rfl
  | contextFilter key values => rfl
  | filter f => rfl
  | _ => cases hs

theorem withoutFilters_step_of_setting {s : Step} (hs : s.filter?.isNone = true)
    (m : RelationMiddleware) : (m.step s).withoutFilters = m.withoutFilters.step s := by
  cases s with
  | methodFilter methods => cases hs
  | contextFilter key values => cases hs
  | filter f => cases hs
  | _ => rfl

theorem withoutFilters_foldl (steps : List Step) (m : RelationMiddleware) :
    (steps.foldl step m).withoutFilters = (settingsOf steps).foldl step m.withoutFilters := by
  induction steps generalizing m with
  | nil => rfl
  | cons s steps ih =>
      rw [List.foldl_cons, ih]
      cases hs : s.filter?.isNone with
      | true =>
          have hkept : settingsOf (s :: steps) = s :: settingsOf steps := by simp [settingsOf, hs]
          rw [hkept, List.foldl_cons, withoutFilters_step_of_setting hs]
      | false =>
          have hdropped : settingsOf (s :: steps) = settingsOf steps := by simp [settingsOf, hs]
          rw [hdropped, withoutFilters_step_of_filter hs]

theorem withoutFilters_ofSteps (steps : List Step) :
    (ofSteps steps).withoutFilters = ofSteps (settingsOf steps) :=
  withoutFilters_foldl steps start

/-- The tuple of a call does not depend on the filters. -/
theorem tupleOf_ofSteps_congr {steps other : List Step} (h : settingsOf steps = settingsOf other)
    (call : Call) : (ofSteps steps).tupleOf call = (ofSteps other).tupleOf call := by
  change (ofSteps steps).withoutFilters.tupleOf call = (ofSteps other).withoutFilters.tupleOf call
  rw [withoutFilters_ofSteps, withoutFilters_ofSteps, h]

end AccessControl.RelationMiddleware
