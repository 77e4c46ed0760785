import AccessControl.Proofs.Middleware.AllowList

/-!
# A middleware as a function of its steps

Building refuses the first list of paths that is no mask, also if what it was for is dropped later
on; only then does it look at the policy. What is built has the last identity rules and the last
path source, the mappers that were added since the resource was last emptied, and all entries of
both lists. Each of these is the business of one group of steps, so steps of different groups may
change places.
-/

namespace AccessControl.Middleware

open Resource (Mapper)

inductive Step.Group where
  | identity
  | path
  | resource
  | listing
deriving DecidableEq

def Step.group : Step → Group
  | .identity _ => .identity
  | .pathFromUrl _ | .pathFromMethod _ | .pathMapper _ => .path
  | .resourceFields _ | .resourceByMethod _ _ | .resourceContext _ _ | .resourceMapper _
  | .noResource => .resource
  | .allowedMethods _ | .ignoredMethods _ => .listing

/-- The steps behind the last one that empties the resource. -/
def sinceReset (steps : List Step) : List Step := steps.rtakeWhile fun s => !s.isReset

/-- A resource step without a fault adds a mapper, unless it empties the resource. -/
theorem Step.exists_adds {s : Step} (hgroup : s.group = .resource) (hreset : s.isReset = false)
    (hfault : s.fault? = none) : ∃ mapper, s.Adds mapper := by
  cases s with
  | resourceFields paths =>
      rw [fault?, masks, List.findSome?_singleton] at hfault
      obtain ⟨mask, hmask⟩ := maskError?_eq_none_iff.mp hfault
      exact ⟨_, .fields hmask⟩
  | resourceByMethod byMethod paths =>
      cases hmapper : fieldsByMethod byMethod paths with
      | error error =>
          have hsome := fieldsByMethod_eq_error_iff.mp hmapper
          rw [fault?, masks, hsome] at hfault
          cases hfault
      | ok mapper => exact ⟨mapper, fieldsByMethod_eq_ok_iff.mp hmapper⟩
  | resourceContext key field => exact ⟨_, .context⟩
  | resourceMapper f => exact ⟨_, .custom⟩
  | noResource => cases hreset
  | _ => cases hgroup

theorem Step.mapper?_of_group_ne {s : Step} (hgroup : s.group ≠ .resource) : s.mapper? = none := by
  cases s <;> first | rfl | exact absurd rfl hgroup

/-! ## What all steps do -/

variable (policy : Policy) (steps : List Step)

theorem identity_ofSteps :
    (Draft.ofSteps policy steps).middleware.identity =
      (lastSet Step.identity? steps).getD Identity.Rules.authorization :=
  slot_foldl (fun draft : Draft => draft.middleware.identity)
    (fun draft s => by rw [Draft.step_eq]) steps (Draft.start policy)

theorem path_ofSteps :
    (Draft.ofSteps policy steps).middleware.path = lastSet Step.path? steps :=
  optional_slot_foldl (fun draft : Draft => draft.middleware.path)
    (fun draft s => by rw [Draft.step_eq]) steps rfl

theorem resource_ofSteps :
    (Draft.ofSteps policy steps).middleware.resource =
      (if steps.any Step.isReset then [] else [.pathParams]) ++
        (sinceReset steps).flatMap fun s => s.mapper?.toList :=
  resettable_slot_foldl (fun draft : Draft => draft.middleware.resource)
    (fun draft s => by rw [Draft.step_eq]) steps (Draft.start policy)

theorem errors_ofSteps :
    (Draft.ofSteps policy steps).errors = steps.flatMap fun s => s.fault?.toList.map .mask :=
  appended_slot_foldl Draft.errors (fun draft s => by rw [Draft.step_eq]) steps (Draft.start policy)

/-- The first recorded error is that of the first list of paths that is no mask. -/
theorem head?_flatMap_fault? :
    (steps.flatMap fun s => s.fault?.toList.map BuildError.mask).head? =
      ((steps.flatMap Step.masks).findSome? maskError?).map .mask := by
  induction steps with
  | nil => rfl
  | cons s steps ih =>
      rw [List.flatMap_cons, List.flatMap_cons, List.findSome?_append, List.head?_append, ih,
        ← Step.fault?]
      cases s.fault? <;> rfl

/-- The outcome of building: the first wrong mask, then the policy, decide whether there is one. -/
theorem build_eq :
    build policy steps =
      match (steps.flatMap Step.masks).findSome? maskError? with
      | some error => .error (.mask error)
      | none =>
        if Text.trim policy.name = "" then .error .missingName
        else if Text.trim policy.decision = "" then .error .missingDecision
        else .ok (Draft.ofSteps policy steps).middleware := by
  have herrors := head?_flatMap_fault? steps
  rw [← errors_ofSteps policy] at herrors
  unfold build Draft.finish
  rw [Draft.policy_ofSteps]
  cases hfault : (steps.flatMap Step.masks).findSome? maskError? with
  | none =>
      rw [hfault, Option.map_none, List.head?_eq_none_iff] at herrors
      simp [herrors, isBlankText]
  | some error =>
      rw [hfault, Option.map_some, List.head?_eq_some_iff] at herrors
      obtain ⟨later, herrors⟩ := herrors
      rw [herrors]

theorem exists_build_eq_error_iff :
    (∃ error, build policy steps = .error error) ↔
      (steps.flatMap Step.masks).findSome? maskError? ≠ none ∨
        Text.trim policy.name = "" ∨ Text.trim policy.decision = "" := by
  rw [build_eq]
  cases (steps.flatMap Step.masks).findSome? maskError? with
  | some fault => simp
  | none =>
      by_cases hname : Text.trim policy.name = ""
      · simp [hname]
      · by_cases hdecision : Text.trim policy.decision = "" <;> simp [hname, hdecision]

/-- Masks come first, then the name of the policy, then its decision. -/
theorem build_eq_error_iff (error : BuildError) :
    build policy steps = .error error ↔
      (∃ fault, (steps.flatMap Step.masks).findSome? maskError? = some fault ∧
        .mask fault = error) ∨
      (steps.flatMap Step.masks).findSome? maskError? = none ∧
        (Text.trim policy.name = "" ∧ .missingName = error ∨
          Text.trim policy.name ≠ "" ∧ Text.trim policy.decision = "" ∧
            .missingDecision = error) := by
  rw [build_eq]
  cases (steps.flatMap Step.masks).findSome? maskError? with
  | some fault => simp
  | none =>
      by_cases hname : Text.trim policy.name = ""
      · simp [hname]
      · by_cases hdecision : Text.trim policy.decision = "" <;> simp [hname, hdecision]

/-- The steps of the resource group among some that neither fail nor empty the resource, each with
the mapper that it adds. -/
theorem forall₂_adds {steps : List Step}
    (h : ∀ s ∈ steps, s.isReset = false ∧ s.fault? = none) :
    List.Forall₂ Step.Adds (steps.filter (·.group = .resource))
      (steps.flatMap fun s => s.mapper?.toList) := by
  induction steps with
  | nil => exact .nil
  | cons s steps ih =>
      obtain ⟨⟨hreset, hfault⟩, hsteps⟩ := List.forall_mem_cons.mp h
      rw [List.flatMap_cons]
      by_cases hgroup : s.group = .resource
      · obtain ⟨mapper, hadds⟩ := Step.exists_adds hgroup hreset hfault
        rw [List.filter_cons_of_pos (by simpa using hgroup), Step.mapper?_eq_some_iff.mpr hadds]
        exact .cons hadds (ih hsteps)
      · rw [List.filter_cons_of_neg (by simpa using hgroup), Step.mapper?_of_group_ne hgroup]
        exact ih hsteps

/-! ## Steps of different groups -/

theorem Draft.step_addMapper (draft : Draft) (result : Except MaskError Mapper) {t : Step}
    (ht : t.group ≠ .resource) :
    (draft.addMapper result).step t = (draft.step t).addMapper result := by
  cases t <;> first | exact absurd rfl ht | (cases result <;> rfl)

theorem Draft.step_comm_of_resource (draft : Draft) {s t : Step} (hs : s.group = .resource)
    (ht : t.group ≠ .resource) : (draft.step s).step t = (draft.step t).step s := by
  cases s with
  | resourceFields _ => exact draft.step_addMapper _ ht
  | resourceByMethod _ _ => exact draft.step_addMapper _ ht
  | resourceContext _ _ => exact draft.step_addMapper _ ht
  | resourceMapper _ => exact draft.step_addMapper _ ht
  | noResource => cases t <;> first | rfl | exact absurd rfl ht
  | _ => cases hs

theorem Draft.step_comm (draft : Draft) {s t : Step} (h : s.group ≠ t.group) :
    (draft.step s).step t = (draft.step t).step s := by
  by_cases hs : s.group = .resource
  · exact draft.step_comm_of_resource hs fun ht => h (hs.trans ht.symm)
  · by_cases ht : t.group = .resource
    · exact (draft.step_comm_of_resource ht hs).symm
    -- Each of the other steps sets fields of its group, and no field belongs to two groups.
    · cases s <;> cases t <;>
        first | rfl | exact absurd rfl h | exact absurd rfl hs | exact absurd rfl ht

theorem build_move (before after : List Step) {s : Step} {passed : List Step}
    (h : ∀ t ∈ passed, t.group ≠ s.group) :
    build policy (before ++ passed ++ s :: after) =
      build policy (before ++ s :: (passed ++ after)) := by
  have hcomm : ∀ t ∈ passed, ∀ draft : Draft, (draft.step s).step t = (draft.step t).step s :=
    fun t ht draft => draft.step_comm (h t ht).symm
  simp only [build, Draft.ofSteps, List.foldl_append, List.foldl_cons, foldl_step_comm hcomm]

/-! ## What is built -/

theorem findSome?_maskError?_eq_none_iff {lists : List (List String)} :
    lists.findSome? maskError? = none ↔
      ∀ paths ∈ lists, ∃ mask, FieldMask.parse paths = .ok mask := by
  simp only [List.findSome?_eq_none_iff, maskError?_eq_none_iff]

theorem findSome?_maskError?_eq_some_iff {lists : List (List String)} {error : MaskError} :
    lists.findSome? maskError? = some error ↔ ∃ before paths after,
      lists = before ++ paths :: after ∧
      (∀ earlier ∈ before, ∃ mask, FieldMask.parse earlier = .ok mask) ∧
      FieldMask.parse paths = .error error := by
  rw [List.findSome?_eq_some_iff]
  simp only [maskError?_eq_some_iff, maskError?_eq_none_iff]
  constructor
  · rintro ⟨before, paths, after, hlists, hpaths, hbefore⟩
    exact ⟨before, paths, after, hlists, hbefore, hpaths⟩
  · rintro ⟨before, paths, after, hlists, hbefore, hpaths⟩
    exact ⟨before, paths, after, hlists, hpaths, hbefore⟩

theorem findSome?_maskError?_ne_none_iff {lists : List (List String)} :
    lists.findSome? maskError? ≠ none ↔
      ∃ paths ∈ lists, ∃ error, FieldMask.parse paths = .error error := by
  constructor
  · intro hsome
    obtain ⟨error, hfirst⟩ := Option.ne_none_iff_exists'.mp hsome
    obtain ⟨paths, hpaths, herror⟩ := List.exists_of_findSome?_eq_some hfirst
    exact ⟨paths, hpaths, error, maskError?_eq_some_iff.mp herror⟩
  · rintro ⟨paths, hpaths, error, herror⟩ hnone
    obtain ⟨mask, hmask⟩ := findSome?_maskError?_eq_none_iff.mp hnone paths hpaths
    rw [hmask] at herror
    cases herror

/-- The middleware has the last identity rules, or those for the `authorization` header; the last
path source, or none, which stands for the default path; the mappers since the resource was last
emptied, behind that for path parameters if it never was; and the entries of all listing steps. -/
structure IsDeclared (middleware : Middleware) : Prop where
  policy : middleware.policy = policy
  identity : middleware.identity =
    (lastSet Step.identity? steps).getD Identity.Rules.authorization
  path : middleware.path = lastSet Step.path? steps
  resource : ∃ mappers,
    List.Forall₂ Step.Adds ((sinceReset steps).filter (·.group = .resource)) mappers ∧
    middleware.resource = (if steps.any Step.isReset then [] else [.pathParams]) ++ mappers
  allowed : ∀ method, method ∈ middleware.allowedMethods ↔
    method ∈ allowedOf steps ∨ method ∈ ignoredOf steps ∧ method.startsWith "/" = true
  ignored : ∀ form, form ∈ middleware.ignoredPaths ↔
    ∃ entry ∈ ignoredOf steps, entry.startsWith "/" = false ∧
      Text.lowercase (Text.trimChar '.' entry) = form

theorem isDeclared_of_build {policy : Policy} {steps : List Step} {middleware : Middleware}
    (built : build policy steps = .ok middleware) : IsDeclared policy steps middleware := by
  have hallowed := mem_allowedMethods_of_build_iff built
  have hignored := mem_ignoredPaths_of_build_iff built
  obtain ⟨herrors, -, -, rfl⟩ := ((Draft.ofSteps policy steps).finish_eq_ok_iff middleware).mp built
  rw [errors_ofSteps, List.flatMap_eq_nil_iff] at herrors
  have hsince : ∀ s ∈ sinceReset steps, s.isReset = false ∧ s.fault? = none := by
    intro s hs
    rw [sinceReset] at hs
    have hreset := List.mem_rtakeWhile_imp hs
    have hmem := (List.rtakeWhile_suffix _ steps).subset hs
    exact ⟨by simpa using hreset, by simpa using herrors s hmem⟩
  exact
    { policy := Draft.policy_ofSteps policy steps
      identity := identity_ofSteps policy steps
      path := path_ofSteps policy steps
      resource := ⟨_, forall₂_adds hsince, resource_ofSteps policy steps⟩
      allowed := hallowed
      ignored := hignored }

/-- A middleware is a function of its policy and its steps. Building it fails for a wrong mask, or a
policy without a name or a decision, and tells the first of these: the masks come first, in the
order in which the steps were taken and list them, whether or not they are dropped later on. What is
built is what the steps declare. A step may be moved past steps of other groups. -/
theorem build_from_steps (policy : Policy) (steps : List Step) :
    let lists := steps.flatMap Step.masks
    ((∃ error, build policy steps = .error error) ↔
      (∃ paths ∈ lists, ∃ error, FieldMask.parse paths = .error error) ∨
        Text.trim policy.name = "" ∨ Text.trim policy.decision = "") ∧
    (∀ error, build policy steps = .error (.mask error) ↔
      ∃ before paths after, lists = before ++ paths :: after ∧
        (∀ earlier ∈ before, ∃ mask, FieldMask.parse earlier = .ok mask) ∧
        FieldMask.parse paths = .error error) ∧
    (build policy steps = .error .missingName ↔
      (∀ paths ∈ lists, ∃ mask, FieldMask.parse paths = .ok mask) ∧
        Text.trim policy.name = "") ∧
    (build policy steps = .error .missingDecision ↔
      (∀ paths ∈ lists, ∃ mask, FieldMask.parse paths = .ok mask) ∧
        Text.trim policy.name ≠ "" ∧ Text.trim policy.decision = "") ∧
    (∀ middleware, build policy steps = .ok middleware → IsDeclared policy steps middleware) ∧
    (∀ before s passed after, steps = before ++ s :: (passed ++ after) →
      (∀ t ∈ passed, t.group ≠ s.group) →
        build policy (before ++ passed ++ s :: after) = build policy steps) := by
  intro lists
  rw [← findSome?_maskError?_ne_none_iff, ← findSome?_maskError?_eq_none_iff]
  refine ⟨exists_build_eq_error_iff policy steps, fun error => ?_, ?_, ?_,
    fun middleware => isDeclared_of_build, ?_⟩
  · rw [← findSome?_maskError?_eq_some_iff, build_eq_error_iff]
    simp [lists]
  · rw [build_eq_error_iff]
    simp [lists]
  · rw [build_eq_error_iff]
    simp [lists]
  · rintro before s passed after rfl hpassed
    exact build_move policy before after hpassed

/-- A mask that would be dropped is still looked at. -/
example :
    build (Policy.new "shop" "allowed") [.resourceFields ["owner..name"], .noResource] =
      .error (.mask (.emptySegment "owner..name")) := rfl

end AccessControl.Middleware
