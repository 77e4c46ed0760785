import AccessControl.Middleware.Builder
import AccessControl.Proofs.Fold

/-!
# What a step does

A step has its say on the identity rules, the path source, the mappers or the lists, and leaves the
rest of the draft as it is. `Draft.step_eq` says so for all steps at once. A resource step adds its
mapper if all its lists of paths are masks, and else records the error of the first that is not.
-/

namespace AccessControl.Middleware

open Resource (Mapper)

/-! ## What a step declares -/

def Step.identity? : Step → Option Identity.Rules
  | .identity rules => some rules
  | _ => none

def Step.path? : Step → Option Policy.PathSource
  | .pathFromUrl root => some (.url root)
  | .pathFromMethod root => some (.method root)
  | .pathMapper f => some (.mapper f)
  | _ => none

def Step.masks : Step → List (List String)
  | .resourceFields paths => [paths]
  | .resourceByMethod byMethod default => byMethod.map Prod.snd ++ [default]
  | _ => []

inductive Step.Adds : Step → Mapper → Prop where
  | fields {paths : List String} {mask : FieldMask} (hmask : FieldMask.parse paths = .ok mask) :
      Adds (.resourceFields paths) (.fields mask)
  | byMethod {byMethod : List (String × List String)} {masks : List (String × FieldMask)}
      {paths : List String} {default : FieldMask}
      (hmasks : List.Forall₂ (fun entry mask => entry.1 = mask.1 ∧
        FieldMask.parse entry.2 = .ok mask.2) byMethod masks)
      (hdefault : FieldMask.parse paths = .ok default) :
      Adds (.resourceByMethod byMethod paths) (.fieldsByMethod masks default)
  | context {key field : String} : Adds (.resourceContext key field) (.context key field)
  | custom {f : Call → Resource → Except ResourceError Resource} :
      Adds (.resourceMapper f) (.custom f)

def Step.isReset : Step → Bool
  | .noResource => true
  | _ => false

def Step.allowed : Step → List String
  | .allowedMethods methods => methods
  | _ => []

def Step.ignored : Step → List String
  | .ignoredMethods methods => methods
  | _ => []

/-! ## Masks -/

def maskError? (paths : List String) : Option MaskError :=
  match FieldMask.parse paths with
  | .ok _ => none
  | .error error => some error

theorem maskError?_eq_some_iff {paths : List String} {error : MaskError} :
    maskError? paths = some error ↔ FieldMask.parse paths = .error error := by
  unfold maskError?
  cases FieldMask.parse paths <;> simp

theorem maskError?_eq_none_iff {paths : List String} :
    maskError? paths = none ↔ ∃ mask, FieldMask.parse paths = .ok mask := by
  unfold maskError?
  cases FieldMask.parse paths <;> simp

theorem mapM_parse_eq_ok_iff {byMethod : List (String × List String)}
    {masks : List (String × FieldMask)} :
    (byMethod.mapM fun (method, paths) =>
        (FieldMask.parse paths).map fun mask => (method, mask)) = .ok masks ↔
      List.Forall₂ (fun entry mask => entry.1 = mask.1 ∧ FieldMask.parse entry.2 = .ok mask.2)
        byMethod masks := by
  rw [mapM_eq_ok_iff]
  refine iff_of_eq (congrArg (fun R => List.Forall₂ R byMethod masks) ?_)
  funext ⟨method, paths⟩ ⟨other, mask⟩
  cases hparse : FieldMask.parse paths <;> simp [Except.map, hparse]

theorem mapM_parse_eq_error_iff {byMethod : List (String × List String)} {error : MaskError} :
    (byMethod.mapM fun (method, paths) =>
        (FieldMask.parse paths).map fun mask => (method, mask)) = .error error ↔
      (byMethod.map Prod.snd).findSome? maskError? = some error := by
  rw [List.findSome?_map]
  refine mapM_eq_error_iff fun entry found => ?_
  rw [Function.comp_apply, maskError?_eq_some_iff]
  cases hparse : FieldMask.parse entry.2 <;> simp [Except.map, hparse]

theorem fieldsByMethod_eq_error_iff {byMethod : List (String × List String)}
    {default : List String} {error : MaskError} :
    fieldsByMethod byMethod default = .error error ↔
      (byMethod.map Prod.snd ++ [default]).findSome? maskError? = some error := by
  rw [List.findSome?_append, fieldsByMethod]
  cases hmasks : byMethod.mapM fun (method, paths) =>
      (FieldMask.parse paths).map fun mask => (method, mask) with
  | error found =>
      rw [mapM_parse_eq_error_iff.mp hmasks, Option.some_or, Option.some_inj, Except.error.injEq]
  | ok masks =>
      rw [eq_none_of_ok (fun found => mapM_parse_eq_error_iff) hmasks, Option.none_or,
        List.findSome?_singleton, maskError?_eq_some_iff]
      cases hparse : FieldMask.parse default <;> simp [Except.map]

theorem fieldsByMethod_eq_ok_iff {byMethod : List (String × List String)} {paths : List String}
    {mapper : Mapper} :
    fieldsByMethod byMethod paths = .ok mapper ↔
      (Step.resourceByMethod byMethod paths).Adds mapper := by
  unfold fieldsByMethod
  constructor
  · intro h
    split at h
    · cases h
    · rename_i masks hmasks
      cases hdefault : FieldMask.parse paths with
      | error error =>
          rw [hdefault] at h
          cases h
      | ok default =>
          rw [hdefault] at h
          cases h
          exact .byMethod (mapM_parse_eq_ok_iff.mp hmasks) hdefault
  · rintro (_ | ⟨hmasks, hdefault⟩)
    simp only [mapM_parse_eq_ok_iff.mpr hmasks, hdefault]
    rfl

/-! ## What one step does -/

/-- The error of the first list of paths in a step that is no mask. -/
def Step.fault? (s : Step) : Option MaskError := s.masks.findSome? maskError?

def Step.mapper? : Step → Option Mapper
  | .resourceFields paths => ((FieldMask.parse paths).map .fields).toOption
  | .resourceByMethod byMethod default => (fieldsByMethod byMethod default).toOption
  | .resourceContext key field => some (.context key field)
  | .resourceMapper f => some (.custom f)
  | _ => none

theorem toOption_eq_some_iff {ε α : Type} {result : Except ε α} {a : α} :
    result.toOption = some a ↔ result = .ok a := by
  cases result <;> simp [Except.toOption]

theorem Step.mapper?_eq_some_iff {s : Step} {mapper : Mapper} :
    s.mapper? = some mapper ↔ s.Adds mapper := by
  cases s with
  | resourceFields paths =>
      rw [mapper?, toOption_eq_some_iff]
      constructor
      · intro h
        cases hmask : FieldMask.parse paths with
        | error error =>
            rw [hmask] at h
            cases h
        | ok mask =>
            rw [hmask] at h
            cases h
            exact .fields hmask
      · rintro ⟨hmask⟩
        rw [hmask]
        rfl
  | resourceByMethod byMethod paths =>
      rw [mapper?, toOption_eq_some_iff, fieldsByMethod_eq_ok_iff]
  | resourceContext key field =>
      constructor
      · rintro ⟨⟩
        exact .context
      · rintro ⟨⟩
        rfl
  | resourceMapper f =>
      constructor
      · rintro ⟨⟩
        exact .custom
      · rintro ⟨⟩
        rfl
  | _ => exact ⟨nofun, nofun⟩

theorem Step.fault?_resourceFields_iff {paths : List String} {error : MaskError} :
    (FieldMask.parse paths).map Mapper.fields = .error error ↔
      (Step.resourceFields paths).fault? = some error := by
  rw [fault?, masks, List.findSome?_singleton, maskError?_eq_some_iff]
  cases FieldMask.parse paths <;> simp [Except.map]

/-- Adding a mapper, or the reason why there is none. -/
theorem Draft.addMapper_eq (draft : Draft) {result : Except MaskError Mapper}
    {fault : Option MaskError} (hfault : ∀ error, result = .error error ↔ fault = some error) :
    draft.addMapper result =
      { middleware :=
          { draft.middleware with
            resource := draft.middleware.resource ++ result.toOption.toList }
        errors := draft.errors ++ fault.toList.map .mask } := by
  cases result with
  | error error =>
      rw [(hfault error).mp rfl]
      simp [addMapper, Except.toOption]
  | ok mapper =>
      rw [eq_none_of_ok hfault rfl]
      simp [addMapper, Except.toOption]

/-- What a step does to each part of a draft. -/
theorem Draft.step_eq (draft : Draft) (s : Step) :
    draft.step s =
      { middleware :=
          { policy := draft.middleware.policy
            identity := s.identity?.getD draft.middleware.identity
            path := s.path?.or draft.middleware.path
            resource :=
              if s.isReset then [] else draft.middleware.resource ++ s.mapper?.toList
            allowedMethods :=
              draft.middleware.allowedMethods ++ (s.allowed ++ s.ignored.filter isExact)
            ignoredPaths :=
              draft.middleware.ignoredPaths ++ (s.ignored.filter (!isExact ·)).map ignoredForm }
        errors := draft.errors ++ s.fault?.toList.map .mask } := by
  cases s with
  | resourceFields paths =>
      rw [step, draft.addMapper_eq fun error => Step.fault?_resourceFields_iff]
      simp [Step.identity?, Step.path?, Step.isReset, Step.mapper?, Step.allowed, Step.ignored]
  | resourceByMethod byMethod paths =>
      rw [step, draft.addMapper_eq fun error => fieldsByMethod_eq_error_iff]
      simp [Step.identity?, Step.path?, Step.isReset, Step.mapper?, Step.allowed, Step.ignored,
        Step.fault?, Step.masks]
  | _ =>
      simp [step, addMapper, Step.identity?, Step.path?, Step.isReset, Step.mapper?, Step.allowed,
        Step.ignored, Step.fault?, Step.masks]

end AccessControl.Middleware
