import AccessControl.Proofs.Identity.Rules
import AccessControl.Proofs.Relation.Authorize
import AccessControl.Proofs.Resource.PathParams

/-!
# Relation middlewares without functions of their own

Built without mappers and filters that are functions of calls, a relation middleware looks at a call
through the library's own rules only. Its filters depend on the transport, the method and the
context. The object depends on the context and on one path parameter at most, the subject on the
context or on the identity, and the relation on the transport, the method and the route.
-/

namespace AccessControl.RelationMiddleware

variable {Q : Type}

/-- Whether a step brings in no function of its own. -/
def Step.IsBuiltIn : Step → Prop
  | .objectIdMapper _ => False
  | .objectMapper _ => False
  | .subjectIdMapper _ => False
  | .subjectMapper _ => False
  | .identity rules => rules.mapper = none
  | .relationMapper _ => False
  | .filter _ => False
  | _ => True

/-- Whether the subject is read from the identity: nothing else says who it is. -/
structure ReadsIdentity (m : RelationMiddleware) : Prop where
  noMapper : m.subjectIdMapper = none
  noSubjectId : m.subjectId = ""

/-- The path parameter that the ID of the object is read from after a step, given the one before. -/
def Step.objectParam (before : Option String) : Step → Option String
  | .objectIdFromPathParam name => some name
  | .objectIdFromContext _ => none
  | .objectIdMapper _ => none
  | _ => before

def objectParam (steps : List Step) : Option String := steps.foldl Step.objectParam none

/-- A middleware all of whose rules are the library's own, with the path parameter that it reads. -/
structure IsBuiltIn (m : RelationMiddleware) (param : Option String) : Prop where
  objectMapper : m.objectMapper = none
  objectId : ∀ f, m.objectIdMapper = some f → (param = none ∧ ∃ key, f = contextText key) ∨
    ∃ name, param = some name ∧ f = fun call => (call.pathParam? name).getD ""
  noObjectId : m.objectIdMapper = none → param = none
  subjectMapper : m.subjectMapper = none
  subjectId : ∀ f, m.subjectIdMapper = some f → ∃ key, f = contextText key
  identity : m.identity.mapper = none
  relation : m.relationMapper = none
  filters : ∀ f ∈ m.filters, (∃ methods, f = acceptsMethod methods) ∨
    ∃ key values, f = acceptsContext key values

theorem isBuiltIn_step {m : RelationMiddleware} {param : Option String} (h : m.IsBuiltIn param)
    {s : Step} (hs : s.IsBuiltIn) : (m.step s).IsBuiltIn (s.objectParam param) := by
  cases s with
  | objectIdFromContext key =>
      refine { h with objectId := ?_, noObjectId := nofun }
      rintro f ⟨⟩
      exact .inl ⟨rfl, key, rfl⟩
  | objectIdFromPathParam name =>
      refine { h with objectId := ?_, noObjectId := nofun }
      rintro f ⟨⟩
      exact .inr ⟨name, rfl, rfl⟩
  | subjectIdFromContext key =>
      refine { h with subjectId := ?_ }
      rintro f ⟨⟩
      exact ⟨key, rfl⟩
  | identity rules => exact { h with identity := hs }
  | methodFilter methods =>
      refine { h with filters := ?_ }
      intro f hf
      rcases List.mem_append.mp hf with hf | hf
      · exact h.filters f hf
      · exact .inl ⟨methods, List.mem_singleton.mp hf⟩
  | contextFilter key values =>
      refine { h with filters := ?_ }
      intro f hf
      rcases List.mem_append.mp hf with hf | hf
      · exact h.filters f hf
      · exact .inr ⟨key, values, List.mem_singleton.mp hf⟩
  | objectIdMapper f => exact absurd hs id
  | objectMapper f => exact absurd hs id
  | subjectIdMapper f => exact absurd hs id
  | subjectMapper f => exact absurd hs id
  | relationMapper f => exact absurd hs id
  | filter f => exact absurd hs id
  | _ => exact { h with }

theorem isBuiltIn_foldl {steps : List Step} (hsteps : ∀ s ∈ steps, s.IsBuiltIn)
    {m : RelationMiddleware} {param : Option String} (h : m.IsBuiltIn param) :
    (steps.foldl step m).IsBuiltIn (steps.foldl Step.objectParam param) := by
  induction steps generalizing m param with
  | nil => exact h
  | cons s steps ih =>
      obtain ⟨hs, hsteps⟩ := List.forall_mem_cons.mp hsteps
      exact ih hsteps (isBuiltIn_step h hs)

theorem isBuiltIn_ofSteps {steps : List Step} (hsteps : ∀ s ∈ steps, s.IsBuiltIn) :
    (ofSteps steps).IsBuiltIn (objectParam steps) := by
  refine isBuiltIn_foldl hsteps ?_
  exact ⟨rfl, nofun, fun _ => rfl, rfl, nofun, rfl, rfl, nofun⟩

section

variable {m : RelationMiddleware} {param : Option String} {call other : Call}

/-- The library's own filters look at the transport, the method and the context. -/
theorem IsBuiltIn.isFiltered_congr (h : m.IsBuiltIn param) (hkind : call.kind = other.kind)
    (hmethod : call.method = other.method) (hcontext : call.context = other.context) :
    m.isFiltered call = m.isFiltered other := by
  rw [isFiltered, isFiltered, Bool.eq_iff_iff, List.any_eq_true, List.any_eq_true]
  refine exists_congr fun f => and_congr_right fun hf => ?_
  rcases h.filters f hf with ⟨methods, rfl⟩ | ⟨key, values, rfl⟩
  · rw [acceptsMethod, acceptsMethod, hkind, hmethod]
  · rw [acceptsContext, acceptsContext, Call.contextText?_congr hcontext]

theorem IsBuiltIn.objectOf_congr (h : m.IsBuiltIn param) (hcontext : call.context = other.context)
    (hparam : ∀ name, param = some name →
      (call.pathParam? name).getD "" = (other.pathParam? name).getD "") :
    m.objectOf call = m.objectOf other := by
  rw [objectOf, objectOf, h.objectMapper]
  refine Prod.ext rfl ?_
  cases hobject : m.objectIdMapper with
  | none => rfl
  | some f =>
      rcases h.objectId f hobject with ⟨-, key, rfl⟩ | ⟨name, hname, rfl⟩
      · exact congrArg (·.getD "") (Call.contextText?_congr hcontext key)
      · exact hparam name hname

/-- The identity is only asked for if nothing else says who the subject is. -/
theorem IsBuiltIn.subjectOf_congr (h : m.IsBuiltIn param) (hcontext : call.context = other.context)
    (hidentity : m.ReadsIdentity →
      (m.identity.resolve call).value = (m.identity.resolve other).value) :
    m.subjectOf call = m.subjectOf other := by
  have hraw : m.rawSubjectOf call = m.rawSubjectOf other := by
    rw [rawSubjectOf, rawSubjectOf, h.subjectMapper]
    refine Prod.ext rfl ?_
    cases hsubject : m.subjectIdMapper with
    | none =>
        by_cases hid : m.subjectId = ""
        · simpa [hid] using hidentity ⟨hsubject, hid⟩
        · simp [hid]
    | some f =>
        obtain ⟨key, rfl⟩ := h.subjectId f hsubject
        exact congrArg (·.getD "") (Call.contextText?_congr hcontext key)
  rw [subjectOf, subjectOf, hraw]

theorem IsBuiltIn.subjectId_of_readsIdentity (h : m.IsBuiltIn param) (hreads : m.ReadsIdentity)
    (call : Call) : (m.subjectOf call).2 = (m.identity.resolve call).value := by
  simp [subjectOf, rawSubjectOf, h.subjectMapper, hreads.noMapper, hreads.noSubjectId]

theorem IsBuiltIn.relationOf_congr (h : m.IsBuiltIn param) (hkind : call.kind = other.kind)
    (hmethod : call.method = other.method) (hroute : call.routePath = other.routePath) :
    m.relationOf call = m.relationOf other := by
  have hpath : callPath call = callPath other := by
    rw [callPath, callPath, hkind, hmethod, hroute]
  rw [relationOf, relationOf, h.relation, hpath]
  cases m.relation <;> rfl

theorem IsBuiltIn.objectId_of_param (h : m.IsBuiltIn param) {name : String}
    (hname : param = some name) (call : Call) :
    (m.objectOf call).2 = (call.pathParam? name).getD "" := by
  rw [objectOf, h.objectMapper]
  cases hobject : m.objectIdMapper with
  | none => cases hname.symm.trans (h.noObjectId hobject)
  | some f =>
      rcases h.objectId f hobject with ⟨hnone, -⟩ | ⟨other, hother, rfl⟩
      · cases hname.symm.trans hnone
      · cases hname.symm.trans hother
        rfl

theorem IsBuiltIn.isFiltered_withParams (h : m.IsBuiltIn param) (call : Call)
    (params : List (String × String)) :
    m.isFiltered (call.withParams params) = m.isFiltered call :=
  h.isFiltered_congr rfl rfl rfl

theorem IsBuiltIn.tupleOf_withParams (h : m.IsBuiltIn param) {params : List (String × String)}
    (hparam : ∀ name, param = some name →
      ((call.withParams params).pathParam? name).getD "" = (call.pathParam? name).getD "") :
    m.tupleOf (call.withParams params) = m.tupleOf call := by
  have hidentity : m.identity.resolve (call.withParams params) = m.identity.resolve call :=
    Identity.Rules.resolve_congr h.identity rfl (fun _ _ => rfl) fun _ _ => rfl
  refine tupleOf_congr (h.objectOf_congr rfl hparam) (h.subjectOf_congr rfl ?_)
    (h.relationOf_congr rfl rfl (call.routePath_withParams params))
  intro _
  rw [hidentity]

/-- A complete tuple stays the same exactly if the path parameter that the ID of the object is
read from does. -/
theorem IsBuiltIn.tupleOf_withParams_iff (h : m.IsBuiltIn param) {tuple : RelationTuple}
    (htuple : m.tupleOf call = .ok tuple) (params : List (String × String)) :
    m.tupleOf (call.withParams params) = m.tupleOf call ↔ ∀ name, param = some name →
      ((call.withParams params).pathParam? name).getD "" = (call.pathParam? name).getD "" := by
  constructor
  · intro hsame name hname
    have hid : (m.objectOf (call.withParams params)).2 = (m.objectOf call).2 :=
      (congrArg RelationTuple.objectId (eq_of_tupleOf (hsame.trans htuple))).symm.trans
        (congrArg RelationTuple.objectId (eq_of_tupleOf htuple))
    rwa [h.objectId_of_param hname, h.objectId_of_param hname] at hid
  · exact h.tupleOf_withParams

end

end AccessControl.RelationMiddleware
