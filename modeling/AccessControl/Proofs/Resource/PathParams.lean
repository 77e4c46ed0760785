import AccessControl.Proofs.Entries
import AccessControl.Proofs.Resource.Mapper

/-!
# What the path parameters do to a resource

A chain that copies the path parameters does so first, and what its other mappers find in the
context is written over them. Without a message nothing else is written. So two calls that differ
in their parameters alone get the same resource exactly if they agree in the parameters that are
not written over; of several parameters with one name the last one counts.
-/

namespace AccessControl

namespace Call

def withParams (call : Call) (params : List (String × String)) : Call :=
  { call with route := call.route.map fun route => { route with params } }

theorem routePath_withParams (call : Call) (params : List (String × String)) :
    (call.withParams params).routePath = call.routePath := by
  unfold routePath withParams
  cases call.route with
  | none => rfl
  | some route =>
      rcases route with ⟨template, values⟩
      cases template <;> rfl

end Call

namespace Resource

def Mapper.contextEntries (call : Call) : Mapper → List (String × Json)
  | .context key field =>
    match call.contextValue? key with
    | some value => [(field, value)]
    | none => []
  | _ => []

def Chain.contextEntries (chain : Chain) (call : Call) : List (String × Json) :=
  chain.flatMap (Mapper.contextEntries call)

/-- The chain copies the path parameters and leaves the one with a name as it is. -/
def Chain.ShowsParam (chain : Chain) (call : Call) (name : String) : Prop :=
  .pathParams ∈ chain ∧ name ∉ (chain.contextEntries call).map Prod.fst

variable {call : Call}

theorem Mapper.apply_of_no_message {mapper : Mapper} (hbuiltIn : mapper.IsBuiltIn)
    (hparams : mapper ≠ .pathParams) (hmessage : call.message = none) (resource : Resource) :
    mapper.apply call resource = .ok (Entries.putAll resource (mapper.contextEntries call)) := by
  cases mapper with
  | pathParams => exact absurd rfl hparams
  | fields mask =>
      simp only [apply, extract, messageFields, hmessage]
      rfl
  | fieldsByMethod masks default =>
      simp only [apply, extract, messageFields, hmessage]
      rfl
  | context key field => rfl
  | custom f => exact absurd hbuiltIn id

/-- Without a message there is nothing that a built-in mapper can fail on. -/
theorem Chain.exists_build_of_no_message {chain : Chain}
    (hbuiltIn : ∀ mapper ∈ chain, mapper.IsBuiltIn) (hmessage : call.message = none) :
    ∃ resource, chain.build call = .ok resource := by
  suffices hfold : ∀ start : Resource, ∃ resource,
      chain.foldlM (fun resource mapper => mapper.apply call resource) start = .ok resource from
    hfold []
  induction chain with
  | nil => exact fun start => ⟨start, rfl⟩
  | cons mapper chain ih =>
      intro start
      obtain ⟨hmapper, hchain⟩ := List.forall_mem_cons.mp hbuiltIn
      obtain ⟨next, hnext⟩ : ∃ next, mapper.apply call start = .ok next := by
        by_cases hparams : mapper = .pathParams
        · subst hparams
          exact ⟨_, rfl⟩
        · exact ⟨_, Mapper.apply_of_no_message hmapper hparams hmessage start⟩
      rw [List.foldlM_cons, hnext]
      exact ih hchain next

/-- Without a message, mappers behind the path parameters write what they find in the context. -/
theorem Chain.foldlM_of_no_message {chain : Chain} (hbuiltIn : ∀ mapper ∈ chain, mapper.IsBuiltIn)
    (hparams : .pathParams ∉ chain) (hmessage : call.message = none) (resource : Resource) :
    chain.foldlM (fun resource mapper => mapper.apply call resource) resource =
      .ok (Entries.putAll resource (chain.contextEntries call)) := by
  induction chain generalizing resource with
  | nil => rfl
  | cons mapper chain ih =>
      obtain ⟨hmapper, hchain⟩ := List.forall_mem_cons.mp hbuiltIn
      rw [List.mem_cons, not_or] at hparams
      rw [List.foldlM_cons, Mapper.apply_of_no_message hmapper (Ne.symm hparams.1) hmessage]
      refine (ih hchain hparams.2 _).trans (congrArg Except.ok ?_)
      exact (List.foldl_append (l := mapper.contextEntries call)).symm

theorem Chain.build_pathParams_cons {chain : Chain} (hbuiltIn : ∀ mapper ∈ chain, mapper.IsBuiltIn)
    (hparams : .pathParams ∉ chain) (hmessage : call.message = none) :
    build (.pathParams :: chain) call =
      .ok (Entries.putAll (Entries.ofList (ofParams call.pathParams))
        (chain.contextEntries call)) := by
  rw [build, List.foldlM_cons]
  exact foldlM_of_no_message hbuiltIn hparams hmessage _

/-- Without a message, other path parameters make another resource exactly if the chain shows one
that changed. -/
theorem Chain.build_withParams_eq_iff {chain : Chain}
    (hbuiltIn : ∀ mapper ∈ chain, mapper.IsBuiltIn) (hparams : .pathParams ∉ chain.tail)
    (hmessage : call.message = none) (params : List (String × String)) :
    chain.build call = chain.build (call.withParams params) ↔
      ∀ name, chain.ShowsParam call name →
        (Entries.ofList call.pathParams).get? name =
          (Entries.ofList (call.withParams params).pathParams).get? name := by
  by_cases hmem : Mapper.pathParams ∈ chain
  · cases chain with
    | nil => exact absurd hmem List.not_mem_nil
    | cons mapper chain =>
        have hfirst : mapper = .pathParams := by
          rcases List.mem_cons.mp hmem with hfirst | htail
          · exact hfirst.symm
          · exact absurd htail hparams
        subst hfirst
        have hchain := (List.forall_mem_cons.mp hbuiltIn).2
        have hother : (call.withParams params).message = none := hmessage
        have hentries : contextEntries chain (call.withParams params) =
            contextEntries chain call := rfl
        have hsorted := fun params : List (String × String) =>
          (Entries.sorted_ofList (ofParams params)).putAll (contextEntries chain call)
        have hvalue := fun (params : List (String × String)) (name : String) =>
          Entries.get?_ofList_map Json.string params name
        rw [build_pathParams_cons hchain hparams hmessage,
          build_pathParams_cons hchain hparams hother, hentries, Except.ok.injEq,
          (hsorted _).eq_iff (hsorted _)]
        refine forall_congr' fun name => ?_
        by_cases hname : name ∈ (contextEntries chain call).map Prod.fst
        -- The context has the last word on this name.
        · exact ⟨fun _ hshows => absurd hname hshows.2,
            fun _ => Entries.get?_putAll_of_mem hname _ _⟩
        · have hshows : Chain.ShowsParam (.pathParams :: chain) call name := ⟨hmem, hname⟩
          rw [Entries.get?_putAll_of_notMem hname, Entries.get?_putAll_of_notMem hname]
          refine Iff.trans ?_ (forall_prop_of_true hshows).symm
          rw [ofParams, ofParams, hvalue, hvalue]
          exact (Option.map_injective fun _ _ => Json.string.inj).eq_iff
  · have hother : (call.withParams params).message = none := hmessage
    refine iff_of_true ?_ fun name hshows => absurd hshows.1 hmem
    rw [build, build, foldlM_of_no_message hbuiltIn hmem hmessage,
      foldlM_of_no_message hbuiltIn hmem hother]
    rfl

end Resource

end AccessControl
