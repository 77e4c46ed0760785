import AccessControl.Proofs.Middleware.BuiltIn
import AccessControl.Proofs.Relation.BuiltIn
import AccessControl.Proofs.Route.Table
import AccessControl.Proofs.Server.Comparison
import AccessControl.Proofs.Text.Utf8

/-!
# Plain services and routers

The guard of a plain service with a table of routes and the guard of a router with the same routes
are meant to authorize a request in the same way. The calls that they make from a request differ
in one thing: the parameters of the route are percent-decoded in a router, all of them or, if one
of them is not UTF-8, none, and a plain service takes them as they stand in the path. So whatever
decides, the two agree if there is no percent sign in a parameter. The library's own rules make a
difference exactly where the decoding shows: in a parameter that the resource holds, and in the one
that the ID of the object is read from.
-/

namespace AccessControl.Server

/-- A router sees the call of a plain service with decoded parameters. -/
theorem routedCall_eq_withParams (table : Route.Table) (request : Http.Request) :
    ∃ params, routedCall table request = (plainCall (some table) request).withParams params := by
  unfold routedCall plainCall
  rw [Option.bind_some]
  cases table.recognize request.uri.path with
  | none => exact ⟨[], rfl⟩
  | some route => exact ⟨(route.params.mapM decodeParam?).getD [], rfl⟩

theorem decodeParam?_of_notMem {param : String × String} (h : '%' ∉ param.2.toList) :
    decodeParam? param = some param := by
  rw [decodeParam?, Bytes.percentDecode_of_notMem (Text.percent_notMem_utf8 h), Text.ofUtf8?_utf8]
  rfl

theorem mapM_decodeParam?_of_notMem {params : List (String × String)}
    (h : ∀ param ∈ params, '%' ∉ param.2.toList) : params.mapM decodeParam? = some params := by
  induction params with
  | nil => rfl
  | cons param params ih =>
      obtain ⟨hparam, hparams⟩ := List.forall_mem_cons.mp h
      rw [List.mapM_cons, decodeParam?_of_notMem hparam, ih hparams]
      rfl

/-- Without a percent sign in a parameter there is nothing to decode. -/
theorem routedCall_eq_plainCall {table : Route.Table} {request : Http.Request}
    (h : ∀ param ∈ (plainCall (some table) request).pathParams, '%' ∉ param.2.toList) :
    routedCall table request = plainCall (some table) request := by
  unfold routedCall
  unfold plainCall at h ⊢
  rw [Option.bind_some] at h ⊢
  cases hroute : table.recognize request.uri.path with
  | none => rfl
  | some route =>
      rw [hroute] at h
      have hparams : route.params.mapM decodeParam? = some route.params :=
        mapM_decodeParam?_of_notMem h
      have hdecoded : decodeRoute route = route := by
        rw [decodeRoute, hparams]
        rfl
      simp only [hdecoded]

theorem kind_plainCall (routes : Option Route.Table) (request : Http.Request) :
    (plainCall routes request).kind = .http := by
  unfold plainCall
  split <;> rfl

theorem message_plainCall (routes : Option Route.Table) (request : Http.Request) :
    (plainCall routes request).message = none := by
  unfold plainCall
  split <;> rfl

end AccessControl.Server

namespace AccessControl.Middleware

/-- Other path parameters make a difference to an HTTP call without a message exactly if the
resource shows it. -/
theorem sameAuthorization_withParams_iff {policy : Policy} {steps : List Step}
    {middleware : Middleware} (built : build policy steps = .ok middleware)
    (hsteps : ∀ s ∈ steps, s.IsBuiltIn) {call : Call} (hkind : call.kind = .http)
    (hmessage : call.message = none) (params : List (String × String)) (authorizer : Authorizer) :
    Server.SameAuthorization (middleware.authorize authorizer call)
        (middleware.authorize authorizer (call.withParams params)) ↔
      ∀ name, middleware.resource.ShowsParam call name →
        (Entries.ofList call.pathParams).get? name =
          (Entries.ofList (call.withParams params).pathParams).get? name := by
  have hbuiltIn := isBuiltIn_of_build built hsteps
  rw [← Resource.Chain.build_withParams_eq_iff hbuiltIn.resource
    (pathParams_notMem_tail_of_build built) hmessage]
  constructor
  · intro hsame
    have hallows : middleware.allows call = false := by simp [allows, hkind]
    have hallows' : middleware.allows (call.withParams params) = false := hallows
    exact resourceOf_eq_of_authorize hallows hallows' hsame.queries hsame.result
  · intro hresource
    have hidentity : middleware.identityOf call = middleware.identityOf (call.withParams params) :=
      Identity.Rules.resolve_congr hbuiltIn.identity rfl (fun _ _ => rfl) fun _ _ => rfl
    have hpath : middleware.pathOf call = middleware.pathOf (call.withParams params) :=
      pathOf_congr hbuiltIn.path rfl rfl (call.routePath_withParams params).symm
    have hallows : middleware.allows call = middleware.allows (call.withParams params) :=
      middleware.allows_congr rfl rfl
    exact .of_eq (authorize_congr hallows hidentity hpath hresource authorizer)

end AccessControl.Middleware

namespace AccessControl.Server

def AdaptersAgree {Q : Type} (authorize : Authorize Q) (table : Route.Table)
    (request : Http.Request) : Prop :=
  ∀ service handler, SameAuthorization (guardPlain authorize (some table) service request).run
    (guardRouter authorize table handler request).run

theorem adaptersAgree_iff {Q : Type} (authorize : Authorize Q) (table : Route.Table)
    (request : Http.Request) :
    AdaptersAgree authorize table request ↔
      SameAuthorization (authorize (plainCall (some table) request))
        (authorize (routedCall table request)) := by
  have hplain : ∀ service, (guardPlain authorize (some table) service request).run =
      authorize (plainCall (some table) request) := fun service => run_enforce _ _ service request
  have hrouter : ∀ handler, (guardRouter authorize table handler request).run =
      authorize (routedCall table request) := fun handler => run_enforce _ _ _ request
  constructor
  · intro h
    have hsame := h (fun _ => .bare 200) (fun _ => .bare 200)
    rwa [hplain, hrouter] at hsame
  · intro hsame service handler
    rwa [hplain, hrouter]

/-- For the same templates, with all parameters in braces, the two adapters have the same table.
They agree, whatever decides, if no parameter has a percent sign. A middleware of built-in steps
makes no difference between them exactly if every parameter that the resource shows is the same
decoded, and a relation middleware exactly if a filter accepts the call or its tuple is the same,
and that a complete one is if the ID of the object is not read from a parameter or is the same
decoded. -/
theorem adapters_agree_iff {templates : List String}
    (hbraces : ∀ template ∈ templates, Route.InBraces template) {table : Route.Table}
    (htable : Route.Table.ofTemplates templates = .ok table) (request : Http.Request) :
    let plain := plainCall (some table) request
    let routed := routedCall table request
    Route.Table.ofBraced templates = .ok table ∧
    (∀ {Q : Type} (authorize : Authorize Q), (∀ param ∈ plain.pathParams, '%' ∉ param.2.toList) →
      AdaptersAgree authorize table request) ∧
    (∀ (policy : Policy) (steps : List Middleware.Step) (middleware : Middleware)
        (authorizer : Authorizer), Middleware.build policy steps = .ok middleware →
      (∀ s ∈ steps, s.IsBuiltIn) →
        (AdaptersAgree (middleware.authorize authorizer) table request ↔
          ∀ name, middleware.resource.ShowsParam plain name →
            (Entries.ofList plain.pathParams).get? name =
              (Entries.ofList routed.pathParams).get? name)) ∧
    ∀ steps : List RelationMiddleware.Step, (∀ s ∈ steps, s.IsBuiltIn) →
      let m := RelationMiddleware.ofSteps steps
      let SameTuple := m.tupleOf routed = m.tupleOf plain
      let SameObject := ∀ name, RelationMiddleware.objectParam steps = some name →
        (routed.pathParam? name).getD "" = (plain.pathParam? name).getD ""
      (∀ {Q : Type} (checker : Checker Q), m.isFiltered plain = true ∨ SameTuple →
        AdaptersAgree (m.authorize checker) table request) ∧
      (∀ backend : Directory, AdaptersAgree (m.authorize (.directory backend)) table request ↔
        m.isFiltered plain = true ∨ SameTuple) ∧
      (∀ (authorizer : Authorizer) (policy : Policy),
        AdaptersAgree (m.authorize (.policy authorizer policy)) table request ↔
          m.isFiltered plain = true ∨ SameTuple) ∧
      (SameObject → SameTuple) ∧
      ∀ tuple, m.tupleOf plain = .ok tuple → (SameTuple ↔ SameObject) := by
  intro plain routed
  obtain ⟨params, hparams⟩ := routedCall_eq_withParams table request
  have hrouted : routed = plain.withParams params := hparams
  clear_value routed
  subst hrouted
  refine ⟨?_, ?_, ?_, ?_⟩
  · rw [← Route.Table.ofTemplates_eq_ofBraced hbraces, htable]
  · intro Q authorize hpercent
    rw [adaptersAgree_iff, routedCall_eq_plainCall hpercent]
    exact .of_eq rfl
  · intro policy steps middleware authorizer built hsteps
    rw [adaptersAgree_iff, hparams]
    exact Middleware.sameAuthorization_withParams_iff built hsteps (kind_plainCall _ request)
      (message_plainCall _ request) params authorizer
  · intro steps hsteps m SameTuple SameObject
    have hbuiltIn := RelationMiddleware.isBuiltIn_ofSteps hsteps
    have hfilters := hbuiltIn.isFiltered_withParams plain params
    refine ⟨?_, ?_, ?_, ?_, ?_⟩
    · intro Q checker hsame
      rw [adaptersAgree_iff, hparams]
      exact .of_eq (RelationMiddleware.authorize_congr hfilters hsame checker)
    · intro backend
      rw [adaptersAgree_iff, hparams]
      exact RelationMiddleware.sameAuthorization_iff (Checker.isTelling_directory backend) hfilters
    · intro authorizer policy
      rw [adaptersAgree_iff, hparams]
      exact RelationMiddleware.sameAuthorization_iff (Checker.isTelling_policy authorizer policy)
        hfilters
    · exact hbuiltIn.tupleOf_withParams
    · intro tuple htuple
      exact hbuiltIn.tupleOf_withParams_iff htuple params

/-- The adapters agree on a product with a plain number, whatever decides, and on one with an escaped
blank if no parameter gets into the resource. -/
theorem adapters_agree_iff_for_plain_value :
    let template := "/products/\x7bid\x7d"
    let request : String → Http.Request :=
      fun path => ⟨"GET", ⟨none, none, path, none⟩, [], ⟨none, none⟩, []⟩
    ∃ table middleware, Route.InBraces template ∧ Route.Table.ofTemplates [template] = .ok table ∧
      Route.Table.ofBraced [template] = .ok table ∧
      (plainCall (some table) (request "/products/42")).pathParams = [("id", "42")] ∧
      (∀ {Q : Type} (authorize : Authorize Q),
        AdaptersAgree authorize table (request "/products/42")) ∧
      Middleware.build (Policy.new "shop" "allowed") [.noResource] = .ok middleware ∧
      (plainCall (some table) (request "/products/a%20b")).pathParams = [("id", "a%20b")] ∧
      ∀ authorizer : Authorizer,
        AdaptersAgree (middleware.authorize authorizer) table (request "/products/a%20b") := by
  intro template request
  let table : Route.Table :=
    ⟨[⟨template, [.literal [], .literal "products".toList, .param [] "id" []]⟩]⟩
  have hbraces : ∀ t ∈ [template], Route.InBraces t := by decide +kernel
  have htable : Route.Table.ofTemplates [template] = .ok table := by decide +kernel
  have hplain : (plainCall (some table) (request "/products/42")).pathParams = [("id", "42")] := by
    decide +kernel
  have hescaped : (plainCall (some table) (request "/products/a%20b")).pathParams =
      [("id", "a%20b")] := by
    decide +kernel
  let draft := Middleware.Draft.ofSteps (Policy.new "shop" "allowed") [.noResource]
  have built : Middleware.build (Policy.new "shop" "allowed") [.noResource] =
      .ok draft.middleware :=
    (draft.finish_eq_ok_iff _).mpr ⟨rfl, by decide, by decide, rfl⟩
  have hsteps : ∀ s ∈ [Middleware.Step.noResource], s.IsBuiltIn :=
    List.forall_mem_singleton.mpr trivial
  obtain ⟨hbraced, hagree, -⟩ := adapters_agree_iff hbraces htable (request "/products/42")
  obtain ⟨-, -, hiff, -⟩ := adapters_agree_iff hbraces htable (request "/products/a%20b")
  refine ⟨table, draft.middleware, hbraces _ List.mem_cons_self, htable, hbraced, hplain, ?_,
    built, hescaped, ?_⟩
  · intro Q authorize
    refine hagree authorize ?_
    rw [hplain]
    decide +kernel
  · intro authorizer
    refine (hiff _ _ _ authorizer built hsteps).mpr ?_
    intro name hshows
    have hresource : draft.middleware.resource = [] := rfl
    rw [hresource] at hshows
    exact absurd hshows.1 List.not_mem_nil

/-- A product whose name is sent with an escaped blank is another object to a plain service than to
a router, and one that is sent with a byte that is not UTF-8 is no object at all to a router. So
the policy decides differently, and so does the directory. -/
theorem adapters_differ_on_escaped_value :
    let template := "/products/\x7bid\x7d"
    let table : Route.Table :=
      ⟨[⟨template, [.literal [], .literal "products".toList, .param [] "id" []]⟩]⟩
    let request : String → Http.Request :=
      fun path => ⟨"GET", ⟨none, none, path, none⟩, [], ⟨none, none⟩, []⟩
    let service : Service := fun _ => .bare 200
    let shown : Query → Option String := fun query => (query.resource.get? "id").bind Json.string?
    let authorizer : Authorizer :=
      fun query => .ok (Answer.single "allowed" (shown query == some "a b"))
    let directory : Directory := fun tuple => .ok ⟨tuple.objectId == "a b", []⟩
    let steps : List RelationMiddleware.Step :=
      [.objectType "product", .objectIdFromPathParam "id", .subjectId "alice", .relation "read"]
    let check := (RelationMiddleware.ofSteps steps).authorize (.directory directory)
    Http.Uri.parse? "/products/a%20b" = some (request "/products/a%20b").uri ∧
    Http.Uri.parse? "/products/%ff" = some (request "/products/%ff").uri ∧
    Route.InBraces template ∧
    Route.Table.ofTemplates [template] = .ok table ∧ Route.Table.ofBraced [template] = .ok table ∧
    (∀ s ∈ steps, s.IsBuiltIn) ∧
    (∃ middleware, Middleware.build (Policy.new "shop" "allowed") [] = .ok middleware ∧
      let plain := fun path =>
        guardPlain (middleware.authorize authorizer) (some table) service (request path)
      let routed := fun path =>
        guardRouter (middleware.authorize authorizer) table service (request path)
      (plain "/products/a%20b").run.queries.map shown = [some "a%20b"] ∧
      (plain "/products/a%20b").run.result = .error .denied ∧
      (routed "/products/a%20b").run.queries.map shown = [some "a b"] ∧
      (routed "/products/a%20b").run.result = .ok () ∧
      (plain "/products/%ff").run.queries.map shown = [some "%ff"] ∧
      (routed "/products/%ff").run.queries.map shown = [none]) ∧
    (guardPlain check (some table) service (request "/products/a%20b")).run.queries =
      [⟨"product", "a%20b", "read", "user", "alice", false⟩] ∧
    (guardPlain check (some table) service (request "/products/a%20b")).run.result =
      .error .denied ∧
    (guardRouter check table service (request "/products/a%20b")).run.queries =
      [⟨"product", "a b", "read", "user", "alice", false⟩] ∧
    (guardRouter check table service (request "/products/a%20b")).run.result = .ok () ∧
    (guardPlain check (some table) service (request "/products/%ff")).run.queries =
      [⟨"product", "%ff", "read", "user", "alice", false⟩] ∧
    (guardRouter check table service (request "/products/%ff")).run.queries = [] := by
  intro template table request service shown authorizer directory steps check
  refine ⟨by decide +kernel, by decide +kernel, by decide +kernel, by decide +kernel,
    by decide +kernel, ?_, ?_, ?_⟩
  · simp [steps, RelationMiddleware.Step.IsBuiltIn]
  · refine ⟨_, rfl, ?_⟩
    decide +kernel
  · decide +kernel

end AccessControl.Server
