import AccessControl.Proofs.Identity.Host
import AccessControl.Proofs.Middleware.BuiltIn
import AccessControl.Proofs.Relation.BuiltIn
import AccessControl.Proofs.Resource.PathParams
import AccessControl.Proofs.Server.Comparison
import AccessControl.Server.Handler

/-!
# Framed and decoded gRPC requests

A gRPC request can be authorized before it is decoded, by a guard, or afterwards, by the handler of
a stream, and both are meant to come to the same. The call made from the decoded request has the
same method, metadata and context as the one made from the framed request. But the URI is gone by
then, so that the host is the one in the `host` field, where the framed request has the one in its
URI if there is one. Without binary metadata the library's own rules find no other difference: the
two ways agree exactly where the identity does not depend on the host or is the same for both.
-/

namespace AccessControl

namespace Call

variable {call other : Call}

theorem SameButHost.routePath (h : call.SameButHost other) : call.routePath = other.routePath := by
  rw [Call.routePath, Call.routePath, h.route, h.path]

/-- No mapper of the library's own looks at the host. -/
theorem SameButHost.extract (h : call.SameButHost other) (mapper : Resource.Mapper) :
    mapper.extract call = mapper.extract other := by
  have hmessage : ∀ mask, Resource.messageFields mask call = Resource.messageFields mask other := by
    intro mask
    rw [Resource.messageFields, Resource.messageFields, h.message]
  cases mapper with
  | pathParams =>
      rw [Resource.Mapper.extract, Resource.Mapper.extract, pathParams, pathParams, h.route]
  | fields mask => exact hmessage mask
  | fieldsByMethod masks default =>
      rw [Resource.Mapper.extract, Resource.Mapper.extract, h.method, hmessage]
  | context key field =>
      rw [Resource.Mapper.extract, Resource.Mapper.extract, contextValue?_congr h.context]
  | custom f => rfl

theorem text?_metadata {fields : Http.Fields}
    (hnames : ∀ field ∈ fields, isBinaryName field.1 = false) (name : String) :
    (Headers.metadata fields).text? name = (Headers.fields fields).text? name := by
  cases hbinary : isBinaryName (Text.asciiLowercase name) with
  | false => simp [Headers.text?, hbinary]
  | true =>
      -- Metadata has no text under such a name, and there is no field with it among the headers.
      have hfind : fields.find? (fun field => field.1 == Text.asciiLowercase name) = none := by
        rw [List.find?_eq_none]
        intro field hfield heq
        have hname := hnames field hfield
        rw [beq_iff_eq.mp heq, hbinary] at hname
        cases hname
      simp [Headers.text?, Http.Fields.text?, Http.Fields.first?, hbinary, hfind]

end Call

namespace Middleware

/-- Other hosts make a difference to a call without a message exactly if it is not on the allow-list
and the identity shows them. -/
theorem sameAuthorization_iff_sameHost {middleware : Middleware} (hbuiltIn : middleware.IsBuiltIn)
    {call other : Call} (hcalls : call.SameButHost other) (hmessage : call.message = none)
    (authorizer : Authorizer) :
    Server.SameAuthorization (middleware.authorize authorizer call)
        (middleware.authorize authorizer other) ↔
      middleware.allows call = true ∨ middleware.identity.SameHost call other := by
  have hallows : middleware.allows call = middleware.allows other :=
    middleware.allows_congr hcalls.kind hcalls.method
  have hresource : middleware.resourceOf call = middleware.resourceOf other :=
    Resource.Chain.build_congr hbuiltIn.resource fun mapper _ => hcalls.extract mapper
  constructor
  · intro hsame
    cases hlisted : middleware.allows call with
    | true => exact .inl rfl
    | false =>
        obtain ⟨resource, hbuilt⟩ :=
          Resource.Chain.exists_build_of_no_message hbuiltIn.resource hmessage
        have hqueries := hsame.queries
        rw [authorize_of_resource hlisted hbuilt,
          authorize_of_resource (hallows.symm.trans hlisted) (hresource.symm.trans hbuilt),
          queries_permit, queries_permit, Verdict.queries_evaluate, Verdict.queries_evaluate,
          List.singleton_inj] at hqueries
        -- The identity is in the query, and its text is the segment of the host.
        exact .inr (Identity.Rules.sameHost_of_value_resolve_eq hbuiltIn.identity
          (congrArg (fun query => query.identity.value) hqueries))
  · rintro (hlisted | hhost)
    · rw [authorize_of_allows hlisted, authorize_of_allows (hallows.symm.trans hlisted)]
      exact .of_eq rfl
    · have hidentity : middleware.identityOf call = middleware.identityOf other :=
        Identity.Rules.resolve_eq_of_sameHost hbuiltIn.identity hcalls hhost
      have hpath : middleware.pathOf call = middleware.pathOf other :=
        pathOf_congr hbuiltIn.path hcalls.kind hcalls.method hcalls.routePath
      exact .of_eq (authorize_congr hallows hidentity hpath hresource authorizer)

end Middleware

namespace RelationMiddleware

variable {m : RelationMiddleware} {param : Option String} {call other : Call}

/-- If the subject is read from the identity, then the host says the same in both calls. -/
def SameSubject (m : RelationMiddleware) (call other : Call) : Prop :=
  m.ReadsIdentity → m.identity.SameHost call other

theorem IsBuiltIn.tupleOf_eq_of_sameSubject (h : m.IsBuiltIn param)
    (hcalls : call.SameButHost other) (hsubject : m.SameSubject call other) :
    m.tupleOf other = m.tupleOf call := by
  have hobject : m.objectOf call = m.objectOf other := by
    refine h.objectOf_congr hcalls.context fun name _ => ?_
    rw [Call.pathParam?, Call.pathParam?, Call.pathParams, Call.pathParams, hcalls.route]
  have hsubjectOf : m.subjectOf call = m.subjectOf other := by
    refine h.subjectOf_congr hcalls.context fun hreads => ?_
    rw [Identity.Rules.resolve_eq_of_sameHost h.identity hcalls (hsubject hreads)]
  have hrelation : m.relationOf call = m.relationOf other :=
    h.relationOf_congr hcalls.kind hcalls.method hcalls.routePath
  exact (tupleOf_congr hobject hsubjectOf hrelation).symm

/-- A complete tuple stays the same exactly if its subject does. -/
theorem IsBuiltIn.tupleOf_eq_iff_sameSubject (h : m.IsBuiltIn param)
    (hcalls : call.SameButHost other) {tuple : RelationTuple}
    (htuple : m.tupleOf call = .ok tuple ∨ m.tupleOf other = .ok tuple) :
    m.tupleOf other = m.tupleOf call ↔ m.SameSubject call other := by
  constructor
  · intro hsame hreads
    have hcall : m.tupleOf call = .ok tuple := htuple.elim id hsame.symm.trans
    have hid : (m.subjectOf call).2 = (m.subjectOf other).2 :=
      (congrArg RelationTuple.subjectId (eq_of_tupleOf hcall)).symm.trans
        (congrArg RelationTuple.subjectId (eq_of_tupleOf (hsame.trans hcall)))
    rw [h.subjectId_of_readsIdentity hreads, h.subjectId_of_readsIdentity hreads] at hid
    exact Identity.Rules.sameHost_of_value_resolve_eq h.identity hid
  · exact h.tupleOf_eq_of_sameSubject hcalls

end RelationMiddleware

namespace Server

def decodedCall (request : Http.Request) : Call :=
  Call.ofDecoded request.uri.path request.headers (stampMethod request).extensions

theorem sameButHost_decodedCall {request : Http.Request}
    (hnames : ∀ field ∈ request.headers, Call.isBinaryName field.1 = false) :
    (Call.ofFramed request).SameButHost (decodedCall request) where
  kind := rfl
  method := rfl
  path := rfl
  header := fun name => (Call.text?_metadata hnames name).symm
  context := rfl
  route := rfl
  message := rfl

theorem host_ofFramed_of_no_authority {request : Http.Request} (h : request.uri.authority = none) :
    (Call.ofFramed request).host = (decodedCall request).host := by
  have hhost : request.uri.host? = none := by rw [Http.Uri.host?, h, Option.map_none]
  simp only [Call.ofFramed, Call.ofRequest, Call.hostOf, hhost]
  rfl

/-- A request is authorized in the same way before it is decoded and as a decoded stream. -/
def GrpcPathsAgree {Q : Type} (authorize : Authorize Q) (request : Http.Request) : Prop :=
  ∀ service, SameAuthorization (guardFramed authorize service request).run
    (stream authorize request.headers (stampMethod request).extensions)

theorem grpcPathsAgree_iff {Q : Type} (authorize : Authorize Q) (request : Http.Request) :
    GrpcPathsAgree authorize request ↔
      SameAuthorization (authorize (Call.ofFramed request)) (authorize (decodedCall request)) := by
  have hframed : ∀ service, (guardFramed authorize service request).run =
      authorize (Call.ofFramed request) := fun service => run_enforce _ _ service request
  have hdecoded : stream authorize request.headers (stampMethod request).extensions =
      authorize (decodedCall request) := rfl
  constructor
  · intro h
    have hsame := h fun _ => .bare 200
    rwa [hframed, hdecoded] at hsame
  · intro hsame service
    rwa [hframed, hdecoded]

/-- A request without binary metadata is authorized in the same way before and after it is decoded
exactly where the host makes no difference. A middleware of built-in steps agrees if the method is
on its allow-list or its identity finds the same in both hosts, and in no other case. A relation
middleware agrees if a filter accepts the call or the tuple is the same, and a complete tuple is the
same exactly if its subject is not read from the host or is the same in both. Without an authority
in the URI there is only one host, and so the two ways always agree. -/
theorem grpc_paths_agree_iff {request : Http.Request}
    (hnames : ∀ field ∈ request.headers, Call.isBinaryName field.1 = false) :
    let framed := Call.ofFramed request
    let decoded := decodedCall request
    (request.uri.authority = none → ∀ rules : Identity.Rules, rules.SameHost framed decoded) ∧
    (∀ (policy : Policy) (steps : List Middleware.Step) (middleware : Middleware)
        (authorizer : Authorizer), Middleware.build policy steps = .ok middleware →
      (∀ s ∈ steps, s.IsBuiltIn) →
        (GrpcPathsAgree (middleware.authorize authorizer) request ↔
          middleware.allows framed = true ∨ middleware.identity.SameHost framed decoded)) ∧
    ∀ steps : List RelationMiddleware.Step, (∀ s ∈ steps, s.IsBuiltIn) →
      let m := RelationMiddleware.ofSteps steps
      let SameTuple := m.tupleOf decoded = m.tupleOf framed
      (∀ {Q : Type} (checker : Checker Q), m.isFiltered framed = true ∨ SameTuple →
        GrpcPathsAgree (m.authorize checker) request) ∧
      (∀ backend : Directory, GrpcPathsAgree (m.authorize (.directory backend)) request ↔
        m.isFiltered framed = true ∨ SameTuple) ∧
      (∀ (authorizer : Authorizer) (policy : Policy),
        GrpcPathsAgree (m.authorize (.policy authorizer policy)) request ↔
          m.isFiltered framed = true ∨ SameTuple) ∧
      (m.SameSubject framed decoded → SameTuple) ∧
      ∀ tuple, m.tupleOf framed = .ok tuple ∨ m.tupleOf decoded = .ok tuple →
        (SameTuple ↔ m.SameSubject framed decoded) := by
  intro framed decoded
  have hcalls : framed.SameButHost decoded := sameButHost_decodedCall hnames
  refine ⟨?_, ?_, ?_⟩
  · intro hauthority rules
    exact Identity.Rules.sameHost_of_host_eq (host_ofFramed_of_no_authority hauthority)
  · intro policy steps middleware authorizer built hsteps
    rw [grpcPathsAgree_iff]
    exact Middleware.sameAuthorization_iff_sameHost (Middleware.isBuiltIn_of_build built hsteps)
      hcalls rfl authorizer
  · intro steps hsteps m SameTuple
    have hbuiltIn := RelationMiddleware.isBuiltIn_ofSteps hsteps
    have hfilters : m.isFiltered decoded = m.isFiltered framed :=
      (hbuiltIn.isFiltered_congr hcalls.kind hcalls.method hcalls.context).symm
    refine ⟨?_, ?_, ?_, ?_, ?_⟩
    · intro Q checker hsame
      rw [grpcPathsAgree_iff]
      exact .of_eq (RelationMiddleware.authorize_congr hfilters hsame checker)
    · intro backend
      rw [grpcPathsAgree_iff]
      exact RelationMiddleware.sameAuthorization_iff (Checker.isTelling_directory backend) hfilters
    · intro authorizer policy
      rw [grpcPathsAgree_iff]
      exact RelationMiddleware.sameAuthorization_iff (Checker.isTelling_policy authorizer policy)
        hfilters
    · exact hbuiltIn.tupleOf_eq_of_sameSubject hcalls
    · intro tuple htuple
      exact hbuiltIn.tupleOf_eq_iff_sameSubject hcalls htuple

/-- The two ways agree on a request whose URI and `host` field name the same host, but for the
port, also if the identity is read from the host. -/
theorem grpc_paths_agree_on_same_host :
    let request : Http.Request := ⟨"POST",
      ⟨some "https", some "acme.example.com", "/shop.Products/Watch", none⟩,
      [("host", "acme.example.com:8080")], ⟨none, none⟩, []⟩
    let rules := Identity.Rules.ofSteps [.kind .manual, .source (.hostname 0)]
    let checks : List RelationMiddleware.Step :=
      [.objectType "product", .objectId "1", .identity rules, .relation "watch"]
    ∃ middleware, (∀ field ∈ request.headers, Call.isBinaryName field.1 = false) ∧
      Middleware.build (Policy.new "shop" "allowed") [.identity rules] = .ok middleware ∧
      rules.resolve (Call.ofFramed request) = ⟨"acme", .manual⟩ ∧
      (∀ authorizer : Authorizer, GrpcPathsAgree (middleware.authorize authorizer) request) ∧
      (RelationMiddleware.ofSteps checks).tupleOf (Call.ofFramed request) =
        .ok ⟨"product", "1", "watch", "user", "acme", false⟩ ∧
      ∀ backend : Directory, GrpcPathsAgree
        ((RelationMiddleware.ofSteps checks).authorize (.directory backend)) request := by
  intro request rules checks
  have hnames : ∀ field ∈ request.headers, Call.isBinaryName field.1 = false := by decide +kernel
  let draft := Middleware.Draft.ofSteps (Policy.new "shop" "allowed") [.identity rules]
  have built : Middleware.build (Policy.new "shop" "allowed") [.identity rules] =
      .ok draft.middleware :=
    (draft.finish_eq_ok_iff _).mpr ⟨rfl, by decide, by decide, rfl⟩
  have hsteps : ∀ s ∈ [Middleware.Step.identity rules], s.IsBuiltIn :=
    List.forall_mem_singleton.mpr rfl
  have hmapper : rules.mapper = none := rfl
  have hchecks : ∀ s ∈ checks, s.IsBuiltIn := by
    simp [checks, RelationMiddleware.Step.IsBuiltIn, hmapper]
  have hhost : rules.SameHost (Call.ofFramed request) (decodedCall request) := by
    rintro index ⟨⟩ -
    decide +kernel
  have htuple : (RelationMiddleware.ofSteps checks).tupleOf (Call.ofFramed request) =
      .ok ⟨"product", "1", "watch", "user", "acme", false⟩ := by
    decide +kernel
  obtain ⟨-, hpolicy, hrelation⟩ := grpc_paths_agree_iff hnames
  obtain ⟨-, hdirectory, -, -, hsame⟩ := hrelation checks hchecks
  refine ⟨draft.middleware, hnames, built, by decide +kernel, ?_, htuple, ?_⟩
  · intro authorizer
    exact (hpolicy _ _ _ authorizer built hsteps).mpr (.inr hhost)
  · intro backend
    exact (hdirectory backend).mpr (.inr ((hsame _ (.inl htuple)).mpr fun _ => hhost))

/-- A caller that is named by the host in the URI is known before the request is decoded, and not
afterwards. So the policy decides differently, and a relation middleware finds no subject. -/
theorem grpc_paths_differ_on_authority :
    let request : Http.Request := ⟨"POST",
      ⟨some "http", some "acme.example.com", "/shop.Products/Watch", none⟩,
      [("te", "trailers")], ⟨none, none⟩, []⟩
    let rules := Identity.Rules.ofSteps [.kind .manual, .source (.hostname 0)]
    let service : Service := fun _ => .bare 200
    let authorizer : Authorizer :=
      fun query => .ok (Answer.single "allowed" (query.identity.value == "acme"))
    let directory : Directory := fun tuple => .ok ⟨tuple.subjectId == "acme", []⟩
    let checks : List RelationMiddleware.Step :=
      [.objectType "product", .objectId "1", .identity rules, .relation "watch"]
    let check := (RelationMiddleware.ofSteps checks).authorize (.directory directory)
    Http.Uri.parse? "http://acme.example.com/shop.Products/Watch" = some request.uri ∧
    (∀ field ∈ request.headers, Call.isBinaryName field.1 = false) ∧
    (∀ s ∈ [Middleware.Step.identity rules], s.IsBuiltIn) ∧
    (∀ s ∈ checks, s.IsBuiltIn) ∧
    (∃ middleware, Middleware.build (Policy.new "shop" "allowed") [.identity rules] =
        .ok middleware ∧
      let framed := (guardFramed (middleware.authorize authorizer) service request).run
      let decoded := stream (middleware.authorize authorizer) request.headers
        (stampMethod request).extensions
      framed.queries.map Query.identity = [⟨"acme", .manual⟩] ∧ framed.result = .ok () ∧
      decoded.queries.map Query.identity = [Identity.unknown] ∧
      decoded.result = .error .denied ∧
      ¬ GrpcPathsAgree (middleware.authorize authorizer) request) ∧
    (guardFramed check service request).run.queries =
      [⟨"product", "1", "watch", "user", "acme", false⟩] ∧
    (guardFramed check service request).run.result = .ok () ∧
    (stream check request.headers (stampMethod request).extensions).queries = [] ∧
    (stream check request.headers (stampMethod request).extensions).result =
      .error (.config "subject ID is empty") ∧
    ¬ GrpcPathsAgree check request := by
  intro request rules service authorizer directory checks check
  have hdiffer : ∀ {Q : Type} {authorize : Authorize Q},
      (guardFramed authorize service request).run.result = .ok () →
      (stream authorize request.headers (stampMethod request).extensions).result ≠ .ok () →
        ¬ GrpcPathsAgree authorize request :=
    fun hframed hdecoded hagree => hdecoded ((hagree service).result.symm.trans hframed)
  refine ⟨by decide +kernel, by decide +kernel, List.forall_mem_singleton.mpr rfl, ?_, ?_, ?_⟩
  · have hmapper : rules.mapper = none := rfl
    simp [checks, RelationMiddleware.Step.IsBuiltIn, hmapper]
  · let draft := Middleware.Draft.ofSteps (Policy.new "shop" "allowed") [.identity rules]
    refine ⟨draft.middleware, (draft.finish_eq_ok_iff _).mpr ⟨rfl, by decide, by decide, rfl⟩, ?_⟩
    refine ⟨by decide +kernel, by decide +kernel, by decide +kernel, by decide +kernel, ?_⟩
    exact hdiffer (by decide +kernel) (by decide +kernel)
  · refine ⟨by decide +kernel, by decide +kernel, by decide +kernel, by decide +kernel, ?_⟩
    exact hdiffer (by decide +kernel) (by decide +kernel)

end Server

end AccessControl
