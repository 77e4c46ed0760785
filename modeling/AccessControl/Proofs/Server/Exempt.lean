import AccessControl.Proofs.Middleware.AllowList
import AccessControl.Proofs.Server.Enforcement

/-!
# Exempted methods before the adapters

A method on the allow-list is exempt whatever else the middleware is made of, so its calls are meant
to pass before anything is resolved. The guard of framed requests and the handler of a stream ask
the middleware first and let them pass. The handler of a unary call writes the message as JSON
before it asks, and a message for which this fails is refused though nobody would have looked at
it: such a call passes exactly if its message can be written.
-/

namespace AccessControl

namespace Middleware

/-- A method that some steps exempt: listed as allowed, or ignored as it is or in its dotted form. -/
def Exempts (steps : List Step) (method : String) : Prop :=
  method ∈ allowedOf steps ∨ (method ∈ ignoredOf steps ∧ method.startsWith "/" = true) ∨
    ∃ entry ∈ ignoredOf steps, entry.startsWith "/" = false ∧ MatchesDotted entry method

instance (steps : List Step) (method : String) : Decidable (Exempts steps method) :=
  inferInstanceAs (Decidable (_ ∨ _ ∨ ∃ entry ∈ ignoredOf steps, _))

theorem allows_of_exempts {policy : Policy} {steps : List Step} {middleware : Middleware}
    (built : build policy steps = .ok middleware) {call : Call} (hkind : call.kind = .grpc)
    (hexempts : Exempts steps call.method) : middleware.allows call = true := by
  rw [allows, hkind, Bool.and_eq_true, Bool.or_eq_true, List.contains_iff_mem,
    List.contains_iff_mem]
  refine ⟨rfl, ?_⟩
  rcases hexempts with hallowed | hignored | ⟨entry, hentry, hexact, hmatches⟩
  · exact .inl ((mem_allowedMethods_of_build_iff built _).mpr (.inl hallowed))
  · exact .inl ((mem_allowedMethods_of_build_iff built _).mpr (.inr hignored))
  · exact .inr ((mem_ignoredPaths_of_build_iff built _).mpr ⟨entry, hentry, hexact, hmatches⟩)

end Middleware

namespace Server

open Middleware (Exempts)

variable {policy : Policy} {steps : List Middleware.Step} {middleware : Middleware}

theorem authorize_of_exempts (built : Middleware.build policy steps = .ok middleware) {call : Call}
    (hkind : call.kind = .grpc) (hexempts : Exempts steps call.method) (authorizer : Authorizer) :
    middleware.authorize authorizer call = ⟨.ok (), [], [Middleware.passing]⟩ :=
  Middleware.authorize_of_allows (Middleware.allows_of_exempts built hkind hexempts) authorizer

/-- The calls of an exempted method pass without a query, framed or as a stream. A unary call sends
no query either, and passes exactly if its message can be written as JSON. -/
theorem exempted_methods_pass_iff (built : Middleware.build policy steps = .ok middleware)
    {method : String} (hexempts : Exempts steps method) (authorizer : Authorizer)
    (service : Service) {request : Http.Request} (hpath : request.uri.path = method)
    (metadata : Http.Fields) {extensions : Http.Extensions}
    (hstamped : extensions.methodPath = some method) (message : Except String Json) :
    let authorize := middleware.authorize authorizer
    let framed := guardFramed authorize service request
    (framed.served = [request] ∧ framed.response = service request ∧ framed.run.queries = []) ∧
    (statusOf (stream authorize metadata extensions) = .ok () ∧
      (stream authorize metadata extensions).queries = []) ∧
    (statusOf (unary authorize metadata extensions message) = .ok () ↔
      ∃ json, message = .ok json) ∧
    (∀ detail, message = .error detail →
      statusOf (unary authorize metadata extensions message) =
        .error (.ofError (.resource (.unserializable detail)))) ∧
    (unary authorize metadata extensions message).queries = [] := by
  intro authorize framed
  have hpasses : ∀ call : Call, call.kind = .grpc → call.method = method →
      authorize call = ⟨.ok (), [], [Middleware.passing]⟩ := by
    rintro call hkind rfl
    exact authorize_of_exempts built hkind hexempts authorizer
  have hstream : stream authorize metadata extensions = ⟨.ok (), [], [Middleware.passing]⟩ := by
    unfold stream authorizeDecoded
    rw [hstamped]
    exact hpasses (.ofDecoded method metadata extensions) rfl rfl
  have hok : ∀ json, unary authorize metadata extensions (.ok json) =
      ⟨.ok (), [], [Middleware.passing]⟩ := by
    intro json
    unfold unary authorizeDecoded
    rw [hstamped]
    exact hpasses ((Call.ofDecoded method metadata extensions).withMessage json) rfl rfl
  have herror : ∀ detail, unary authorize metadata extensions (.error detail) =
      .fail (.resource (.unserializable detail)) := by
    intro detail
    unfold unary authorizeDecoded
    rw [hstamped]
  refine ⟨?_, ?_, ?_⟩
  · have hframed := hpasses (Call.ofFramed request) rfl hpath
    simp only [framed, guardFramed, hframed, enforce, and_self]
  · rw [hstream]
    exact ⟨rfl, rfl⟩
  · cases message with
    | ok json =>
        rw [hok json]
        refine ⟨⟨fun _ => ⟨json, rfl⟩, fun _ => rfl⟩, ?_, rfl⟩
        rintro detail ⟨⟩
    | error detail =>
        rw [herror detail]
        refine ⟨⟨?_, ?_⟩, ?_, rfl⟩
        · rintro ⟨⟩
        · rintro ⟨json, ⟨⟩⟩
        · rintro other ⟨⟩
          rfl

/-- A middleware that looks at the message and lets everybody ask whether the server is up. -/
def healthSteps : List Middleware.Step :=
  [.resourceFields ["service.name"], .allowedMethods ["/grpc.health.v1.Health/Check"]]

theorem build_healthSteps :
    Middleware.build (Policy.new "shop" "allowed") healthSteps =
      .ok (Middleware.Draft.ofSteps (Policy.new "shop" "allowed") healthSteps).middleware :=
  ((Middleware.Draft.ofSteps (Policy.new "shop" "allowed") healthSteps).finish_eq_ok_iff _).mpr
    ⟨by decide +kernel, by decide, by decide, rfl⟩

def healthCheck : Http.Request :=
  ⟨"POST", ⟨none, none, "/grpc.health.v1.Health/Check", none⟩, [], ⟨none, none⟩, []⟩

/-- A message without the field that the resource is made from does not keep an exempted call from
passing. -/
theorem exempted_methods_pass_iff_for_health_check :
    ∃ middleware, Middleware.build (Policy.new "shop" "allowed") healthSteps = .ok middleware ∧
      ∀ authorizer : Authorizer,
        statusOf (unary (middleware.authorize authorizer) [] (stampMethod healthCheck).extensions
          (.ok (.object []))) = .ok () := by
  refine ⟨_, build_healthSteps, fun authorizer => ?_⟩
  have hexempts : Middleware.Exempts healthSteps "/grpc.health.v1.Health/Check" := by
    decide +kernel
  have hpath : healthCheck.uri.path = "/grpc.health.v1.Health/Check" := rfl
  have hstamped : (stampMethod healthCheck).extensions.methodPath =
      some "/grpc.health.v1.Health/Check" := rfl
  obtain ⟨-, -, hunary, -⟩ := exempted_methods_pass_iff build_healthSteps hexempts authorizer
    (fun _ => .bare 200) hpath [] hstamped (.ok (.object []))
  exact hunary.mpr ⟨.object [], rfl⟩

/-- The guard and the handler of a stream let an exempted call pass, the handler of a unary call
refuses it as a failure of the server if its message cannot be written. -/
theorem exempted_unary_refused_for_message :
    ∃ middleware, Middleware.build (Policy.new "shop" "allowed") healthSteps = .ok middleware ∧
      healthCheck.uri.path ∈ Middleware.allowedOf healthSteps ∧
      let authorize := middleware.authorize fun _ => .ok (Answer.single "allowed" false)
      let extensions := (stampMethod healthCheck).extensions
      (guardFramed authorize (fun _ => .bare 200) healthCheck).served = [healthCheck] ∧
      statusOf (stream authorize [] extensions) = .ok () ∧
      statusOf (unary authorize [] extensions (.error "key must be a string")) =
        .error ⟨13, "resource context: message serialization failed: key must be a string"⟩ := by
  refine ⟨_, build_healthSteps, by decide +kernel, ?_, by decide +kernel, by decide +kernel⟩
  rw [guardFramed, enforce_of_ok (by decide +kernel)]

end Server

end AccessControl
