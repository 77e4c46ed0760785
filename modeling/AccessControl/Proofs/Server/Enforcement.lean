import AccessControl.Server.Handler

/-!
# What a guard enforces

`Enforces` says what a guard owes to the service behind it: the service is reached exactly by the
requests whose authorization succeeded, each once and as it came, and its answer is passed back.
Every guard goes through `enforce`, so the condition is proved once there, and the guards differ
in what their rejections look like. Handlers have no service behind them and are let on or not.
-/

namespace AccessControl.Server

variable {Q : Type}

/-- A guard that asked for one authorization, passed the request on if that succeeded, and
rejected it otherwise. `answer` is what the caller gets from the service. -/
structure Enforces (outcome : Outcome Q) (run : Run Q Unit) (request : Http.Request)
    (answer : Http.Response) (Rejects : AuthorizationError → Http.Response → Prop) : Prop where
  asked : outcome.run = run
  reached_iff : outcome.served ≠ [] ↔ run.result = .ok ()
  passed : run.result = .ok () → outcome.served = [request] ∧ outcome.response = answer
  rejected : ∀ error, run.result = .error error →
    outcome.served = [] ∧ Rejects error outcome.response

/-- A rejection over HTTP: 403 for a refusal and 500 for every other error. -/
structure RejectsOverHttp (body : AuthorizationError → List UInt8) (error : AuthorizationError)
    (response : Http.Response) : Prop where
  forbidden_iff : response.status = 403 ↔ error = .denied
  failed_iff : response.status = 500 ↔ error ≠ .denied
  body : response.body = body error

/-- A rejection over gRPC: an answer without a body whose headers carry the status 7 for a refusal
and 13 for every other error. -/
structure RejectsOverGrpc (error : AuthorizationError) (response : Http.Response) : Prop where
  denied_iff : Http.Fields.first? response.headers "grpc-status" = some "7" ↔ error = .denied
  internal_iff : Http.Fields.first? response.headers "grpc-status" = some "13" ↔ error ≠ .denied
  status : response.status = 200
  body : response.body = []

def messageBody (error : AuthorizationError) : List UInt8 := Text.utf8 error.message

theorem rejectsOverHttp_rejection (error : AuthorizationError) :
    RejectsOverHttp messageBody error (.rejection error) := by
  refine ⟨error.httpStatus_eq_403_iff, ?_, rfl⟩
  cases error <;> simp [AuthorizationError.httpStatus]

/-- A rejection is no success, so a router cuts its body for `HEAD` only. -/
theorem trimBody_rejection (method : String) (error : AuthorizationError) :
    trimBody method (.rejection error) =
      if method = "HEAD" then { Http.Response.rejection error with body := [] }
      else .rejection error := by
  have hstatus : ¬ error.httpStatus < 300 := by
    cases error <;> simp [AuthorizationError.httpStatus]
  simp [trimBody, hstatus]

theorem rejectsOverHttp_trimBody (method : String) (error : AuthorizationError) :
    RejectsOverHttp (fun error => if method = "HEAD" then [] else messageBody error) error
      (trimBody method (.rejection error)) := by
  obtain ⟨hforbidden, hfailed, hbody⟩ := rejectsOverHttp_rejection error
  rw [trimBody_rejection]
  by_cases hhead : method = "HEAD"
  · rw [if_pos hhead]
    exact ⟨hforbidden, hfailed, (if_pos hhead).symm⟩
  · rw [if_neg hhead]
    exact ⟨hforbidden, hfailed, hbody.trans (if_neg hhead).symm⟩

theorem toString_grpcCode (error : AuthorizationError) :
    toString error.grpcCode = if error = .denied then "7" else "13" := by
  have hdenied : toString 7 = "7" := by decide
  have hinternal : toString 13 = "13" := by decide
  cases error with
  | denied => exact hdenied
  | _ => exact hinternal.trans (if_neg (by simp)).symm

theorem rejectsOverGrpc_toResponse (error : AuthorizationError) :
    RejectsOverGrpc error (Grpc.Status.ofError error).toResponse := by
  have hstatus : Http.Fields.first? (Grpc.Status.ofError error).toResponse.headers "grpc-status" =
      some (if error = .denied then "7" else "13") :=
    congrArg some (toString_grpcCode error)
  refine ⟨?_, ?_, rfl, rfl⟩
  · rw [hstatus]
    by_cases hdenied : error = .denied <;> simp [hdenied]
  · rw [hstatus]
    by_cases hdenied : error = .denied <;> simp [hdenied]

/-- The one place where requests are passed on, with the rejections that it is given. -/
theorem enforces_enforce {Rejects : AuthorizationError → Http.Response → Prop}
    {reject : AuthorizationError → Http.Response} (hreject : ∀ error, Rejects error (reject error))
    (run : Run Q Unit) (service : Service) (request : Http.Request) :
    Enforces (enforce run reject service request) run request (service request) Rejects := by
  cases hresult : run.result with
  | ok value =>
      rw [enforce_of_ok hresult]
      exact ⟨rfl, by simp [hresult], fun _ => ⟨rfl, rfl⟩, by simp [hresult]⟩
  | error error =>
      rw [enforce_of_error hresult]
      refine ⟨rfl, by simp [hresult], by simp [hresult], ?_⟩
      intro other hother
      rw [hresult] at hother
      cases hother
      exact ⟨rfl, hreject error⟩

/-- What stands behind the guard of a router is reached like any other service. -/
theorem enforces_guardRouted (authorize : Authorize Q) (table : Route.Table) (next : Service)
    (request : Http.Request) :
    Enforces (guardRouted authorize table next request) (authorize (routedCall table request))
      request (next request) fun error response => response = .rejection error := by
  refine enforces_enforce ?_ _ next request
  intro error
  rfl

/-- Trimming an answer on its way out does not change who is passed on. -/
theorem Enforces.trimmed {outcome : Outcome Q} {run : Run Q Unit} {request : Http.Request}
    {answer : Http.Response}
    (h : Enforces outcome run request answer fun error response => response = .rejection error)
    (method : String) :
    Enforces (outcome.trimmed method) run request (trimBody method answer)
      (RejectsOverHttp fun error => if method = "HEAD" then [] else messageBody error) := by
  refine ⟨h.asked, h.reached_iff, ?_, ?_⟩
  · intro hok
    obtain ⟨hserved, hresponse⟩ := h.passed hok
    exact ⟨hserved, congrArg (trimBody method) hresponse⟩
  · intro error herror
    obtain ⟨hserved, hresponse⟩ := h.rejected error herror
    refine ⟨hserved, ?_⟩
    rw [Outcome.trimmed, hresponse]
    exact rejectsOverHttp_trimBody method error

theorem statusOf_eq_ok_iff (run : Run Q Unit) : statusOf run = .ok () ↔ run.result = .ok () := by
  unfold statusOf
  cases run.result with
  | error error => exact ⟨nofun, nofun⟩
  | ok value => exact ⟨fun _ => rfl, fun _ => rfl⟩

/-- A unary handler is let on exactly by an authorization of the decoded call with its message. -/
theorem result_unary_eq_ok_iff (authorize : Authorize Q) (metadata : Http.Fields)
    (extensions : Http.Extensions) (message : Except String Json) :
    (unary authorize metadata extensions message).result = .ok () ↔
      ∃ method json, extensions.methodPath = some method ∧ message = .ok json ∧
        (authorize ((Call.ofDecoded method metadata extensions).withMessage json)).result =
          .ok () := by
  unfold unary authorizeDecoded
  cases extensions.methodPath with
  | none => simp
  | some method =>
      cases message with
      | error detail => simp
      | ok json => simp

theorem result_stream_eq_ok_iff (authorize : Authorize Q) (metadata : Http.Fields)
    (extensions : Http.Extensions) :
    (stream authorize metadata extensions).result = .ok () ↔
      ∃ method, extensions.methodPath = some method ∧
        (authorize (Call.ofDecoded method metadata extensions)).result = .ok () := by
  unfold stream authorizeDecoded
  cases extensions.methodPath with
  | none => simp
  | some method => simp

/-- Without a method the run is the same whatever would have been decided. -/
theorem authorizeDecoded_of_no_method {extensions : Http.Extensions}
    (hmethod : extensions.methodPath = none) (authorize : Authorize Q) (metadata : Http.Fields)
    (message : Option (Except String Json)) :
    authorizeDecoded authorize metadata extensions message =
      (Run.fail unknownMethod).after [⟨.error, "gRPC method unknown", []⟩] := by
  unfold authorizeDecoded
  rw [hmethod]

/-- What lies behind an adapter runs exactly if the authorization of the derived call succeeds.
The guards reach their service then, once and with the request as it came, and reject the request
otherwise; behind the guard of a router that may be any service, and is in particular the router
itself. The handlers are let on then, and no authorization is asked for without a method. -/
theorem handlers_run_iff_authorized (authorize : Authorize Q) (routes : Option Route.Table)
    (table : Route.Table) (service : Service) (request : Http.Request) (metadata : Http.Fields)
    (extensions : Http.Extensions) (message : Except String Json) :
    Enforces (guardPlain authorize routes service request)
      (authorize (plainCall routes request)) request (service request)
      (RejectsOverHttp messageBody) ∧
    Enforces (guardRouted authorize table service request)
      (authorize (routedCall table request)) request (service request)
      (RejectsOverHttp messageBody) ∧
    Enforces ((guardRouted authorize table service request).trimmed request.method)
      (authorize (routedCall table request)) request (trimBody request.method (service request))
      (RejectsOverHttp fun error =>
        if request.method = "HEAD" then [] else messageBody error) ∧
    Enforces (guardRouter authorize table service request)
      (authorize (routedCall table request)) request
      (trimBody request.method (dispatch table service request))
      (RejectsOverHttp fun error =>
        if request.method = "HEAD" then [] else messageBody error) ∧
    Enforces (guardFramed authorize service request)
      (authorize (Call.ofFramed request)) request (service request) RejectsOverGrpc ∧
    (statusOf (unary authorize metadata extensions message) = .ok () ↔
      ∃ method json, extensions.methodPath = some method ∧ message = .ok json ∧
        (authorize ((Call.ofDecoded method metadata extensions).withMessage json)).result =
          .ok ()) ∧
    (statusOf (stream authorize metadata extensions) = .ok () ↔
      ∃ method, extensions.methodPath = some method ∧
        (authorize (Call.ofDecoded method metadata extensions)).result = .ok ()) ∧
    (extensions.methodPath = none →
      (unary authorize metadata extensions message).queries = [] ∧
      (stream authorize metadata extensions).queries = [] ∧
      ∀ other : Authorize Q,
        unary other metadata extensions message = unary authorize metadata extensions message ∧
        stream other metadata extensions = stream authorize metadata extensions) := by
  refine ⟨?_, ?_, ?_, ?_, ?_, ?_, ?_, ?_⟩
  · exact enforces_enforce rejectsOverHttp_rejection _ service request
  · exact enforces_enforce rejectsOverHttp_rejection _ service request
  · exact (enforces_guardRouted authorize table service request).trimmed _
  · exact (enforces_guardRouted authorize table (dispatch table service) request).trimmed _
  · exact enforces_enforce rejectsOverGrpc_toResponse _ service request
  · rw [statusOf_eq_ok_iff, result_unary_eq_ok_iff]
  · rw [statusOf_eq_ok_iff, result_stream_eq_ok_iff]
  · intro hmethod
    have hfixed := fun (other : Authorize Q) (message : Option (Except String Json)) =>
      authorizeDecoded_of_no_method hmethod other metadata message
    refine ⟨?_, ?_, ?_⟩
    · rw [unary, hfixed]
      rfl
    · rw [stream, hfixed]
      rfl
    · intro other
      exact ⟨(hfixed other _).trans (hfixed authorize _).symm,
        (hfixed other _).trans (hfixed authorize _).symm⟩

end AccessControl.Server
