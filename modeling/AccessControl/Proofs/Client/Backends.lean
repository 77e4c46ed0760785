import AccessControl.Client.Gateway
import AccessControl.Client.Rpc
import AccessControl.Proofs.Middleware.Authorize
import AccessControl.Proofs.Protobuf.Answer

/-!
# What a backend must reply for a call to pass

A reply goes through three hands: the client turns it into an answer or a failure, the answer is
reduced to the outcome of its only decision, and the middleware permits or refuses. Only one kind
of reply comes out as permission. From the gateway it is status 200 with an object that holds a
list of one decision, in which the outcome stands and is true; from a gRPC call it is a message
with one positive decision, and a server that writes an answer permits just with such a one.

Any other reply ends in a refusal, in a miscount of the decisions or in a failure of the backend,
and a failure holds the status and the text that the backend gave for it.
-/

namespace AccessControl

/-! ## Answers in JSON -/

namespace Json.Document

theorem required_text?_eq_some_iff (field : Option Document) (text : String) :
    required text? field = some text ↔ field = some (.string (some text)) := by
  match field with
  | none => simp [required]
  | some (.string text) => simp [required, text?]
  | some .null | some (.bool _) | some (.number _) | some (.array _) | some (.object _) =>
      simp [required, text?]

/-- A missing flag is false, so a flag that is read as true was there. -/
theorem withDefault_bool?_eq_true_iff (field : Option Document) :
    withDefault bool? false field = some true ↔ field = some (.bool true) := by
  match field with
  | none => simp [withDefault]
  | some (.bool b) => simp [withDefault, bool?]
  | some .null | some (.string _) | some (.number _) | some (.array _) | some (.object _) =>
      simp [withDefault, bool?]

theorem mapM_eq_singleton_iff {α β : Type} (read : α → Option β) (items : List α) (value : β) :
    items.mapM read = some [value] ↔ ∃ item, items = [item] ∧ read item = some value := by
  match items with
  | [] => simp
  | [item] => simp [List.mapM_cons, Option.bind_eq_some_iff]
  | first :: second :: rest => simp [List.mapM_cons, Option.bind_eq_some_iff]

/-- A missing list is empty, so a list with one element was there. -/
theorem withDefault_list?_eq_singleton_iff {α : Type} (read : Document → Option α)
    (field : Option Document) (value : α) :
    withDefault (list? read) [] field = some [value] ↔
      ∃ item, field = some (.array [item]) ∧ read item = some value := by
  match field with
  | none => simp [withDefault]
  | some (.array items) => simp [withDefault, list?, mapM_eq_singleton_iff]
  | some .null | some (.bool _) | some (.number _) | some (.string _) | some (.object _) =>
      simp [withDefault, list?]

end Json.Document

theorem Decision.read?_eq_positive_iff (doc : Json.Document) (name : String) :
    Decision.read? doc = some ⟨name, true⟩ ↔
      doc.fields? ["decision", "is"] false =
        some [some (.string (some name)), some (.bool true)] := by
  unfold Decision.read?
  split
  · rename_i field holds hfields
    rw [hfields]
    simp only [Option.some.injEq, List.cons.injEq, and_true,
      ← Json.Document.required_text?_eq_some_iff, ← Json.Document.withDefault_bool?_eq_true_iff]
    split
    · rename_i hname hholds
      simp [hname, hholds]
    · rename_i hnone
      exact ⟨nofun, fun ⟨hname, hholds⟩ => (hnone _ _ hname hholds).elim⟩
  · rename_i hfields
    exact ⟨nofun, fun h => (hfields _ _ h).elim⟩

theorem Answer.read?_eq_singleton_iff (doc : Json.Document) (decision : Decision) :
    Answer.read? doc = some ⟨[decision]⟩ ↔
      ∃ item, doc.fields? ["decisions"] false = some [some (.array [item])] ∧
        Decision.read? item = some decision := by
  unfold Answer.read?
  split
  · rename_i field hfields
    rw [hfields]
    simp only [Option.map_eq_some_iff, Answer.mk.injEq, exists_eq_right,
      Json.Document.withDefault_list?_eq_singleton_iff, Option.some.injEq, List.cons.injEq,
      and_true]
  · rename_i hfields
    exact ⟨nofun, fun ⟨item, h, _⟩ => (hfields _ h).elim⟩

/-! ## The ways to end -/

/-- The result of a call that passes just in one case, and is otherwise refused or ends with a
miscount or with a failure of the backend. -/
structure PassesJustIf (allowed : Prop) (result : Except AuthorizationError Unit) : Prop where
  passes_iff : result = .ok () ↔ allowed
  closed : ¬ allowed → result = .error .denied ∨
    (∃ count, result = .error (.invalidDecision count)) ∨ ∃ fault, result = .error (.backend fault)

theorem Middleware.Settled.passesJustIf {answer : Except BackendError Answer}
    {result : Except AuthorizationError Unit} (h : Settled answer result) {allowed : Prop}
    (hallowed : allowed ↔ ∃ decision, answer = .ok ⟨[decision]⟩ ∧ decision.holds = true) :
    PassesJustIf allowed result where
  passes_iff := h.permitted.trans hallowed.symm
  closed := by
    intro hnot
    match answer with
    | .error fault => exact .inr (.inr ⟨fault, (h.failed fault).mpr rfl⟩)
    | .ok ⟨[⟨name, true⟩]⟩ => exact absurd (hallowed.mpr ⟨⟨name, true⟩, rfl, rfl⟩) hnot
    | .ok ⟨[⟨name, false⟩]⟩ => exact .inl (h.refused.mpr ⟨⟨name, false⟩, rfl, rfl⟩)
    | .ok ⟨[]⟩ => exact .inr (.inl ⟨0, (h.miscounted 0).mpr ⟨[], rfl, by decide, rfl⟩⟩)
    | .ok ⟨first :: second :: rest⟩ =>
        exact .inr (.inl ⟨_, (h.miscounted _).mpr ⟨_, rfl, by simp, rfl⟩⟩)

namespace Client

/-! ## The gateway -/

namespace Gateway

/-- Whether a reply is status 200 with an object that holds one decision with a true outcome. -/
def Permits (reply : Reply) : Prop :=
  ∃ body doc item name, reply = .ok (200, body) ∧ Json.Document.read? body = some doc ∧
    doc.fields? ["decisions"] false = some [some (.array [item])] ∧
    item.fields? ["decision", "is"] false = some [some (.string (some name)), some (.bool true)]

structure Outcome (reply : Reply) (result : Except AuthorizationError Unit) : Prop
    extends PassesJustIf (Permits reply) result where
  no_outcome : ∀ body doc item name, reply = .ok (200, body) →
    Json.Document.read? body = some doc →
    doc.fields? ["decisions"] false = some [some (.array [item])] →
    item.fields? ["decision", "is"] false = some [some (.string (some name)), none] →
      result = .error .denied
  no_decisions : ∀ body doc, reply = .ok (200, body) → Json.Document.read? body = some doc →
    doc.fields? ["decisions"] false = some [none] → result = .error (.invalidDecision 0)
  rejected : ∀ status body, reply = .ok (status, body) → status ≠ 200 →
    result = .error (.backend (.http status (Text.ofUtf8Lossy body)))
  rejected_text : ∀ status text, reply = .ok (status, Text.utf8 text) → status ≠ 200 →
    result = .error (.backend (.http status text))
  unreadable : ∀ body, reply = .ok (200, body) →
    (Json.Document.read? body).bind Answer.read? = none →
      ∃ detail, result = .error (.backend (.decode detail))
  lost : ∀ detail, reply = .error detail → result = .error (.backend (.transport detail))

theorem settle_of_answer {body : List UInt8} {answer : Answer}
    (h : (Json.Document.read? body).bind Answer.read? = some answer) :
    settle (.ok (200, body)) = .ok answer := by
  simp [settle, h]

theorem settle_of_no_answer {body : List UInt8}
    (h : (Json.Document.read? body).bind Answer.read? = none) :
    settle (.ok (200, body)) = .error (.decode "the body is no answer") := by
  simp [settle, h]

theorem settle_eq_ok_iff (reply : Reply) (answer : Answer) :
    settle reply = .ok answer ↔ ∃ body, reply = .ok (200, body) ∧
      (Json.Document.read? body).bind Answer.read? = some answer := by
  constructor
  · intro h
    match reply with
    | .error detail => cases h
    | .ok (status, body) =>
        by_cases hstatus : status = 200
        · subst hstatus
          refine ⟨body, rfl, ?_⟩
          cases hread : (Json.Document.read? body).bind Answer.read? with
          | none =>
              rw [settle_of_no_answer hread] at h
              cases h
          | some read =>
              rw [settle_of_answer hread] at h
              exact congrArg some (Except.ok.inj h)
        · rw [settle_of_status hstatus] at h
          cases h
  · rintro ⟨body, rfl, hread⟩
    exact settle_of_answer hread

theorem permits_iff (reply : Reply) :
    Permits reply ↔ ∃ decision, settle reply = .ok ⟨[decision]⟩ ∧ decision.holds = true := by
  simp only [settle_eq_ok_iff, Option.bind_eq_some_iff, Answer.read?_eq_singleton_iff]
  constructor
  · rintro ⟨body, doc, item, name, hreply, hdoc, hdecisions, hitem⟩
    exact ⟨⟨name, true⟩, ⟨body, hreply, doc, hdoc, item, hdecisions,
      (Decision.read?_eq_positive_iff item name).mpr hitem⟩, rfl⟩
  · rintro ⟨⟨name, holds⟩, ⟨body, hreply, doc, hdoc, item, hdecisions, hitem⟩, rfl⟩
    exact ⟨body, doc, item, name, hreply, hdoc, hdecisions,
      (Decision.read?_eq_positive_iff item name).mp hitem⟩

theorem outcome_of_settled {reply : Reply} {result : Except AuthorizationError Unit}
    (h : Middleware.Settled (settle reply) result) : Outcome reply result where
  toPassesJustIf := h.passesJustIf (permits_iff reply)
  no_outcome := by
    rintro body doc item name rfl hdoc hdecisions hitem
    have hread : Decision.read? item = some ⟨name, false⟩ := by
      simp [Decision.read?, hitem, Json.Document.required, Json.Document.text?,
        Json.Document.withDefault]
    refine h.refused.mpr ⟨⟨name, false⟩, settle_of_answer ?_, rfl⟩
    rw [hdoc, Option.bind_some, Answer.read?_eq_singleton_iff]
    exact ⟨item, hdecisions, hread⟩
  no_decisions := by
    rintro body doc rfl hdoc hdecisions
    refine (h.miscounted 0).mpr ⟨[], settle_of_answer ?_, by decide, rfl⟩
    rw [hdoc, Option.bind_some, Answer.read?, hdecisions]
    rfl
  rejected := by
    rintro status body rfl hstatus
    exact (h.failed _).mpr (settle_of_status hstatus body)
  rejected_text := by
    rintro status text rfl hstatus
    rw [(h.failed _).mpr (settle_of_status hstatus _), Text.ofUtf8Lossy_utf8]
  unreadable := by
    rintro body rfl hread
    exact ⟨_, (h.failed _).mpr (settle_of_no_answer hread)⟩
  lost := by
    rintro detail rfl
    exact (h.failed _).mpr rfl

end Gateway

/-! ## gRPC calls -/

namespace Rpc

/-- Whether a reply is a message with one decision whose outcome is true. -/
def Permits (reply : Reply) : Prop :=
  ∃ bytes name, reply = .message bytes ∧ Protobuf.readAnswer bytes = .ok (Answer.single name true)

structure Outcome (reply : Reply) (result : Except AuthorizationError Unit) : Prop
    extends PassesJustIf (Permits reply) result where
  written : ∀ answer, Protobuf.Fits answer → reply = .message (Protobuf.writeAnswer answer) →
    (result = .ok () ↔ ∃ name, answer = Answer.single name true)
  rejected : ∀ code message text, reply = .status code message →
    Grpc.Code.ofText code ≠ .ok → Bytes.percentDecode message = Text.utf8 text →
      result = .error (.backend (.status (Grpc.Code.ofText code).description text))
  any_status : ∀ code message, reply = .status code message →
    ∃ description text, result = .error (.backend (.status description text))
  unreadable : ∀ bytes error, reply = .message bytes → Protobuf.readAnswer bytes = .error error →
    result = .error (.backend (.status Grpc.Code.internal.description error.message))
  lost : ∀ code detail, reply = .lost code detail →
    result = .error (.backend (.status code.description detail))

theorem settle_eq_ok_iff {α : Type} (read : List UInt8 → Except Protobuf.ReadError α)
    (reply : Reply) (answer : α) :
    settle read reply = .ok answer ↔ ∃ bytes, reply = .message bytes ∧ read bytes = .ok answer := by
  cases reply with
  | message bytes => cases hread : read bytes <;> simp [settle, hread]
  | status code message => simp [settle]
  | lost code detail => simp [settle]

theorem permits_iff (reply : Reply) :
    Permits reply ↔
      ∃ decision, settle Protobuf.readAnswer reply = .ok ⟨[decision]⟩ ∧ decision.holds = true := by
  simp only [settle_eq_ok_iff]
  constructor
  · rintro ⟨bytes, name, hreply, hread⟩
    exact ⟨⟨name, true⟩, ⟨bytes, hreply, hread⟩, rfl⟩
  · rintro ⟨⟨name, holds⟩, ⟨bytes, hreply, hread⟩, rfl⟩
    exact ⟨bytes, name, hreply, hread⟩

theorem permits_writeAnswer_iff {answer : Answer} (h : Protobuf.Fits answer) :
    Permits (.message (Protobuf.writeAnswer answer)) ↔
      ∃ name, answer = Answer.single name true := by
  have hread := Protobuf.readAnswer_writeAnswer h
  constructor
  · rintro ⟨bytes, name, hbytes, hanswer⟩
    cases hbytes
    rw [hread] at hanswer
    exact ⟨name, Except.ok.inj hanswer⟩
  · rintro ⟨name, rfl⟩
    exact ⟨_, name, rfl, hread⟩

theorem statusFailure_of_utf8 {code : String} {message : List UInt8} {text : String}
    (hcode : Grpc.Code.ofText code ≠ .ok)
    (hmessage : Bytes.percentDecode message = Text.utf8 text) :
    statusFailure code message = failure (Grpc.Code.ofText code) text := by
  have hfault : Text.firstFault 0 (Text.utf8 text) = none :=
    Text.firstFault_flatMap_utf8EncodeChar text.toList 0
  simp only [statusFailure, hmessage, hfault, if_neg hcode, Text.ofUtf8Lossy_utf8]

theorem exists_statusFailure_eq (code : String) (message : List UInt8) :
    ∃ description text, statusFailure code message = .status description text := by
  unfold statusFailure
  dsimp only
  split
  · exact ⟨_, _, rfl⟩
  · split
    · exact ⟨_, _, rfl⟩
    · exact ⟨_, _, rfl⟩

theorem outcome_of_settled {reply : Reply} {result : Except AuthorizationError Unit}
    (h : Middleware.Settled (settle Protobuf.readAnswer reply) result) : Outcome reply result where
  toPassesJustIf := h.passesJustIf (permits_iff reply)
  written := by
    rintro answer hfits rfl
    exact (h.passesJustIf (permits_iff _)).passes_iff.trans (permits_writeAnswer_iff hfits)
  rejected := by
    rintro code message text rfl hcode hmessage
    exact (h.failed _).mpr (congrArg Except.error (statusFailure_of_utf8 hcode hmessage))
  any_status := by
    rintro code message rfl
    obtain ⟨description, text, hfailure⟩ := exists_statusFailure_eq code message
    exact ⟨description, text, (h.failed _).mpr (congrArg Except.error hfailure)⟩
  unreadable := by
    rintro bytes error rfl hread
    refine (h.failed _).mpr ?_
    rw [settle, hread]
    rfl
  lost := by
    rintro code detail rfl
    exact (h.failed _).mpr rfl

end Rpc

end Client

/-! ## Codes -/

namespace Grpc.Code

theorem ofText_toString (code : Grpc.Code) : ofText (toString code.val) = code := by
  revert code
  decide +kernel

theorem description_injective : Function.Injective description := by
  intro code other
  revert code other
  decide +kernel

end Grpc.Code

/-- Over either transport, a call that has a resource and is not on the allow-list passes just if
the backend permits it in reply to its query. The description in an error tells which code there
was. -/
theorem backends_fail_closed {middleware : Middleware} {call : Call} {resource : Resource}
    (hallows : middleware.allows call = false)
    (hresource : middleware.resourceOf call = .ok resource) :
    let query := Query.of (middleware.identityOf call) middleware.policy (middleware.pathOf call)
      resource
    (∀ (gateway : Client.Gateway) (exchange : Client.Gateway.Request → Client.Gateway.Reply),
      Client.Gateway.Outcome (exchange (gateway.request query))
        (middleware.authorize (gateway.authorizer exchange) call).result) ∧
    (∀ (connection : Client.Connection) (exchange : Client.Rpc.Request → Client.Rpc.Reply),
      Client.Rpc.Outcome (exchange (Client.Rpc.queryRequest connection query))
        (middleware.authorize (Client.Rpc.authorizer connection exchange) call).result) ∧
    (∀ code : Grpc.Code, Grpc.Code.ofText (toString code.val) = code) ∧
    Function.Injective Grpc.Code.description := by
  intro query
  refine ⟨?_, ?_, Grpc.Code.ofText_toString, Grpc.Code.description_injective⟩
  · intro gateway exchange
    rw [Middleware.authorize_of_resource hallows hresource]
    exact Client.Gateway.outcome_of_settled
      (Middleware.settled_permit_evaluate (gateway.authorizer exchange) _ _ _ _)
  · intro connection exchange
    rw [Middleware.authorize_of_resource hallows hresource]
    exact Client.Rpc.outcome_of_settled
      (Middleware.settled_permit_evaluate (Client.Rpc.authorizer connection exchange) _ _ _ _)

/-- A body that permits with status 200 does not with status 202, and a gRPC call that was refused
leaves its message. -/
theorem backends_fail_closed_for_accepted :
    let policy : Policy := ⟨"shop", "", "allowed", "app", none⟩
    let middleware := (Middleware.Draft.ofSteps policy []).middleware
    let call : Call := ⟨.http, "GET", "/products", none, .fields [], some [], none, none⟩
    let body := Text.utf8
      "\x7b\"decisions\":[\x7b\"decision\":\"allowed\",\"is\":true\x7d]\x7d"
    let posted (status : Nat) := (middleware.authorize
      ((default : Client.Gateway).authorizer fun _ => .ok (status, body)) call).result
    let called (reply : Client.Rpc.Reply) := (middleware.authorize
      (Client.Rpc.authorizer default fun _ => reply) call).result
    middleware.allows call = false ∧ middleware.resourceOf call = .ok [] ∧
    posted 200 = .ok () ∧
    posted 202 = .error (.backend (.http 202
      "\x7b\"decisions\":[\x7b\"decision\":\"allowed\",\"is\":true\x7d]\x7d")) ∧
    called (.message [10, 2, 16, 1]) = .ok () ∧
    called (.status "7" (Text.utf8 "no%20such%20policy")) = .error (.backend (.status
      "The caller does not have permission to execute the specified operation"
      "no such policy")) := by
  intro policy middleware call body posted called
  have hallows : middleware.allows call = false := rfl
  have hresource : middleware.resourceOf call = .ok [] := rfl
  have hread : (Json.Document.read? body).bind Answer.read? =
      some (Answer.single "allowed" true) := by decide +kernel
  have hmessage : Bytes.percentDecode (Text.utf8 "no%20such%20policy") =
      Text.utf8 "no such policy" := by decide +kernel
  obtain ⟨hgateway, hrpc, -, -⟩ := backends_fail_closed hallows hresource
  refine ⟨hallows, hresource, ?_, ?_, ?_, ?_⟩
  · refine (hgateway default fun _ => .ok (200, body)).passes_iff.mpr ?_
    exact (Client.Gateway.permits_iff _).mpr
      ⟨_, Client.Gateway.settle_of_answer hread, rfl⟩
  · exact (hgateway default fun _ => .ok (202, body)).rejected_text 202 _ rfl (by decide)
  · refine (hrpc default fun _ => .message [10, 2, 16, 1]).passes_iff.mpr ?_
    exact (Client.Rpc.permits_iff _).mpr
      ⟨⟨"", true⟩, Client.Rpc.settle_message rfl, rfl⟩
  · exact (hrpc default fun _ => .status "7" (Text.utf8 "no%20such%20policy")).rejected "7" _ _ rfl
      (by decide +kernel) hmessage

end AccessControl
