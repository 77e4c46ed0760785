import AccessControl.Middleware.Basic
import AccessControl.Proofs.Client.RoundTrip
import AccessControl.Proofs.Identity.Authorization

/-!
# Identities from documents

The two fields of an identity are read from a document one by one, and each has a default of its
own. So the kind does not follow the text: an identity from a document is well-formed exactly if the
document has both a text and a kind that is not anonymous, or neither. A constructor looks at both
and leaves no such gap. What is sent to an authorizer is not looked at again.
-/

namespace AccessControl

open Json (Document)
open Json.Document (withDefault text? variant?)

namespace Identity

/-! ## Fields -/

inductive TextField : Option Document → String → Prop
  | missing : TextField none ""
  | given (text : String) : TextField (some (.string (some text))) text

/-- The kind that a field stands for. Its name may also be the only member of an object, with a null
as the value. -/
inductive KindField : Option Document → Kind → Prop
  | missing : KindField none .anonymous
  | named (kind : Kind) : KindField (some (.string (some kind.name))) kind
  | member (kind : Kind) : KindField (some (.object [(some kind.name, .null)])) kind

def HoldsText (field : Option Document) : Prop :=
  ∃ text, TextField field text ∧ text ≠ ""

def NamesCaller (field : Option Document) : Prop :=
  ∃ kind, KindField field kind ∧ kind ≠ .anonymous

theorem withDefault_text?_eq_some_iff {field : Option Document} {text : String} :
    withDefault text? "" field = some text ↔ TextField field text := by
  constructor
  · intro h
    match field, h with
    | none, rfl => exact .missing
    | some (.string (some _)), rfl => exact .given text
  · rintro (_ | _) <;> rfl

theorem get?_byName_eq_some_iff {name : String} {kind : Kind} :
    Kind.byName.get? name = some kind ↔ name = kind.name := by
  rw [Entries.get?_eq_some_iff_mem (by decide)]
  cases kind <;> simp [Kind.byName]

theorem withDefault_variant?_eq_some_iff {field : Option Document} {kind : Kind} :
    withDefault (variant? Kind.byName) .anonymous field = some kind ↔ KindField field kind := by
  constructor
  · intro h
    match field, h with
    | none, rfl => exact .missing
    | some (.string (some name)), h =>
        obtain rfl := get?_byName_eq_some_iff.mp h
        exact .named kind
    | some (.object [(some name, .null)]), h =>
        obtain rfl := get?_byName_eq_some_iff.mp h
        exact .member kind
  · rintro (_ | _ | _)
    · rfl
    · exact get?_byName_eq_some_iff.mpr rfl
    · exact get?_byName_eq_some_iff.mpr rfl

section

variable {field : Option Document} {text : String} {kind : Kind}

theorem TextField.holdsText_iff (h : TextField field text) : HoldsText field ↔ text ≠ "" := by
  constructor
  · rintro ⟨other, hother, hne⟩
    have hsame := withDefault_text?_eq_some_iff.mpr hother
    rw [withDefault_text?_eq_some_iff.mpr h, Option.some.injEq] at hsame
    exact hsame ▸ hne
  · exact fun hne => ⟨text, h, hne⟩

theorem KindField.namesCaller_iff (h : KindField field kind) :
    NamesCaller field ↔ kind ≠ .anonymous := by
  constructor
  · rintro ⟨other, hother, hne⟩
    have hsame := withDefault_variant?_eq_some_iff.mpr hother
    rw [withDefault_variant?_eq_some_iff.mpr h, Option.some.injEq] at hsame
    exact hsame ▸ hne
  · exact fun hne => ⟨kind, h, hne⟩

end

/-! ## Records -/

theorem read?_eq_some_iff {doc : Document} {identity : Identity} :
    read? doc = some identity ↔
      ∃ text kind, doc.fields? ["identity", "type"] false = some [text, kind] ∧
        TextField text identity.value ∧ KindField kind identity.kind := by
  constructor
  · intro h
    unfold read? at h
    split at h
    · rename_i text kind hfields
      split at h
      · rename_i value read hvalue hkind
        cases h
        exact ⟨text, kind, hfields, withDefault_text?_eq_some_iff.mp hvalue,
          withDefault_variant?_eq_some_iff.mp hkind⟩
      · cases h
    · cases h
  · rintro ⟨text, kind, hfields, htext, hkind⟩
    rw [read?, hfields]
    simp only [withDefault_text?_eq_some_iff.mpr htext, withDefault_variant?_eq_some_iff.mpr hkind]

/-- A constructor gives the identity back exactly if it is well-formed. -/
theorem of_eq_self_iff (identity : Identity) :
    of identity.kind identity.value = identity ↔ identity.WellFormed := by
  constructor
  · intro h
    exact h ▸ wellFormed_of identity.kind identity.value
  · intro h
    rcases identity with ⟨value, kind⟩
    by_cases hkind : kind = .anonymous
    · obtain rfl : value = "" := h.mp hkind
      rw [hkind, of_empty]
      rfl
    · exact of_eq_mk hkind fun hvalue => hkind (h.mpr hvalue)

end Identity

def Query.fieldNames : List String :=
  ["identityContext", "policyContext", "resourceContext", "policyInstance"]

/-- The identity of a query is read from the item in its place, which has to be there. -/
theorem Query.exists_identity_of_readWithin {depth : Nat} {doc : Document} {query : Query}
    (h : readWithin depth doc = some query) :
    ∃ item rest, doc.fields? fieldNames false = some (some item :: rest) ∧
      Identity.read? item = some query.identity := by
  unfold readWithin at h
  split at h
  · rename_i identity context resource inst hfields
    split at h
    · rename_i hidentity _ _ _
      cases h
      cases identity with
      | none => cases hidentity
      | some item => exact ⟨item, _, hfields, hidentity⟩
    · cases h
  · cases h

/-! ## What is sent -/

/-- An identity that a document gives, on its own or as the identity of a query. -/
inductive Identity.Decoded (doc : Document) : Identity → Prop
  | alone {identity : Identity} (h : read? doc = some identity) : Decoded doc identity
  | nested {depth : Nat} {query : Query} (h : Query.readWithin depth doc = some query) :
      Decoded doc query.identity

/-- The item with the fields of an identity: the document, or the first field of a query. -/
inductive Identity.ItemOf (doc : Document) : Document → Prop
  | alone : ItemOf doc doc
  | nested {item : Document} {rest : List (Option Document)}
      (h : doc.fields? Query.fieldNames false = some (some item :: rest)) : ItemOf doc item

theorem Identity.Decoded.exists_item {doc : Document} {identity : Identity}
    (h : Decoded doc identity) : ∃ item, ItemOf doc item ∧ read? item = some identity := by
  cases h with
  | alone h => exact ⟨doc, .alone, h⟩
  | nested h =>
      obtain ⟨item, rest, hfields, hitem⟩ := Query.exists_identity_of_readWithin h
      exact ⟨item, .nested hfields, hitem⟩

/-- An identity that is read from a document is well-formed if and only if the document has both a
text that is not empty and a kind that is not anonymous, or neither of them. It is anonymous with a
text if only the text is there, and has a kind but no text if only the kind is. An evaluation sends
it as it was read. Only a well-formed one is what a constructor makes of its kind and text. -/
theorem decoded_identity_wellFormed_iff {doc : Document} {identity : Identity}
    (hdecoded : Identity.Decoded doc identity) (authorizer : Authorizer) (policy : Policy)
    (middleware : Middleware) (path : String) (resource : Resource) :
    (∃ item text kind, Identity.ItemOf doc item ∧ Identity.read? item = some identity ∧
      item.fields? ["identity", "type"] false = some [text, kind] ∧
      (identity.WellFormed ↔ (Identity.NamesCaller kind ↔ Identity.HoldsText text)) ∧
      (identity.kind = .anonymous ∧ identity.value ≠ "" ↔
        Identity.HoldsText text ∧ ¬ Identity.NamesCaller kind) ∧
      (identity.kind ≠ .anonymous ∧ identity.value = "" ↔
        Identity.NamesCaller kind ∧ ¬ Identity.HoldsText text)) ∧
    (∃ query, (Verdict.evaluate authorizer policy identity path resource).queries = [query] ∧
      query.identity = identity) ∧
    (∃ query, (middleware.ask authorizer identity path resource).queries = [query] ∧
      query.identity = identity) ∧
    (Identity.of identity.kind identity.value = identity ↔ identity.WellFormed) := by
  refine ⟨?_, ⟨_, Verdict.queries_evaluate .., rfl⟩, ⟨_, middleware.queries_ask .., rfl⟩,
    identity.of_eq_self_iff⟩
  obtain ⟨item, hitem, hread⟩ := hdecoded.exists_item
  obtain ⟨text, kind, hfields, htext, hkind⟩ := Identity.read?_eq_some_iff.mp hread
  refine ⟨item, text, kind, hitem, hread, hfields, ?_⟩
  rw [Identity.WellFormed, htext.holdsText_iff, hkind.namesCaller_iff]
  tauto

/-- A caller with a name, as the identity of a query. -/
theorem decoded_identity_wellFormed_iff_for_alice :
    let doc : Document := .array [.object [(some "type", .string (some "IDENTITY_TYPE_SUB")),
      (some "identity", .string (some "alice"))], .object []]
    let query : Query := ⟨.subject "alice", "", [], [], none⟩
    let policy : Policy := .new "todo" "allowed"
    let authorizer : Authorizer := fun _ => .ok (.single "allowed" true)
    Query.readWithin 1 doc = some query ∧ query.identity.WellFormed ∧
      ∃ sent, (Verdict.evaluate authorizer policy query.identity "todo.GET" []).queries = [sent] ∧
        sent.identity = .subject "alice" := by
  intro doc query policy authorizer
  have hquery : Query.readWithin 1 doc = some query := rfl
  obtain ⟨⟨item, text, kind, hitem, hread, hfields, hwell, -⟩, hsent, -⟩ :=
    decoded_identity_wellFormed_iff (.nested hquery) authorizer policy
      ⟨policy, .empty, none, [], [], []⟩ "todo.GET" []
  refine ⟨hquery, hwell.mpr ?_, hsent⟩
  cases hitem with
  | alone => cases hread
  | nested h =>
      cases h
      cases hfields
      exact ⟨fun _ => ⟨"alice", .given _, by decide⟩,
        fun _ => ⟨.subject, .named .subject, by decide⟩⟩

/-- A text on its own is sent as an anonymous identity that has a text, and a kind on its own as a
subject that has none. -/
theorem decoded_identity_of_one_field :
    (∃ identity : Identity,
      (Document.read? (Text.utf8 "\x7b\"identity\":\"alice\"\x7d")).bind Identity.read? =
        some identity ∧ ¬ identity.WellFormed ∧
      (Verdict.evaluate (fun _ => .ok (.single "allowed" true)) (.new "todo" "allowed") identity
        "todo.GET" []).queries.map Query.identity = [⟨"alice", .anonymous⟩]) ∧
    (∃ identity : Identity,
      (Document.read? (Text.utf8 "[\"\",\"IDENTITY_TYPE_SUB\"]")).bind Identity.read? =
        some identity ∧ ¬ identity.WellFormed ∧
      (Verdict.evaluate (fun _ => .ok (.single "allowed" true)) (.new "todo" "allowed") identity
        "todo.GET" []).queries.map Query.identity = [⟨"", .subject⟩]) ∧
    ∃ identity : Identity,
      ((Document.read? (Text.utf8
        "\x7b\"identityContext\":\x7b\"identity\":\"alice\"\x7d,\"policyContext\":[]\x7d")).bind
          Query.read?).map Query.identity = some identity ∧ ¬ identity.WellFormed := by
  refine ⟨⟨⟨"alice", .anonymous⟩, ?_, ?_, rfl⟩, ⟨⟨"", .subject⟩, ?_, ?_, rfl⟩,
    ⟨⟨"alice", .anonymous⟩, ?_, ?_⟩⟩
  · decide +kernel
  · simp [Identity.WellFormed]
  · decide +kernel
  · simp [Identity.WellFormed]
  · decide +kernel
  · simp [Identity.WellFormed]

end AccessControl
