import AccessControl.Client.Gateway
import AccessControl.Proofs.Json.Text
import AccessControl.Relation.Basic

/-!
# Records in JSON come back

A record that is written as JSON is read back as it was, in whatever order its members stand. A
query in addition holds a resource, which is read with a bound on its nesting.

The body of a gateway request is the text of a query. Read as a query again, it gives the query back
exactly if the resource nests at most 126 deep, one level below the deepest nesting that is read,
and each number in it is read from its own text as it was. All integers of 64 bits are; doubles need
not be.
-/

namespace AccessControl

open Json Json.Document

/-! ## Records -/

namespace Identity

theorem recovers_kind : Recovers (variant? Kind.byName) fun kind => .string kind.name :=
  recovers_variant fun kind => by cases kind <;> rfl

theorem recovers_toJson : Recovers read? toJson := by
  intro identity doc h
  obtain ⟨fields, hfields, hfield⟩ :=
    exists_fields_of_writtenAs h ["identity", "type"] false (by simp) (by simp)
  rw [read?, hfields]
  simp only [List.map_cons, List.map_nil, recovers_text.withDefault (hfield "identity"),
    recovers_kind.withDefault (hfield "type")]

end Identity

namespace Policy

theorem Instance.recovers_toJson : Recovers Instance.read? Instance.toJson := by
  intro inst doc h
  obtain ⟨fields, hfields, hfield⟩ :=
    exists_fields_of_writtenAs h ["name", "instanceLabel"] false (by simp) (by simp)
  rw [Instance.read?, hfields]
  simp only [List.map_cons, List.map_nil, recovers_text.withDefault (hfield "name"),
    recovers_text.withDefault (hfield "instanceLabel")]

theorem recovers_label : Recovers (nullable text?) Json.ofString? := by
  intro label doc h
  refine recovers_text.nullable (fun s => ?_) label doc ?_
  · rintro ⟨⟩
  · cases label <;> exact h

theorem recovers_toJson : Recovers read? toJson := by
  intro policy doc h
  obtain ⟨fields, hfields, hfield⟩ := exists_fields_of_writtenAs h
    ["name", "path", "decision", "root", "instance_label"] true (by simp) (by simp)
  rw [read?, hfields]
  simp only [List.map_cons, List.map_nil, recovers_text.withDefault (hfield "name"),
    recovers_text.withDefault (hfield "path"), recovers_text.withDefault (hfield "decision"),
    recovers_text.withDefault (hfield "root"),
    recovers_label.withDefault (hfield "instance_label")]

end Policy

namespace Query

theorem recovers_module :
    Recovers module? fun context => moduleJson context.1 context.2 := by
  intro context doc h
  obtain ⟨fields, hfields, hfield⟩ :=
    exists_fields_of_writtenAs h ["path", "decisions"] false (by simp) (by simp)
  rw [module?, hfields]
  simp only [List.map_cons, List.map_nil, recovers_text.withDefault (hfield "path"),
    recovers_texts.withDefault (hfield "decisions")]

/-- A resource that is sorted and does not nest too deep comes back. -/
theorem resourceWithin_of_writtenAs {resource : Resource} (h : (Json.object resource).Canonical)
    {limit : Nat} (hdepth : (Json.object resource).depth ≤ limit) {doc : Json.Document}
    (hdoc : (Json.object resource).WrittenAs doc) :
    resourceWithin limit doc = some resource := by
  have hread := valueWithin_of_writtenAs h hdepth hdoc
  obtain ⟨docs, -, rfl, -⟩ := hdoc
  rw [resourceWithin, hread]

theorem recovers_instance : Recovers (nullable Policy.Instance.read?) fun inst =>
    inst.elim .null Policy.Instance.toJson := by
  refine Policy.Instance.recovers_toJson.nullable fun inst hnull => ?_
  obtain ⟨docs, -, heq, -⟩ := hnull
  cases heq

theorem readWithin_of_writtenAs {query : Query} (h : (Json.object query.resource).Canonical)
    {limit : Nat} (hdepth : (Json.object query.resource).depth < limit) {doc : Json.Document}
    (hdoc : query.toJson.WrittenAs doc) : readWithin limit doc = some query := by
  rcases query with ⟨identity, path, decisions, resource, inst⟩
  obtain ⟨fields, hfields, hfield⟩ := exists_fields_of_writtenAs hdoc
    ["identityContext", "policyContext", "resourceContext", "policyInstance"] false
    (by cases inst <;> simp) (by cases inst <;> simp)
  have hresource : ∀ doc, (Json.object resource).WrittenAs doc →
      resourceWithin (limit - 1) doc = some resource := fun _ =>
    resourceWithin_of_writtenAs h (Nat.le_sub_one_of_lt hdepth)
  have hinst : withDefault (nullable Policy.Instance.read?) none (fields.get? "policyInstance") =
      some inst := by
    cases inst with
    | none => exact withDefault_of_absent (hfield "policyInstance") none
    | some inst => exact recovers_instance.withDefault (x := some inst) (hfield "policyInstance") none
  rw [readWithin, hfields]
  simp only [List.map_cons, List.map_nil,
    Identity.recovers_toJson.required (hfield "identityContext"),
    recovers_module.required (x := (path, decisions)) (hfield "policyContext"),
    withDefault_of_rel hresource (hfield "resourceContext"), hinst]

end Query

namespace Decision

theorem recovers_toJson : Recovers read? toJson := by
  intro decision doc h
  obtain ⟨fields, hfields, hfield⟩ :=
    exists_fields_of_writtenAs h ["decision", "is"] false (by simp) (by simp)
  rw [read?, hfields]
  simp only [List.map_cons, List.map_nil, recovers_text.required (hfield "decision"),
    recovers_bool.withDefault (hfield "is")]

end Decision

namespace Answer

theorem recovers_toJson : Recovers read? toJson := by
  intro answer doc h
  obtain ⟨fields, hfields, hfield⟩ :=
    exists_fields_of_writtenAs h ["decisions"] false (by simp) (by simp)
  rw [read?, hfields]
  simp only [List.map_cons, List.map_nil,
    Decision.recovers_toJson.list.withDefault (hfield "decisions"), Option.map_some]

end Answer

namespace RelationTuple

theorem recovers_toJson : Recovers read? toJson := by
  intro tuple doc h
  obtain ⟨fields, hfields, hfield⟩ := exists_fields_of_writtenAs h
    ["object_type", "object_id", "relation", "subject_type", "subject_id", "trace"] false
    (by simp) (by simp)
  rw [read?, hfields]
  simp only [List.map_cons, List.map_nil, recovers_text.required (hfield "object_type"),
    recovers_text.required (hfield "object_id"), recovers_text.required (hfield "relation"),
    recovers_text.required (hfield "subject_type"), recovers_text.required (hfield "subject_id"),
    recovers_bool.withDefault (hfield "trace")]

end RelationTuple

namespace RelationAnswer

theorem recovers_toJson : Recovers read? toJson := by
  rintro ⟨holds, trace⟩ doc h
  obtain ⟨fields, hfields, hfield⟩ := exists_fields_of_writtenAs h ["check", "trace"] false
    (by cases trace <;> simp) (by cases trace <;> simp)
  -- An empty trace is not written.
  have htrace : withDefault (list? text?) [] (fields.get? "trace") = some trace := by
    cases trace with
    | nil => exact withDefault_of_absent (hfield "trace") []
    | cons first rest => exact recovers_texts.withDefault (hfield "trace") []
  rw [read?, hfields]
  simp only [List.map_cons, List.map_nil, recovers_bool.withDefault (hfield "check"), htrace]

end RelationAnswer

/-! ## The body of a gateway request -/

namespace Query

theorem numbers_ofStrings (list : List String) : (Json.ofStrings list).numbers = [] := by
  rw [Json.ofStrings, numbers, numbersOfItems_eq_flatMap, List.flatMap_eq_nil_iff]
  intro item hitem
  obtain ⟨s, -, rfl⟩ := List.mem_map.mp hitem
  rfl

/-- All numbers of a query stand in its resource. -/
theorem numbers_toJson (query : Query) :
    query.toJson.numbers = (Json.object query.resource).numbers := by
  rcases query with ⟨identity, path, decisions, resource, inst⟩
  have hmodule : (moduleJson path decisions).numbers = [] := by
    simp [moduleJson, numbers, numbersOfMembers, numbers_ofStrings]
  cases inst <;>
    simp [toJson, Identity.toJson, Policy.Instance.toJson, hmodule, numbers, numbersOfMembers]

/-- The resource of a query that is read is read from its own field. -/
theorem resource_of_readWithin {query : Query} {limit : Nat}
    (h : readWithin limit query.toJson.reread = some query) :
    resourceWithin (limit - 1) (Json.object query.resource).reread = some query.resource := by
  rcases query with ⟨identity, path, decisions, resource, inst⟩
  rw [readWithin, toJson, fields?_reread (by cases inst <;> simp) (by cases inst <;> simp)] at h
  simp only [List.map_cons, List.map_nil] at h
  split at h
  · rename_i hresource _
    cases h
    exact hresource
  · cases h

end Query

namespace Client.Gateway

def Request.query? (request : Request) : Option Query :=
  (Json.Document.read? request.body).bind Query.read?

theorem query?_request (gateway : Gateway) (query : Query) :
    (gateway.request query).query? = Query.read? query.toJson.reread := by
  rw [Request.query?, request, Json.Document.read?_compact, Option.bind_some]

theorem query?_request_iff (gateway : Gateway) {query : Query}
    (h : (Json.object query.resource).Canonical) :
    (gateway.request query).query? = some query ↔
      (Json.object query.resource).depth ≤ 126 ∧
        ∀ n ∈ (Json.object query.resource).numbers, n.reread? = some n := by
  rw [query?_request]
  constructor
  · intro hread
    have hresource := Query.resource_of_readWithin hread
    rw [reread, Query.resourceWithin] at hresource
    split at hresource
    · rename_i hvalue
      cases hresource
      exact of_valueWithin_reread h hvalue
    · cases hresource
  · rintro ⟨hdepth, hnumbers⟩
    rw [reread_eq_ofValue (query.numbers_toJson ▸ hnumbers)]
    exact Query.readWithin_of_writtenAs h (Nat.lt_succ_of_le hdepth) (writtenAs_ofValue _)

/-- Every record comes back from its JSON form. The query that an evaluation sends to a gateway comes
back from the body of the request if and only if its resource nests at most 126 deep and each number
in it comes back from its own text, as all integers of 64 bits do. -/
theorem records_come_back :
    (Recovers Identity.read? Identity.toJson ∧
      Recovers Query.module? (fun context => Query.moduleJson context.1 context.2) ∧
      Recovers Policy.Instance.read? Policy.Instance.toJson ∧
      Recovers Decision.read? Decision.toJson ∧
      Recovers Answer.read? Answer.toJson ∧
      Recovers RelationTuple.read? RelationTuple.toJson ∧
      Recovers RelationAnswer.read? RelationAnswer.toJson ∧
      Recovers Policy.read? Policy.toJson) ∧
    (∀ (query : Query) (limit : Nat) (doc : Json.Document),
      (Json.object query.resource).Canonical → (Json.object query.resource).depth < limit →
        query.toJson.WrittenAs doc → Query.readWithin limit doc = some query) ∧
    (∀ (gateway : Gateway) (exchange : Request → Reply) (policy : Policy) (identity : Identity)
        (path : String) (resource : Resource), (Json.object resource).Canonical →
      ∀ query ∈ (Verdict.evaluate (gateway.authorizer exchange) policy identity path
          resource).queries,
        ((gateway.request query).query? = some query ↔
          (Json.object resource).depth ≤ 126 ∧
            ∀ n ∈ (Json.object resource).numbers, n.reread? = some n)) ∧
    ∀ n : Int, (Number.int n).Held → (Number.int n).reread? = some (.int n) := by
  refine ⟨⟨Identity.recovers_toJson, Query.recovers_module, Policy.Instance.recovers_toJson,
    Decision.recovers_toJson, Answer.recovers_toJson, RelationTuple.recovers_toJson,
    RelationAnswer.recovers_toJson, Policy.recovers_toJson⟩, ?_, ?_, fun _ => reread?_int⟩
  · intro query limit doc hcanonical hdepth hdoc
    exact Query.readWithin_of_writtenAs hcanonical hdepth hdoc
  · intro gateway exchange policy identity path resource hcanonical query hquery
    rw [Verdict.queries_evaluate, List.mem_singleton] at hquery
    subst hquery
    exact query?_request_iff gateway hcanonical

def orderQuery (amount : Json) : Query :=
  .of (.subject "alice") (.new "shop" "allowed") "shop.POST.orders" [("amount", amount)]

theorem records_come_back_for_order :
    (Json.object [("amount", Json.ofInt 3)]).Canonical ∧ (Number.int 3).Held ∧
      Identity.read? (.ofValue (Identity.subject "alice").toJson) = some (.subject "alice") ∧
      Query.readWithin 2 (.ofValue (orderQuery (Json.ofInt 3)).toJson) =
        some (orderQuery (Json.ofInt 3)) ∧
      (request default (orderQuery (Json.ofInt 3))).query? = some (orderQuery (Json.ofInt 3)) := by
  have hcanonical : (Json.object [("amount", Json.ofInt 3)]).Canonical :=
    ⟨List.pairwise_singleton _ _, trivial, trivial⟩
  have hheld : (Number.int 3).Held := by decide
  obtain ⟨⟨hidentity, -⟩, hquery, hbody, hint⟩ := records_come_back
  refine ⟨hcanonical, hheld, hidentity _ _ (writtenAs_ofValue _),
    hquery _ 2 _ hcanonical (by decide) (writtenAs_ofValue _), ?_⟩
  refine (hbody default (fun _ => .error "no reply") (.new "shop" "allowed") (.subject "alice")
    "shop.POST.orders" _ hcanonical _ List.mem_cons_self).mpr ⟨by decide, ?_⟩
  intro n hn
  rw [List.mem_singleton.mp hn]
  exact hint 3 hheld

/-- The queries of an evaluation that asks about the order over a gateway that never replies. -/
def orderQueries (amount : Json) : List Query :=
  (Verdict.evaluate (authorizer default fun _ => .error "no reply") (.new "shop" "allowed")
    (.subject "alice") "shop.POST.orders" [("amount", amount)]).queries

def nested : Nat → Json
  | 0 => .null
  | n + 1 => .array [nested n]

theorem depth_nested (n : Nat) : (nested n).depth = n := by
  induction n with
  | zero => rfl
  | succ n ih => rw [nested, depth, depthOfItems, depthOfItems, ih, Nat.max_zero]

theorem canonical_nested (n : Nat) : (nested n).Canonical := by
  induction n with
  | zero => trivial
  | succ n ih => exact ⟨ih, trivial⟩

/-- The double next to `1e-23` is read from the text of `1e-23`. -/
theorem reread?_small_double :
    (Number.double ⟨4262707295203537489⟩).reread? = some (.double ⟨4262707295203537490⟩) := by
  decide +kernel

/-- A query does not come back from the body of its request if an amount is `1e-23` or nests 126
deep below the resource. -/
theorem order_changes_in_body :
    (∃ query ∈ orderQueries (.number (.double ⟨4262707295203537489⟩)),
      (request default query).query? ≠ some query) ∧
    ∃ query ∈ orderQueries (nested 126), (request default query).query? ≠ some query := by
  refine ⟨⟨orderQuery (.number (.double ⟨4262707295203537489⟩)), List.mem_cons_self, ?_⟩,
    ⟨orderQuery (nested 126), List.mem_cons_self, ?_⟩⟩
  · intro hread
    have hcanonical : (Json.object
        [("amount", .number (.double ⟨4262707295203537489⟩))]).Canonical :=
      ⟨List.pairwise_singleton _ _, trivial, trivial⟩
    have hsame := ((query?_request_iff default hcanonical).mp hread).2 _ List.mem_cons_self
    rw [reread?_small_double] at hsame
    exact absurd hsame (by decide)
  · intro hread
    have hcanonical : (Json.object [("amount", nested 126)]).Canonical :=
      ⟨List.pairwise_singleton _ _, canonical_nested _, trivial⟩
    have hdepth := ((query?_request_iff default hcanonical).mp hread).1
    change (Json.object [("amount", nested 126)]).depth ≤ 126 at hdepth
    rw [depth, depthOfMembers, depthOfMembers, depth_nested] at hdepth
    exact absurd hdepth (by decide)

end Client.Gateway

end AccessControl
