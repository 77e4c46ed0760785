import AccessControl.Proofs.Double.Finite
import AccessControl.Proofs.Json.Numbers
import AccessControl.Protobuf.Message

/-!
# Values and queries that come back

A value keeps everything in its tagged form but the kind of its integers, which come back as the
doubles nearest to them; so the values that come back as they were are those without integers. The
other way round, a tagged value is the form of the value that it stands for exactly if it is
`Settled`: no kind is missing, every null has the number of null, and every double is finite.

A query message has all parts of its query, and `query?` reads them back. The kind of the identity
is read through its number and the name that the number has.
-/

namespace AccessControl.Protobuf

namespace Value

/-- Induction over a tagged value, with the hypothesis for every field and for every item. -/
@[induction_eliminator]
theorem induct {P : Value → Prop} (unset : P .unset) (null : ∀ code, P (.null code))
    (number : ∀ d, P (.number d)) (string : ∀ s, P (.string s)) (bool : ∀ b, P (.bool b))
    (struct : ∀ fields, (∀ field ∈ fields, P field.2) → P (.struct fields))
    (list : ∀ items, (∀ item ∈ items, P item) → P (.list items)) (p : Value) : P p :=
  @Value.rec P (fun fields => ∀ field ∈ fields, P field.2) (fun items => ∀ item ∈ items, P item)
    (fun field => P field.2) unset null number string bool struct list
    (fun _ h => absurd h List.not_mem_nil)
    (fun _ _ hfield hrest => List.forall_mem_cons.mpr ⟨hfield, hrest⟩)
    (fun _ h => absurd h List.not_mem_nil)
    (fun _ _ hitem hrest => List.forall_mem_cons.mpr ⟨hitem, hrest⟩) (fun _ _ h => h) p

/-- Every kind is set, every null has the number 0 and every double is finite, at any depth. -/
inductive Settled : Value → Prop
  | null : Settled (.null 0)
  | number {d : Double} (h : d.isFinite = true) : Settled (.number d)
  | string (s : String) : Settled (.string s)
  | bool (b : Bool) : Settled (.bool b)
  | struct {fields : List (String × Value)} (h : ∀ field ∈ fields, Settled field.2) :
      Settled (.struct fields)
  | list {items : List Value} (h : ∀ item ∈ items, Settled item) : Settled (.list items)

end Value

def asDouble (n : Json.Number) : Json.Number := .double n.toDouble

theorem asDouble_eq_self_iff (n : Json.Number) : asDouble n = n ↔ n.isInt = false := by
  cases n <;> simp [asDouble, Json.Number.toDouble, Json.Number.isInt]

theorem isFinite_toDouble {n : Json.Number} (h : n.Held) : n.toDouble.isFinite = true := by
  cases n with
  | int n =>
      obtain ⟨hlow, hhigh⟩ := h
      exact Double.isFinite_ofInt (by omega)
  | double d => exact h

theorem toJson_ofJson {v : Json} (h : ∀ n ∈ v.numbers, n.Held) :
    (Value.ofJson v).toJson = v.mapNumbers asDouble := by
  induction v with
  | number n =>
      have hfinite := isFinite_toDouble (h n List.mem_cons_self)
      simp [Value.ofJson, Value.toJson, hfinite, Json.mapNumbers, asDouble]
  | array items ih =>
      rw [Json.forall_numbers_array_iff] at h
      rw [Value.ofJson, Value.toJson, Value.ofItems_eq_map, Value.toItems_eq_map, List.map_map,
        Json.mapNumbers, Json.mapItems_eq_map]
      exact congrArg Json.array (List.map_congr_left fun item hitem => ih item hitem (h item hitem))
  | object members ih =>
      rw [Json.forall_numbers_object_iff] at h
      rw [Value.ofJson, Value.toJson, Value.ofMembers_eq_map, Value.toMembers_eq_map, List.map_map,
        Json.mapNumbers, Json.mapMembers_eq_map]
      refine congrArg Json.object (List.map_congr_left fun member hmember => ?_)
      exact congrArg (Prod.mk member.1) (ih member hmember (h member hmember))
  | _ => rfl

theorem toJson_ofJson_eq_self_iff {v : Json} (h : ∀ n ∈ v.numbers, n.Held) :
    (Value.ofJson v).toJson = v ↔ ∀ n ∈ v.numbers, n.isInt = false := by
  rw [toJson_ofJson h, Json.mapNumbers_eq_self_iff]
  exact forall₂_congr fun n _ => asDouble_eq_self_iff n

theorem toMembers_ofMembers {members : Entries Json}
    (h : ∀ n ∈ (Json.object members).numbers, n.Held) :
    Value.toMembers (Value.ofMembers members) = Json.mapMembers asDouble members := by
  have hobject := toJson_ofJson h
  rw [Value.ofJson, Value.toJson, Json.mapNumbers] at hobject
  exact Json.object.inj hobject

theorem ofJson_toJson_eq_self_iff (p : Value) : Value.ofJson p.toJson = p ↔ p.Settled := by
  induction p with
  | unset =>
      constructor
      · intro h
        cases h
      · intro h
        cases h
  | null code =>
      constructor
      · intro h
        cases h
        exact .null
      · intro h
        cases h
        rfl
  | number d =>
      cases hd : d.isFinite with
      | true => simpa [Value.toJson, hd, Value.ofJson, Json.Number.toDouble] using .number hd
      | false =>
          constructor
          · intro h
            simp [Value.toJson, hd, Value.ofJson] at h
          · intro h
            cases h with
            | number hfinite => rw [hd] at hfinite; cases hfinite
  | string s => exact ⟨fun _ => .string s, fun _ => rfl⟩
  | bool b => exact ⟨fun _ => .bool b, fun _ => rfl⟩
  | struct fields ih =>
      rw [Value.toJson, Value.ofJson, Value.toMembers_eq_map, Value.ofMembers_eq_map, List.map_map,
        Value.struct.injEq, map_eq_self_iff]
      have hfields : (∀ field ∈ fields, (field.1, Value.ofJson field.2.toJson) = field) ↔
          ∀ field ∈ fields, field.2.Settled := by
        refine forall₂_congr fun field hfield => ?_
        rw [← ih field hfield, Prod.ext_iff]
        exact and_iff_right rfl
      refine hfields.trans ⟨.struct, fun h => ?_⟩
      cases h with
      | struct h => exact h
  | list items ih =>
      rw [Value.toJson, Value.ofJson, Value.toItems_eq_map, Value.ofItems_eq_map, List.map_map,
        Value.list.injEq, map_eq_self_iff]
      refine (forall₂_congr ih).trans ⟨.list, fun h => ?_⟩
      cases h with
      | list h => exact h

def kind? (number : Int) : Option Identity.Kind :=
  (identityName? number).bind Identity.Kind.byName.get?

theorem kind?_number (kind : Identity.Kind) : kind? kind.number = some kind := by
  cases kind <;> decide

/-- The query that a message stands for, if no part but the instance is missing and the identity is
of a known kind. -/
def QueryMessage.query? (message : QueryMessage) : Option Query := do
  let (path, decisions) ← message.target
  let (value, number) ← message.identity
  let kind ← kind? number
  let fields ← message.resource
  some ⟨⟨value, kind⟩, path, decisions, Value.toMembers fields, message.inst⟩

theorem query?_ofQuery {query : Query} (h : ∀ n ∈ (Json.object query.resource).numbers, n.Held) :
    (QueryMessage.ofQuery query).query? =
      some { query with resource := Json.mapMembers asDouble query.resource } := by
  simp [QueryMessage.query?, QueryMessage.ofQuery, kind?_number, toMembers_ofMembers h]

/-- Whatever a program can hold comes back from its tagged form with its integers as doubles, and
whatever is settled comes back from the value that it stands for. A query comes back whole, with the
integers of its resource as doubles. -/
theorem encoded_values_come_back :
    (∀ v : Json, (∀ n ∈ v.numbers, n.Held) →
      (Value.ofJson v).toJson = v.mapNumbers asDouble ∧
        ((Value.ofJson v).toJson = v ↔ ∀ n ∈ v.numbers, n.isInt = false)) ∧
    (∀ p : Value, Value.ofJson p.toJson = p ↔ p.Settled) ∧
    ∀ query : Query, (∀ n ∈ (Json.object query.resource).numbers, n.Held) →
      (QueryMessage.ofQuery query).query? =
        some { query with resource := Json.mapMembers asDouble query.resource } := by
  refine ⟨?_, ofJson_toJson_eq_self_iff, ?_⟩
  · intro v hheld
    exact ⟨toJson_ofJson hheld, toJson_ofJson_eq_self_iff hheld⟩
  · intro query hheld
    exact query?_ofQuery hheld

/-- A query of the manual identity `acme` for a resource with the integer 3 and the double 0.5. -/
def tierQuery : Query where
  identity := ⟨"acme", .manual⟩
  path := "todo.GET.todos.__id"
  decisions := ["allowed", "visible"]
  resource :=
    [("owner", .object [("tier", .number (.int 3))]),
      ("parts", .array [.null, .number (.double ⟨0x3fe0000000000000⟩)])]
  inst := some ⟨"todo", "todo-v2"⟩

theorem encoded_values_come_back_for_tier :
    (∀ n ∈ (Json.object tierQuery.resource).numbers, n.Held) ∧
    (QueryMessage.ofQuery tierQuery).query? =
      some { tierQuery with
        resource :=
          [("owner", .object [("tier", .number (.double ⟨0x4008000000000000⟩))]),
            ("parts", .array [.null, .number (.double ⟨0x3fe0000000000000⟩)])] } ∧
    (Value.ofJson (.object tierQuery.resource)).toJson ≠ .object tierQuery.resource := by
  have hheld : ∀ n ∈ (Json.object tierQuery.resource).numbers, n.Held := by decide
  have htier : asDouble (.int 3) = .double ⟨0x4008000000000000⟩ := by decide +kernel
  obtain ⟨hvalues, -, hqueries⟩ := encoded_values_come_back
  refine ⟨hheld, ?_, ?_⟩
  · rw [hqueries tierQuery hheld]
    simp only [tierQuery, Json.mapMembers, Json.mapNumbers, Json.mapItems, htier]
    rfl
  · intro hself
    have hint := ((hvalues _ hheld).2.mp hself) (.int 3) List.mem_cons_self
    cases hint

end AccessControl.Protobuf
