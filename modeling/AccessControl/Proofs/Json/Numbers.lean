import AccessControl.Json.Basic

/-!
# The numbers in a value

`numbers` lists the numbers in a value, at any depth, and `mapNumbers` replaces each of them. A
program holds integers of 64 bits, signed or unsigned, and finite doubles; `Number.Held` says so of
one number.
-/

namespace AccessControl

theorem map_eq_self_iff {α : Type} {f : α → α} {items : List α} :
    items.map f = items ↔ ∀ item ∈ items, f item = item := by
  simpa using List.map_inj_left (f := f) (g := id)

namespace Json

/-- Induction over a value, with the hypothesis for every item and for the value of every member. -/
@[induction_eliminator]
theorem induct {P : Json → Prop} (null : P .null) (bool : ∀ b, P (.bool b))
    (number : ∀ n, P (.number n)) (string : ∀ s, P (.string s))
    (array : ∀ items, (∀ item ∈ items, P item) → P (.array items))
    (object : ∀ members, (∀ member ∈ members, P member.2) → P (.object members)) (v : Json) :
    P v :=
  @Json.rec P (fun items => ∀ item ∈ items, P item)
    (fun members => ∀ member ∈ members, P member.2) (fun member => P member.2)
    null bool number string array object
    (fun _ h => absurd h List.not_mem_nil)
    (fun _ _ hitem hrest => List.forall_mem_cons.mpr ⟨hitem, hrest⟩)
    (fun _ h => absurd h List.not_mem_nil)
    (fun _ _ hmember hrest => List.forall_mem_cons.mpr ⟨hmember, hrest⟩) (fun _ _ h => h) v

/-- A number that a program can hold. -/
def Number.Held : Number → Prop
  | .int n => -9223372036854775808 ≤ n ∧ n < 18446744073709551616
  | .double d => d.isFinite = true

instance : DecidablePred Number.Held
  | .int n => inferInstanceAs (Decidable (-9223372036854775808 ≤ n ∧ n < 18446744073709551616))
  | .double d => inferInstanceAs (Decidable (d.isFinite = true))

def Number.isInt : Number → Bool
  | .int _ => true
  | .double _ => false

mutual

def numbers : Json → List Number
  | .null => []
  | .bool _ => []
  | .number n => [n]
  | .string _ => []
  | .array items => numbersOfItems items
  | .object members => numbersOfMembers members

def numbersOfItems : List Json → List Number
  | [] => []
  | item :: rest => numbers item ++ numbersOfItems rest

def numbersOfMembers : List (String × Json) → List Number
  | [] => []
  | (_, value) :: rest => numbers value ++ numbersOfMembers rest

end

mutual

/-- The value with every number replaced, at any depth. -/
def mapNumbers (f : Number → Number) : Json → Json
  | .null => .null
  | .bool b => .bool b
  | .number n => .number (f n)
  | .string s => .string s
  | .array items => .array (mapItems f items)
  | .object members => .object (mapMembers f members)

def mapItems (f : Number → Number) : List Json → List Json
  | [] => []
  | item :: rest => mapNumbers f item :: mapItems f rest

def mapMembers (f : Number → Number) : List (String × Json) → List (String × Json)
  | [] => []
  | (key, value) :: rest => (key, mapNumbers f value) :: mapMembers f rest

end

theorem numbersOfItems_eq_flatMap (items : List Json) :
    numbersOfItems items = items.flatMap numbers := by
  induction items with
  | nil => rfl
  | cons item rest ih => rw [numbersOfItems, ih, List.flatMap_cons]

theorem numbersOfMembers_eq_flatMap (members : List (String × Json)) :
    numbersOfMembers members = members.flatMap fun member => member.2.numbers := by
  induction members with
  | nil => rfl
  | cons member rest ih => rw [numbersOfMembers, ih, List.flatMap_cons]

theorem mapItems_eq_map (f : Number → Number) (items : List Json) :
    mapItems f items = items.map (mapNumbers f) := by
  induction items with
  | nil => rfl
  | cons item rest ih => rw [mapItems, ih, List.map_cons]

theorem mapMembers_eq_map (f : Number → Number) (members : List (String × Json)) :
    mapMembers f members = members.map fun member => (member.1, member.2.mapNumbers f) := by
  induction members with
  | nil => rfl
  | cons member rest ih => rw [mapMembers, ih, List.map_cons]

theorem forall_numbers_array_iff {P : Number → Prop} {items : List Json} :
    (∀ n ∈ (array items).numbers, P n) ↔ ∀ item ∈ items, ∀ n ∈ item.numbers, P n := by
  rw [numbers, numbersOfItems_eq_flatMap, List.forall_mem_flatMap]

theorem forall_numbers_object_iff {P : Number → Prop} {members : List (String × Json)} :
    (∀ n ∈ (object members).numbers, P n) ↔
      ∀ member ∈ members, ∀ n ∈ member.2.numbers, P n := by
  rw [numbers, numbersOfMembers_eq_flatMap, List.forall_mem_flatMap]

/-- Replacing leaves a value as it is exactly if it leaves every number in it as it is. -/
theorem mapNumbers_eq_self_iff (f : Number → Number) (v : Json) :
    v.mapNumbers f = v ↔ ∀ n ∈ v.numbers, f n = n := by
  induction v with
  | number n => simp [mapNumbers, numbers]
  | array items ih =>
      rw [forall_numbers_array_iff, mapNumbers, mapItems_eq_map, array.injEq, map_eq_self_iff]
      exact forall₂_congr ih
  | object members ih =>
      rw [forall_numbers_object_iff, mapNumbers, mapMembers_eq_map, object.injEq,
        map_eq_self_iff]
      refine forall₂_congr fun member hmember => ?_
      rw [← ih member hmember, Prod.ext_iff]
      exact and_iff_right rfl
  | _ => simp [mapNumbers, numbers]

end Json

end AccessControl
