import Mathlib.Data.List.DropRight
import Mathlib.Data.List.Induction

/-!
# The last word among some steps

Steps are taken one after the other, and a step may set a slot of what is being built; whatever the
slot held before is forgotten. So after all steps a slot holds what the last step that sets it has
put there, or what it held at the start. `lastSet` is that last word, read off the list of steps.

Other slots are lists to which steps append. If some steps empty such a list, it holds what was
appended since the last of them. A step that commutes with others may be taken after them.
-/

namespace AccessControl

variable {σ α β : Type}

/-- The last value that some steps set. -/
def lastSet (sets : σ → Option α) (steps : List σ) : Option α := (steps.filterMap sets).getLast?

theorem lastSet_append_singleton (sets : σ → Option α) (steps : List σ) (last : σ) :
    lastSet sets (steps ++ [last]) = (sets last).or (lastSet sets steps) := by
  unfold lastSet
  rw [List.filterMap_append, List.getLast?_append]
  cases hlast : sets last <;> simp [hlast]

theorem lastSet_append (sets : σ → Option α) (steps others : List σ) :
    lastSet sets (steps ++ others) = (lastSet sets others).or (lastSet sets steps) := by
  rw [lastSet, List.filterMap_append, List.getLast?_append]
  rfl

theorem lastSet_map {ρ : Type} (sets : σ → Option α) (f : ρ → σ) (items : List ρ) :
    lastSet sets (items.map f) = lastSet (fun item => sets (f item)) items := by
  rw [lastSet, List.filterMap_map]
  rfl

theorem lastSet_filterMap {ρ : Type} (sets : σ → Option α) (f : ρ → Option σ) (items : List ρ) :
    lastSet sets (items.filterMap f) = lastSet (fun item => (f item).bind sets) items := by
  rw [lastSet, List.filterMap_filterMap, lastSet]

theorem lastSet_congr {sets others : σ → Option α} {steps : List σ}
    (h : ∀ s ∈ steps, sets s = others s) : lastSet sets steps = lastSet others steps :=
  congrArg List.getLast? (List.filterMap_congr h)

/-- Where one step alone may set a value, it does so if it is there. -/
theorem lastSet_ite_eq [DecidableEq σ] (steps : List σ) (s : σ) (value : Option α) :
    lastSet (fun t => if t = s then value else none) steps = if s ∈ steps then value else none := by
  induction steps using List.reverseRecOn with
  | nil => rfl
  | append_singleton steps last ih =>
      rw [lastSet_append_singleton, ih]
      by_cases hlast : last = s
      · subst hlast
        cases value <;> simp
      · simp [hlast, Ne.symm hlast]

theorem lastSet_eq_none_iff {sets : σ → Option α} {steps : List σ} :
    lastSet sets steps = none ↔ ∀ s ∈ steps, sets s = none := by
  rw [lastSet, List.getLast?_eq_none_iff, List.filterMap_eq_nil_iff]

theorem lastSet_eq_some_iff {sets : σ → Option α} {steps : List σ} {value : α} :
    lastSet sets steps = some value ↔ ∃ before s after, steps = before ++ s :: after ∧
      sets s = some value ∧ ∀ later ∈ after, sets later = none := by
  rw [lastSet, List.getLast?_filterMap, List.findSome?_eq_some_iff]
  constructor
  · rintro ⟨after, s, before, hsteps, hs, hafter⟩
    refine ⟨before.reverse, s, after.reverse, ?_, hs, ?_⟩
    · rw [← List.reverse_reverse steps, hsteps]
      simp
    · exact fun later hlater => hafter later (List.mem_reverse.mp hlater)
  · rintro ⟨before, s, after, rfl, hs, hafter⟩
    refine ⟨after.reverse, s, before.reverse, by simp, hs, ?_⟩
    exact fun later hlater => hafter later (List.mem_reverse.mp hlater)

/-- In a list that is sorted, the last step that sets a value is the greatest one. -/
theorem lastSet_eq_some_iff_of_pairwise {sets : σ → Option α} {steps : List σ} {value : α}
    {r : σ → σ → Prop} (hasymm : ∀ s t, r s t → ¬ r t s) (hsorted : steps.Pairwise r) :
    lastSet sets steps = some value ↔ ∃ s ∈ steps, sets s = some value ∧
      ∀ other ∈ steps, sets other ≠ none → other = s ∨ r other s := by
  rw [lastSet_eq_some_iff]
  constructor
  · rintro ⟨before, s, after, rfl, hs, hafter⟩
    obtain ⟨-, -, hbefore⟩ := List.pairwise_append.mp hsorted
    refine ⟨s, List.mem_append_right _ List.mem_cons_self, hs, fun other hother hset => ?_⟩
    rcases List.mem_append.mp hother with hother | hother
    · exact .inr (hbefore other hother s List.mem_cons_self)
    · rcases List.mem_cons.mp hother with rfl | hother
      · exact .inl rfl
      · exact absurd (hafter other hother) hset
  · rintro ⟨s, hmem, hs, hgreatest⟩
    obtain ⟨before, after, rfl⟩ := List.mem_iff_append.mp hmem
    obtain ⟨-, hrest, -⟩ := List.pairwise_append.mp hsorted
    have hafter := (List.pairwise_cons.mp hrest).1
    refine ⟨before, s, after, rfl, hs, fun later hlater => ?_⟩
    by_contra hset
    have hbehind := hafter later hlater
    rcases hgreatest later (List.mem_append_right _ (List.mem_cons_of_mem _ hlater)) hset with
      rfl | hfront
    · exact hasymm _ _ hbehind hbehind
    · exact hasymm _ _ hbehind hfront

/-- A slot holds what was set last. -/
theorem slot_foldl (slot : β → α) {sets : σ → Option α} {step : β → σ → β}
    (hstep : ∀ b s, slot (step b s) = (sets s).getD (slot b)) (steps : List σ) (b : β) :
    slot (steps.foldl step b) = (lastSet sets steps).getD (slot b) := by
  induction steps using List.reverseRecOn with
  | nil => rfl
  | append_singleton steps last ih =>
      rw [List.foldl_append, List.foldl_cons, List.foldl_nil, hstep, ih, lastSet_append_singleton]
      cases sets last <;> rfl

/-- A slot that starts empty and is never emptied again holds the last word as it is. -/
theorem optional_slot_foldl (slot : β → Option α) {sets : σ → Option α} {step : β → σ → β}
    (hstep : ∀ b s, slot (step b s) = (sets s).or (slot b)) (steps : List σ) {b : β}
    (hstart : slot b = none) : slot (steps.foldl step b) = lastSet sets steps := by
  induction steps using List.reverseRecOn with
  | nil => exact hstart
  | append_singleton steps last ih =>
      rw [List.foldl_append, List.foldl_cons, List.foldl_nil, hstep, ih, lastSet_append_singleton]

/-- A list to which every step appends holds what the steps append, in their order. -/
theorem appended_slot_foldl (slot : β → List α) {adds : σ → List α} {step : β → σ → β}
    (hstep : ∀ b s, slot (step b s) = slot b ++ adds s) (steps : List σ) (b : β) :
    slot (steps.foldl step b) = slot b ++ steps.flatMap adds := by
  induction steps generalizing b with
  | nil => simp
  | cons s steps ih => rw [List.foldl_cons, ih, hstep, List.flatMap_cons, List.append_assoc]

/-- A list that some steps empty holds what was appended since, and what it held at the start only
if none did. -/
theorem resettable_slot_foldl (slot : β → List α) {resets : σ → Bool} {adds : σ → List α}
    {step : β → σ → β}
    (hstep : ∀ b s, slot (step b s) = if resets s then [] else slot b ++ adds s) (steps : List σ)
    (b : β) :
    slot (steps.foldl step b) = (if steps.any resets then [] else slot b) ++
      (steps.rtakeWhile fun s => !resets s).flatMap adds := by
  induction steps using List.reverseRecOn with
  | nil => simp
  | append_singleton steps last ih =>
      rw [List.foldl_append, List.foldl_cons, List.foldl_nil, hstep, ih, List.any_append]
      cases hlast : resets last with
      | true =>
          rw [List.rtakeWhile_concat_neg _ _ _ (by simp [hlast])]
          simp [hlast]
      | false =>
          rw [List.rtakeWhile_concat_pos _ _ _ (by simp [hlast])]
          simp [hlast]

/-- A step that commutes with each of some others may be taken after all of them. -/
theorem foldl_step_comm {step : β → σ → β} {s : σ} {passed : List σ}
    (h : ∀ t ∈ passed, ∀ b, step (step b s) t = step (step b t) s) (b : β) :
    passed.foldl step (step b s) = step (passed.foldl step b) s := by
  induction passed generalizing b with
  | nil => rfl
  | cons t passed ih =>
      obtain ⟨ht, hpassed⟩ := List.forall_mem_cons.mp h
      rw [List.foldl_cons, List.foldl_cons, ht, ih hpassed]

end AccessControl
