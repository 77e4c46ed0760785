import Mathlib.Data.List.Forall2

/-!
# Folds that may fail

A fold whose steps run in a monad depends on its steps at the items of the list only, and what every
successful step keeps is kept by a successful fold. If it depends on the item alone whether a step
fails, the fold fails at the first item at which one does. The same holds of running a function on
every item of a list, where it always depends on the item alone.
-/

namespace AccessControl

variable {α β ε : Type}

theorem bind_eq_ok_iff {x : Except ε α} {f : α → Except ε β} {b : β} :
    x >>= f = .ok b ↔ ∃ a, x = .ok a ∧ f a = .ok b := by
  cases x with
  | error error =>
      refine ⟨nofun, ?_⟩
      rintro ⟨a, ⟨⟩, _⟩
  | ok a =>
      refine ⟨fun h => ⟨a, rfl, h⟩, ?_⟩
      rintro ⟨_, ⟨⟩, h⟩
      exact h

/-- Steps that do the same with every item of a list do the same with the list. -/
theorem foldlM_congr_of_mem {m : Type → Type} [Monad m] {f g : β → α → m β}
    {items : List α} (h : ∀ item ∈ items, ∀ acc, f acc item = g acc item) (acc : β) :
    items.foldlM f acc = items.foldlM g acc := by
  induction items generalizing acc with
  | nil => rfl
  | cons item items ih =>
      obtain ⟨hitem, hitems⟩ := List.forall_mem_cons.mp h
      rw [List.foldlM_cons, List.foldlM_cons, hitem acc]
      exact congrArg _ (funext fun next => ih hitems next)

theorem foldlM_ok_of_step {f : β → α → Except ε β} {P : β → Prop} {items : List α}
    (hstep : ∀ acc item next, item ∈ items → P acc → f acc item = .ok next → P next)
    {acc result : β} (hacc : P acc) (h : items.foldlM f acc = .ok result) : P result := by
  induction items generalizing acc with
  | nil =>
      cases h
      exact hacc
  | cons item items ih =>
      rw [List.foldlM_cons] at h
      cases hitem : f acc item with
      | error error =>
          rw [hitem] at h
          cases h
      | ok next =>
          rw [hitem] at h
          have hnext := hstep acc item next List.mem_cons_self hacc hitem
          exact ih (fun acc item next hmem => hstep acc item next (List.mem_cons_of_mem _ hmem))
            hnext h

/-- As `foldlM_ok_of_step`, with what is kept depending on the items that are done. -/
theorem foldlM_ok_of_done {f : β → α → Except ε β} {P : List α → β → Prop} {items : List α}
    (hstep : ∀ done item rest acc next, items = done ++ item :: rest → P done acc →
      f acc item = .ok next → P (done ++ [item]) next)
    {acc result : β} (hacc : P [] acc) (h : items.foldlM f acc = .ok result) : P items result := by
  have hall : ∀ done rest acc, items = done ++ rest → P done acc →
      rest.foldlM f acc = .ok result → P items result := by
    intro done rest
    induction rest generalizing done with
    | nil =>
        intro acc hitems hdone hrest
        cases hrest
        rwa [hitems, List.append_nil]
    | cons item rest ih =>
        intro acc hitems hdone hrest
        rw [List.foldlM_cons] at hrest
        cases hitem : f acc item with
        | error error =>
            rw [hitem] at hrest
            cases hrest
        | ok next =>
            rw [hitem] at hrest
            refine ih (done ++ [item]) next ?_ (hstep done item rest acc next hitems hdone hitem) hrest
            rw [hitems, List.append_assoc, List.singleton_append]
  exact hall [] items acc rfl hacc h

/-- What went well has no fault. -/
theorem eq_none_of_ok {result : Except ε α} {fault : Option ε}
    (hfault : ∀ error, result = .error error ↔ fault = some error) {a : α} (h : result = .ok a) :
    fault = none := by
  rw [Option.eq_none_iff_forall_ne_some]
  intro error herror
  cases h.symm.trans ((hfault error).mpr herror)

theorem foldlM_eq_error_iff {f : β → α → Except ε β} {fault : α → Option ε}
    (hfault : ∀ acc item error, f acc item = .error error ↔ fault item = some error)
    {items : List α} {acc : β} {error : ε} :
    items.foldlM f acc = .error error ↔ ∃ before item after, items = before ++ item :: after ∧
      (∀ other ∈ before, fault other = none) ∧ fault item = some error := by
  induction items generalizing acc with
  | nil => simp [pure, Except.pure]
  | cons item items ih =>
      rw [List.foldlM_cons]
      cases hitem : f acc item with
      | error found =>
          have hfound := (hfault acc item found).mp hitem
          constructor
          · intro h
            cases h
            exact ⟨[], item, items, rfl, List.forall_mem_nil _, hfound⟩
          · rintro ⟨before, other, after, hitems, hbefore, hother⟩
            cases before with
            | nil =>
                cases hitems
                rw [hfound] at hother
                cases hother
                rfl
            | cons first before =>
                cases hitems
                have hnone := hbefore item List.mem_cons_self
                rw [hfound] at hnone
                cases hnone
      | ok next =>
          have hnone := eq_none_of_ok (hfault acc item) hitem
          refine Iff.trans ih ?_
          constructor
          · rintro ⟨before, other, after, rfl, hbefore, hother⟩
            exact ⟨item :: before, other, after, rfl, List.forall_mem_cons.mpr ⟨hnone, hbefore⟩,
              hother⟩
          · rintro ⟨before, other, after, hitems, hbefore, hother⟩
            cases before with
            | nil =>
                cases hitems
                rw [hnone] at hother
                cases hother
            | cons first before =>
                cases hitems
                exact ⟨before, other, after, rfl, (List.forall_mem_cons.mp hbefore).2, hother⟩

theorem exists_foldlM_eq_ok_iff {f : β → α → Except ε β} {fault : α → Option ε}
    (hfault : ∀ acc item error, f acc item = .error error ↔ fault item = some error)
    {items : List α} {acc : β} :
    (∃ result, items.foldlM f acc = .ok result) ↔ ∀ item ∈ items, fault item = none := by
  induction items generalizing acc with
  | nil => simp [pure, Except.pure]
  | cons item items ih =>
      rw [List.foldlM_cons, List.forall_mem_cons]
      cases hitem : f acc item with
      | error found =>
          have hfound := (hfault acc item found).mp hitem
          constructor
          · rintro ⟨result, h⟩
            cases h
          · rintro ⟨hnone, -⟩
            rw [hfound] at hnone
            cases hnone
      | ok next =>
          have hnone := eq_none_of_ok (hfault acc item) hitem
          exact Iff.trans ih (and_iff_right hnone).symm

theorem exists_mem_of_mem_mapM {f : α → Except ε β} {items : List α} {results : List β}
    (h : items.mapM f = .ok results) {result : β} (hresult : result ∈ results) :
    ∃ item ∈ items, f item = .ok result := by
  induction items generalizing results with
  | nil =>
      cases h
      cases hresult
  | cons item items ih =>
      rw [List.mapM_cons] at h
      cases hitem : f item with
      | error error =>
          rw [hitem] at h
          cases h
      | ok first =>
          cases hrest : items.mapM f with
          | error error =>
              rw [hitem, hrest] at h
              cases h
          | ok rest =>
              rw [hitem, hrest] at h
              cases h
              rcases List.mem_cons.mp hresult with rfl | hresult
              · exact ⟨item, List.mem_cons_self, hitem⟩
              · obtain ⟨other, hother, hok⟩ := ih hrest hresult
                exact ⟨other, List.mem_cons_of_mem _ hother, hok⟩

theorem mapM_eq_ok_iff {f : α → Except ε β} {items : List α} {results : List β} :
    items.mapM f = .ok results ↔
      List.Forall₂ (fun item result => f item = .ok result) items results := by
  induction items generalizing results with
  | nil =>
      rw [List.mapM_nil, List.forall₂_nil_left_iff]
      exact ⟨fun h => (Except.ok.inj h).symm, fun h => congrArg Except.ok h.symm⟩
  | cons item items ih =>
      rw [List.mapM_cons, List.forall₂_cons_left_iff]
      cases hitem : f item with
      | error error =>
          constructor
          · nofun
          · rintro ⟨_, _, ⟨⟩, _⟩
      | ok first =>
          cases hrest : items.mapM f with
          | error error =>
              constructor
              · nofun
              · rintro ⟨_, rest, -, hall, -⟩
                rw [ih.mpr hall] at hrest
                cases hrest
          | ok rest =>
              constructor
              · rintro ⟨⟩
                exact ⟨first, rest, rfl, ih.mp hrest, rfl⟩
              · rintro ⟨_, others, ⟨⟩, hall, rfl⟩
                rw [ih.mpr hall] at hrest
                cases hrest
                rfl

/-- Running a function on every item fails as it does on the first item on which it fails. -/
theorem mapM_eq_error_iff {f : α → Except ε β} {fault : α → Option ε}
    (hfault : ∀ item error, f item = .error error ↔ fault item = some error)
    {items : List α} {error : ε} :
    items.mapM f = .error error ↔ items.findSome? fault = some error := by
  induction items with
  | nil => exact ⟨nofun, nofun⟩
  | cons item items ih =>
      rw [List.mapM_cons, List.findSome?_cons]
      cases hitem : f item with
      | error found =>
          rw [(hfault item found).mp hitem]
          exact ⟨fun h => congrArg some (Except.error.inj h),
            fun h => congrArg Except.error (Option.some.inj h)⟩
      | ok first =>
          rw [eq_none_of_ok (hfault item) hitem, ← ih]
          cases items.mapM f with
          | error error => exact Iff.rfl
          | ok rest => exact ⟨nofun, nofun⟩

end AccessControl
