import AccessControl.Proofs.Middleware.Builder
import AccessControl.Proofs.Steps
import AccessControl.Proofs.Text.Lowercase
import AccessControl.Proofs.Text.Split

/-!
# What the allow-list exempts

The two kinds of listing steps accumulate, and no other step adds to the list. An entry that starts
with a slash, or that was listed as allowed, exempts the gRPC method that it spells. Any other
ignored entry exempts the methods whose dotted form it spells in some case. Dots and case are all
that the dotted form loses: the last dot shows where the name of a method starts, so one entry never
exempts two methods that differ in more than the case of letters.
-/

namespace AccessControl

/-- A gRPC method in ASCII, made of a service and a name. Only the service may have dots. -/
structure RpcMethod where
  service : List Char
  name : List Char
  service_ne_nil : service ≠ []
  name_ne_nil : name ≠ []
  slash_notMem_service : '/' ∉ service
  slash_notMem_name : '/' ∉ name
  dot_notMem_name : '.' ∉ name
  ascii : ∀ c ∈ service ++ name, c.toNat < 128

namespace RpcMethod

def path (method : RpcMethod) : String :=
  String.ofList ('/' :: method.service ++ '/' :: method.name)

theorem toList_path (method : RpcMethod) :
    method.path.toList = '/' :: (method.service ++ '/' :: method.name) := by
  simp [path]

theorem dropWhile_slash_append {cs : List Char} (hne : cs ≠ []) (hslash : '/' ∉ cs)
    (rest : List Char) : (cs ++ rest).dropWhile (· == '/') = cs ++ rest := by
  obtain ⟨c, cs, rfl⟩ := List.exists_cons_of_ne_nil hne
  have hc : ¬ (c == '/') = true := by
    rw [beq_iff_eq]
    rintro rfl
    exact hslash List.mem_cons_self
  exact List.dropWhile_cons_of_neg hc

theorem trimEnds_path (method : RpcMethod) :
    Text.trimEnds (· == '/') method.path.toList = method.service ++ '/' :: method.name := by
  have hname : method.name.reverse ≠ [] := by simpa using method.name_ne_nil
  have hslash : '/' ∉ method.name.reverse := by simpa using method.slash_notMem_name
  rw [Text.trimEnds, toList_path, List.dropWhile_cons_of_pos (by rfl),
    dropWhile_slash_append method.service_ne_nil method.slash_notMem_service,
    List.reverse_append, List.reverse_cons, List.append_assoc,
    dropWhile_slash_append hname hslash]
  simp

theorem map_slash_to_dot {cs : List Char} (hslash : '/' ∉ cs) :
    cs.map (fun c => if c = '/' then '.' else c) = cs := by
  refine (List.map_congr_left ?_).trans (List.map_id' cs)
  intro c hc
  have hne : c ≠ '/' := fun h => hslash (h ▸ hc)
  exact if_neg hne

theorem toList_dottedMethod_path (method : RpcMethod) :
    (Policy.dottedMethod method.path).toList = method.service ++ '.' :: method.name := by
  rw [Policy.dottedMethod, String.toList_ofList, trimEnds_path, List.map_append, List.map_cons,
    map_slash_to_dot method.slash_notMem_service, map_slash_to_dot method.slash_notMem_name]
  rfl

theorem toList_lowercase_dottedMethod_path (method : RpcMethod) :
    (Text.lowercase (Policy.dottedMethod method.path)).toList =
      method.service.map Char.toLower ++ '.' :: method.name.map Char.toLower := by
  have hascii : ∀ c ∈ (Policy.dottedMethod method.path).toList, c.toNat < 128 := by
    intro c hc
    rw [toList_dottedMethod_path, List.mem_append, List.mem_cons] at hc
    rcases hc with hc | rfl | hc
    · exact method.ascii c (List.mem_append_left _ hc)
    · decide
    · exact method.ascii c (List.mem_append_right _ hc)
  rw [Text.lowercase_of_ascii hascii, Text.asciiLowercase, String.toList_ofList,
    toList_dottedMethod_path, List.map_append, List.map_cons]
  rfl

/-- Methods with one dotted form up to case are one method up to case. -/
theorem eqIgnoringCase_of_lowercase_dottedMethod_eq {method other : RpcMethod}
    (h : Text.lowercase (Policy.dottedMethod method.path) =
      Text.lowercase (Policy.dottedMethod other.path)) :
    Text.eqIgnoringCase method.path other.path = true := by
  have hnodot : ∀ m : RpcMethod, '.' ∉ m.name.map Char.toLower := by
    intro m hdot
    obtain ⟨c, hc, hlower⟩ := List.mem_map.mp hdot
    exact m.dot_notMem_name (Text.toLower_eq_dot hlower ▸ hc)
  have hlists := congrArg String.toList h
  rw [toList_lowercase_dottedMethod_path, toList_lowercase_dottedMethod_path] at hlists
  obtain ⟨hservice, hname⟩ :=
    Text.append_cons_inj_of_notMem_right (hnodot method) (hnodot other) hlists
  rw [Text.eqIgnoringCase, beq_iff_eq, Text.asciiLowercase, Text.asciiLowercase, toList_path,
    toList_path]
  simp [hservice, hname]

end RpcMethod

namespace Middleware

def allowedOf (steps : List Step) : List String := steps.flatMap Step.allowed

def ignoredOf (steps : List Step) : List String := steps.flatMap Step.ignored

/-- Whether an entry, without the dots at its ends, is the dotted form of a method in some case. -/
def MatchesDotted (entry method : String) : Prop :=
  Text.lowercase (Text.trimChar '.' entry) = Text.lowercase (Policy.dottedMethod method)

instance (entry method : String) : Decidable (MatchesDotted entry method) :=
  inferInstanceAs (Decidable (_ = _))

/-- A step adds its own entries to the lists and drops none. -/
theorem Draft.lists_step (draft : Draft) (s : Step) :
    (draft.step s).middleware.allowedMethods =
        draft.middleware.allowedMethods ++ (s.allowed ++ s.ignored.filter isExact) ∧
      (draft.step s).middleware.ignoredPaths =
        draft.middleware.ignoredPaths ++ (s.ignored.filter (!isExact ·)).map ignoredForm := by
  rw [step_eq]
  exact ⟨rfl, rfl⟩

theorem Draft.lists_foldl (steps : List Step) (draft : Draft) :
    (steps.foldl Draft.step draft).middleware.allowedMethods =
        draft.middleware.allowedMethods ++
          steps.flatMap (fun s => s.allowed ++ s.ignored.filter isExact) ∧
      (steps.foldl Draft.step draft).middleware.ignoredPaths =
        draft.middleware.ignoredPaths ++
          steps.flatMap (fun s => (s.ignored.filter (!isExact ·)).map ignoredForm) := by
  exact ⟨appended_slot_foldl (fun draft : Draft => draft.middleware.allowedMethods)
      (fun draft s => (draft.lists_step s).1) steps draft,
    appended_slot_foldl (fun draft : Draft => draft.middleware.ignoredPaths)
      (fun draft s => (draft.lists_step s).2) steps draft⟩

theorem mem_allowedMethods_of_build_iff {policy : Policy} {steps : List Step}
    {middleware : Middleware} (built : build policy steps = .ok middleware) (method : String) :
    method ∈ middleware.allowedMethods ↔
      method ∈ allowedOf steps ∨ method ∈ ignoredOf steps ∧ isExact method = true := by
  obtain ⟨-, -, -, rfl⟩ := ((Draft.ofSteps policy steps).finish_eq_ok_iff middleware).mp built
  rw [Draft.ofSteps, (Draft.lists_foldl steps _).1, Draft.start, List.nil_append]
  simp only [allowedOf, ignoredOf, List.mem_flatMap, List.mem_append, List.mem_filter, and_or_left,
    exists_or, ← and_assoc, exists_and_right]

theorem mem_ignoredPaths_of_build_iff {policy : Policy} {steps : List Step}
    {middleware : Middleware} (built : build policy steps = .ok middleware) (form : String) :
    form ∈ middleware.ignoredPaths ↔
      ∃ entry ∈ ignoredOf steps, isExact entry = false ∧ ignoredForm entry = form := by
  obtain ⟨-, -, -, rfl⟩ := ((Draft.ofSteps policy steps).finish_eq_ok_iff middleware).mp built
  rw [Draft.ofSteps, (Draft.lists_foldl steps _).2, Draft.start, List.nil_append]
  simp only [ignoredOf, List.mem_flatMap, List.mem_map, List.mem_filter, Bool.not_eq_true']
  constructor
  · rintro ⟨s, hs, entry, ⟨hentry, hexact⟩, hform⟩
    exact ⟨entry, ⟨s, hs, hentry⟩, hexact, hform⟩
  · rintro ⟨entry, ⟨s, hs, hentry⟩, hexact, hform⟩
    exact ⟨s, hs, entry, ⟨hentry, hexact⟩, hform⟩

/-- The allow-list after any steps. It exempts the gRPC calls whose method is listed, exactly or in
its dotted form, and no other calls; and a dotted entry stands for one method up to case. -/
theorem allows_exactly_listed {policy : Policy} {steps : List Step} {middleware : Middleware}
    (built : build policy steps = .ok middleware) (call : Call) :
    (middleware.allows call = true ↔
      call.kind = .grpc ∧
        (call.method ∈ allowedOf steps ∨
          (call.method ∈ ignoredOf steps ∧ call.method.startsWith "/" = true) ∨
          ∃ entry ∈ ignoredOf steps, entry.startsWith "/" = false ∧
            MatchesDotted entry call.method)) ∧
      (call.kind = .http → middleware.allows call = false) ∧
      ∀ (entry : String) (method other : RpcMethod), MatchesDotted entry method.path →
        MatchesDotted entry other.path → Text.eqIgnoringCase method.path other.path = true := by
  refine ⟨?_, ?_, ?_⟩
  · rw [allows, Bool.and_eq_true, beq_iff_eq, Bool.or_eq_true, List.contains_iff_mem,
      List.contains_iff_mem, mem_allowedMethods_of_build_iff built,
      mem_ignoredPaths_of_build_iff built, or_assoc]
    rfl
  · intro hkind
    rw [allows, hkind]
    rfl
  · intro entry method other hmethod hother
    exact RpcMethod.eqIgnoringCase_of_lowercase_dottedMethod_eq (hmethod.symm.trans hother)

/-- A dotted entry exempts the method that it spells, in whichever case, and no other method of its
service. -/
theorem allows_exactly_listed_for_rename :
    let steps : List Step :=
      [.allowedMethods ["/shop.Products/Get"], .noResource,
        .ignoredMethods ["/shop.Products/List", ".Shop.Products.RENAME."]]
    let call : String → Call := fun method => Call.ofDecoded method [] ⟨none, none⟩
    ∃ (middleware : Middleware) (rename renamed : RpcMethod),
      build (Policy.new "shop" "allowed") steps = .ok middleware ∧
      rename.path = "/shop.Products/Rename" ∧ renamed.path = "/SHOP.products/rename" ∧
      middleware.allows (call "/shop.Products/List") = true ∧
      middleware.allows (call rename.path) = true ∧
      middleware.allows (call "/shop.Products/Delete") = false ∧
      Text.eqIgnoringCase rename.path renamed.path = true := by
  intro steps call
  let rename : RpcMethod := ⟨"shop.Products".toList, "Rename".toList, by simp, by simp,
    by decide +kernel, by decide +kernel, by decide +kernel, by simp⟩
  let renamed : RpcMethod := ⟨"SHOP.products".toList, "rename".toList, by simp, by simp,
    by decide +kernel, by decide +kernel, by decide +kernel, by simp⟩
  have built : build (Policy.new "shop" "allowed") steps =
      .ok (Draft.ofSteps (Policy.new "shop" "allowed") steps).middleware :=
    ((Draft.ofSteps (Policy.new "shop" "allowed") steps).finish_eq_ok_iff _).mpr
      ⟨rfl, by decide, by decide, rfl⟩
  have hallows := fun method => (allows_exactly_listed built (call method)).1
  refine ⟨_, rename, renamed, built, by decide +kernel, by decide +kernel, ?_, ?_, ?_, ?_⟩
  · exact (hallows "/shop.Products/List").mpr (by decide +kernel)
  · exact (hallows rename.path).mpr (by decide +kernel)
  · rw [Bool.eq_false_iff]
    intro hdelete
    exact absurd ((hallows "/shop.Products/Delete").mp hdelete) (by decide +kernel)
  · exact (allows_exactly_listed built (call rename.path)).2.2 ".Shop.Products.RENAME." rename
      renamed (by decide +kernel) (by decide +kernel)

end Middleware

end AccessControl
