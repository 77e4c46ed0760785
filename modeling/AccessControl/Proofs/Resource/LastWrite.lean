import AccessControl.Proofs.Entries
import AccessControl.Proofs.Resource.Mapper
import AccessControl.Proofs.Steps

/-!
# The last mapper that writes a key

What a built-in mapper writes, and whether it fails, does not depend on what the mappers before it
have written. So a chain can be read off what each of its mappers gathers as a chain of its own: it
fails at the first mapper that fails, and under each key stands the whole value of the last mapper
that gathers one there.
-/

namespace AccessControl.Resource

def Mapper.alone (mapper : Mapper) (call : Call) : Except ResourceError Resource :=
  Chain.build [mapper] call

def Mapper.Gathers (mapper : Mapper) (call : Call) (key : String) (value : Json) : Prop :=
  ∃ own, mapper.alone call = .ok own ∧ own.get? key = some value

def Mapper.ReadsMessage : Mapper → Prop
  | .fields _ => True
  | .fieldsByMethod _ _ => True
  | _ => False

def Mapper.write (call : Call) (resource : Resource) (mapper : Mapper) :
    Except ResourceError Resource :=
  (mapper.extract call).map fun entries => Entries.putAll resource entries

def Mapper.fault? (call : Call) (mapper : Mapper) : Option ResourceError :=
  match mapper.extract call with
  | .error error => some error
  | .ok _ => none

/-- What a mapper extracts under a key, the last of several values. -/
def Mapper.written? (call : Call) (key : String) (mapper : Mapper) : Option Json :=
  match mapper.extract call with
  | .error _ => none
  | .ok entries => (Entries.ofList entries).get? key

variable {call : Call}

theorem Chain.build_eq_foldlM_write {chain : Chain} (hbuiltIn : ∀ mapper ∈ chain, mapper.IsBuiltIn)
    (call : Call) : chain.build call = chain.foldlM (Mapper.write call) [] := by
  refine foldlM_congr_of_mem ?_ []
  intro mapper hmapper resource
  cases mapper with
  | custom f => exact absurd (hbuiltIn _ hmapper) id
  | _ => rfl

theorem Mapper.write_eq_error_iff (resource : Resource) (mapper : Mapper) (error : ResourceError) :
    mapper.write call resource = .error error ↔ mapper.fault? call = some error := by
  unfold write fault?
  cases mapper.extract call <;> simp [Except.map]

theorem Mapper.get?_write {resource next : Resource} {mapper : Mapper}
    (h : mapper.write call resource = .ok next) (key : String) :
    next.get? key = (mapper.written? call key).or (resource.get? key) := by
  unfold write at h
  unfold written?
  cases hextract : mapper.extract call with
  | error error =>
      rw [hextract] at h
      cases h
  | ok entries =>
      rw [hextract] at h
      cases h
      exact Entries.get?_putAll resource entries key

theorem Mapper.sorted_write {resource next : Resource} {mapper : Mapper}
    (h : mapper.write call resource = .ok next) (hresource : Entries.Sorted resource) :
    Entries.Sorted next := by
  unfold write at h
  cases hextract : mapper.extract call with
  | error error =>
      rw [hextract] at h
      cases h
  | ok entries =>
      rw [hextract] at h
      cases h
      exact hresource.putAll entries

theorem Mapper.alone_eq {mapper : Mapper} (hbuiltIn : mapper.IsBuiltIn) (call : Call) :
    mapper.alone call = (mapper.extract call).map Entries.ofList := by
  rw [alone, Chain.build_eq_foldlM_write (by simpa using hbuiltIn), List.foldlM_cons]
  unfold write
  cases mapper.extract call <;> rfl

theorem Mapper.alone_eq_error_iff {mapper : Mapper} (hbuiltIn : mapper.IsBuiltIn)
    (error : ResourceError) :
    mapper.alone call = .error error ↔ mapper.fault? call = some error := by
  rw [alone_eq hbuiltIn, fault?]
  cases mapper.extract call <;> simp [Except.map]

theorem Mapper.exists_alone_eq_ok_iff {mapper : Mapper} (hbuiltIn : mapper.IsBuiltIn) :
    (∃ own, mapper.alone call = .ok own) ↔ mapper.fault? call = none := by
  rw [alone_eq hbuiltIn, fault?]
  cases mapper.extract call <;> simp [Except.map]

theorem Mapper.gathers_iff {mapper : Mapper} (hbuiltIn : mapper.IsBuiltIn) (key : String)
    (value : Json) : mapper.Gathers call key value ↔ mapper.written? call key = some value := by
  rw [Gathers, alone_eq hbuiltIn, written?]
  cases mapper.extract call <;> simp [Except.map]

theorem Mapper.forall_not_gathers_iff {mapper : Mapper} (hbuiltIn : mapper.IsBuiltIn)
    (key : String) :
    (∀ value, ¬mapper.Gathers call key value) ↔ mapper.written? call key = none := by
  simp only [gathers_iff hbuiltIn, Option.eq_none_iff_forall_ne_some]

/-! ## Chains -/

section Chain

variable {chain : Chain} (hbuiltIn : ∀ mapper ∈ chain, mapper.IsBuiltIn)

include hbuiltIn

theorem Chain.isBuiltIn_of_split {before after : Chain} {mapper : Mapper}
    (hsplit : chain = before ++ mapper :: after) :
    (∀ earlier ∈ before, earlier.IsBuiltIn) ∧ mapper.IsBuiltIn ∧
      ∀ later ∈ after, later.IsBuiltIn := by
  subst hsplit
  obtain ⟨hbefore, hrest⟩ := List.forall_mem_append.mp hbuiltIn
  exact ⟨hbefore, List.forall_mem_cons.mp hrest⟩

theorem Chain.exists_build_eq_ok_iff (call : Call) :
    (∃ resource, chain.build call = .ok resource) ↔
      ∀ mapper ∈ chain, ∃ own, mapper.alone call = .ok own := by
  rw [build_eq_foldlM_write hbuiltIn, exists_foldlM_eq_ok_iff Mapper.write_eq_error_iff]
  exact forall₂_congr fun mapper hmapper =>
    (Mapper.exists_alone_eq_ok_iff (hbuiltIn mapper hmapper)).symm

theorem Chain.build_eq_error_iff (call : Call) (error : ResourceError) :
    chain.build call = .error error ↔
      ∃ before mapper after, chain = before ++ mapper :: after ∧
        (∀ earlier ∈ before, ∃ own, earlier.alone call = .ok own) ∧
        mapper.alone call = .error error := by
  rw [build_eq_foldlM_write hbuiltIn, foldlM_eq_error_iff Mapper.write_eq_error_iff]
  refine exists₃_congr fun before mapper after => and_congr_right fun hsplit => ?_
  obtain ⟨hbefore, hmapper, -⟩ := isBuiltIn_of_split hbuiltIn hsplit
  rw [Mapper.alone_eq_error_iff hmapper]
  refine and_congr_left fun _ => forall₂_congr fun earlier hearlier => ?_
  exact (Mapper.exists_alone_eq_ok_iff (hbefore earlier hearlier)).symm

variable {resource : Resource} (hresource : chain.build call = .ok resource)

include hresource

/-- Keys are written in order, each with what the last mapper has for it. -/
theorem Chain.written_of_build : Entries.Sorted resource ∧
    ∀ key, resource.get? key = lastSet (Mapper.written? call key) chain := by
  rw [build_eq_foldlM_write hbuiltIn] at hresource
  refine foldlM_ok_of_done (P := fun done resource => Entries.Sorted resource ∧
    ∀ key, resource.get? key = lastSet (Mapper.written? call key) done) ?_ ?_ hresource
  · intro done mapper rest resource next _ hdone hnext
    refine ⟨mapper.sorted_write hnext hdone.1, fun key => ?_⟩
    rw [mapper.get?_write hnext, hdone.2, lastSet_append_singleton]
  · exact ⟨List.Pairwise.nil, fun _ => rfl⟩

theorem Chain.get?_eq_some_iff_of_build (key : String) (value : Json) :
    Entries.get? resource key = some value ↔
      ∃ before mapper after, chain = before ++ mapper :: after ∧
        mapper.Gathers call key value ∧
        ∀ later ∈ after, ∀ other, ¬later.Gathers call key other := by
  rw [(written_of_build hbuiltIn hresource).2, lastSet_eq_some_iff]
  refine exists₃_congr fun before mapper after => and_congr_right fun hsplit => ?_
  obtain ⟨-, hmapper, hafter⟩ := isBuiltIn_of_split hbuiltIn hsplit
  rw [Mapper.gathers_iff hmapper]
  refine and_congr_right fun _ => forall₂_congr fun later hlater => ?_
  exact (Mapper.forall_not_gathers_iff (hafter later hlater) key).symm

theorem Chain.mem_keys_iff_of_build (key : String) :
    key ∈ resource.map Prod.fst ↔ ∃ mapper ∈ chain, ∃ value, mapper.Gathers call key value := by
  obtain ⟨hsorted, hget⟩ := written_of_build hbuiltIn hresource
  have hkeys := Entries.isSome_get?_ofList_iff resource key
  rw [hsorted.ofList_eq_of_perm (.refl _)] at hkeys
  rw [← hkeys, ← Option.ne_none_iff_isSome, hget, ne_eq, lastSet_eq_none_iff]
  push Not
  refine exists_congr fun mapper => and_congr_right fun hmapper => ?_
  rw [ne_eq, ← Mapper.forall_not_gathers_iff (hbuiltIn mapper hmapper), not_forall_not]

end Chain

/-! ## Mappers of message fields -/

theorem Mapper.alone_of_no_message {mapper : Mapper} (hreads : mapper.ReadsMessage)
    (hmessage : call.message = none) : mapper.alone call = .ok [] := by
  have hnothing : ∀ mask, messageFields mask call = .ok [] := by
    intro mask
    simp only [messageFields, hmessage]
  cases mapper with
  | fields mask =>
      rw [alone_eq (by trivial), extract, hnothing]
      rfl
  | fieldsByMethod masks default =>
      rw [alone_eq (by trivial), extract, hnothing]
      rfl
  | _ => exact absurd hreads id

theorem maskFor_append_cons {method : String} {after : List (String × FieldMask)}
    (h : ∀ entry ∈ after, entry.1 ≠ method) (before : List (String × FieldMask))
    (mask default : FieldMask) :
    maskFor (before ++ (method, mask) :: after) default method = mask := by
  have hafter : (after.reverse.find? fun entry => entry.1 == method) = none := by
    simpa using h
  have hlast : (before ++ (method, mask) :: after).reverse =
      after.reverse ++ (method, mask) :: before.reverse := by simp
  rw [maskFor, hlast, List.find?_append, hafter, Option.none_or, List.find?_cons_of_pos]
  exact beq_self_eq_true method

theorem maskFor_of_not_listed {method : String} {masks : List (String × FieldMask)}
    (h : ∀ entry ∈ masks, entry.1 ≠ method) (default : FieldMask) :
    maskFor masks default method = default := by
  have hnone : (masks.reverse.find? fun entry => entry.1 == method) = none := by
    simpa using h
  rw [maskFor, hnone]

theorem Mapper.alone_fieldsByMethod (masks : List (String × FieldMask)) (default : FieldMask) :
    (fieldsByMethod masks default).alone call =
      (fields (maskFor masks default call.method)).alone call := by
  rw [alone_eq (by trivial), alone_eq (by trivial), extract, extract]

/-- A chain of built-in mappers fails at the first mapper that fails by itself. Otherwise it gathers
under each key the whole value that the last mapper with a value for that key gathers by itself, and
nothing else. A mapper of message fields gathers nothing without a message; by method it uses the
mask that is listed last for the method of the call, and the default one if none is listed. -/
theorem Chain.build_last_write_wins {chain : Chain}
    (hbuiltIn : ∀ mapper ∈ chain, mapper.IsBuiltIn) (call : Call) :
    ((∃ resource, chain.build call = .ok resource) ↔
      ∀ mapper ∈ chain, ∃ own, mapper.alone call = .ok own) ∧
    (∀ error, chain.build call = .error error ↔
      ∃ before mapper after, chain = before ++ mapper :: after ∧
        (∀ earlier ∈ before, ∃ own, earlier.alone call = .ok own) ∧
        mapper.alone call = .error error) ∧
    (∀ resource, chain.build call = .ok resource →
      (resource.map Prod.fst).Nodup ∧
      (∀ key, key ∈ resource.map Prod.fst ↔
        ∃ mapper ∈ chain, ∃ value, mapper.Gathers call key value) ∧
      ∀ key value, (key, value) ∈ resource ↔
        ∃ before mapper after, chain = before ++ mapper :: after ∧
          mapper.Gathers call key value ∧
          ∀ later ∈ after, ∀ other, ¬later.Gathers call key other) ∧
    (call.message = none → ∀ mapper : Mapper, mapper.ReadsMessage → mapper.alone call = .ok []) ∧
    ∀ masks default,
      (∀ before mask after, masks = before ++ (call.method, mask) :: after →
        (∀ entry ∈ after, entry.1 ≠ call.method) →
          (Mapper.fieldsByMethod masks default).alone call = (Mapper.fields mask).alone call) ∧
      ((∀ entry ∈ masks, entry.1 ≠ call.method) →
        (Mapper.fieldsByMethod masks default).alone call =
          (Mapper.fields default).alone call) := by
  refine ⟨exists_build_eq_ok_iff hbuiltIn call, build_eq_error_iff hbuiltIn call, ?_,
    fun hmessage mapper hreads => mapper.alone_of_no_message hreads hmessage, ?_⟩
  · intro resource hresource
    have hnodup := (written_of_build hbuiltIn hresource).1.nodup_keys
    refine ⟨hnodup, mem_keys_iff_of_build hbuiltIn hresource, fun key value => ?_⟩
    rw [← Entries.get?_eq_some_iff_mem hnodup]
    exact get?_eq_some_iff_of_build hbuiltIn hresource key value
  · intro masks default
    refine ⟨?_, fun hmasks => ?_⟩
    · rintro before mask after rfl hafter
      rw [Mapper.alone_fieldsByMethod, maskFor_append_cons hafter]
    · rw [Mapper.alone_fieldsByMethod, maskFor_of_not_listed hmasks]

/-- A context value takes the place of an object from the message, which is not merged with it; and
the mask for the method writes over a path parameter. -/
theorem Chain.build_last_write_wins_for_product :
    let rename : Mapper := .fieldsByMethod [("/shop.Products/Rename", ⟨[["name"]], false⟩),
      ("/shop.Products/Rename", ⟨[["name"], ["product", "type"]], false⟩)] ⟨[["secret"]], false⟩
    let product : Mapper := .context "product" "product"
    let book : Json := .object [("id", .string "42")]
    let message : Json := .object [("name", .string "guide"),
      ("product", .object [("price", Json.ofInt 3), ("type", .string "widget")])]
    let call : Call := ((Call.ofDecoded "/shop.Products/Rename" []
      ⟨some [("product", book)], none⟩).withMessage message).withRoute ⟨none, [("name", "42")]⟩
    (∀ mapper ∈ [.pathParams, rename, product], mapper.IsBuiltIn) ∧
      ∃ resource, Chain.build [.pathParams, rename, product] call = .ok resource ∧
        ("product", book) ∈ resource ∧ ("name", .string "guide") ∈ resource := by
  intro rename product book message call
  have hbuiltIn : ∀ mapper ∈ [.pathParams, rename, product], mapper.IsBuiltIn := by
    simp [rename, product, Mapper.IsBuiltIn]
  have hrename : rename.alone call = .ok [("name", .string "guide"),
      ("product", .object [("type", .string "widget")])] := by
    have hmask : maskFor [("/shop.Products/Rename", ⟨[["name"]], false⟩),
        ("/shop.Products/Rename", ⟨[["name"], ["product", "type"]], false⟩)] ⟨[["secret"]], false⟩
        call.method = ⟨[["name"], ["product", "type"]], false⟩ := rfl
    rw [Mapper.alone_fieldsByMethod, hmask, Mapper.alone_eq (by trivial), Mapper.extract,
      messageFields]
    simp only [call, message, Call.withRoute, Call.withMessage, FieldMask.select, Bool.false_eq_true,
      ↓reduceIte, List.foldlM_cons, List.foldlM_nil, bind_pure, FieldMask.selectPath, Entries.get?,
      FieldMask.merge, FieldMask.mergeValue, Entries.put, String.reduceEq, Except.map,
      Except.mapError]
    rfl
  obtain ⟨hok, -, hvalues, -, -⟩ := build_last_write_wins hbuiltIn call
  obtain ⟨resource, hresource⟩ := hok.mpr <| by
    simp only [List.forall_mem_cons]
    exact ⟨⟨_, rfl⟩, ⟨_, hrename⟩, ⟨_, rfl⟩, List.forall_mem_nil _⟩
  have hmem := (hvalues resource hresource).2.2
  refine ⟨hbuiltIn, resource, hresource, (hmem _ _).mpr ?_, (hmem _ _).mpr ?_⟩
  · exact ⟨[.pathParams, rename], product, [], rfl, ⟨_, rfl, rfl⟩, List.forall_mem_nil _⟩
  · refine ⟨[.pathParams], rename, [product], rfl, ⟨_, hrename, rfl⟩, ?_⟩
    simp only [List.forall_mem_singleton]
    rintro other ⟨own, hproduct, hname⟩
    cases hproduct
    cases hname

end AccessControl.Resource
