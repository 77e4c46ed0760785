import AccessControl.Proofs.Resource.Walk
import AccessControl.Resource.Mapper

/-!
# What resource mappers look at

A built-in mapper adds to the resource what it extracts from the call, whatever the other mappers
have added. So a chain of built-in mappers gives two calls the same resource, or the same error, if
each of its mappers extracts the same from both. For a mapper of message fields that is a question
about the messages, for a mapper of a context value about that value.
-/

namespace AccessControl.Resource

def Mapper.IsBuiltIn : Mapper → Prop
  | .custom _ => False
  | _ => True

def Mapper.masks : Mapper → List FieldMask
  | .fields mask => [mask]
  | .fieldsByMethod masks default => default :: masks.map (·.2)
  | _ => []

def Mapper.contextKeys : Mapper → List String
  | .context key _ => [key]
  | _ => []

def Chain.masks (chain : Chain) : List FieldMask := chain.flatMap Mapper.masks

def Chain.contextKeys (chain : Chain) : List String := chain.flatMap Mapper.contextKeys

/-- Both calls carry no message, or messages in which all of some masks find the same. -/
def MessagesAgree (masks : List FieldMask) : Option Json → Option Json → Prop
  | none, none => True
  | some message, some other => ∀ mask ∈ masks, mask.Agrees message other
  | _, _ => False

theorem MessagesAgree.mono {masks fewer : List FieldMask} (hsubset : fewer ⊆ masks)
    {message other : Option Json} (h : MessagesAgree masks message other) :
    MessagesAgree fewer message other := by
  cases message with
  | none =>
      cases other with
      | none => trivial
      | some other => exact h
  | some message =>
      cases other with
      | none => exact h
      | some other => exact fun mask hmask => h mask (hsubset hmask)

theorem messageFields_congr {mask : FieldMask} (hwildcard : mask.wildcard = false)
    {call other : Call} (h : MessagesAgree [mask] call.message other.message) :
    messageFields mask call = messageFields mask other := by
  unfold messageFields
  cases hmessage : call.message with
  | none =>
      cases hother : other.message with
      | none => rfl
      | some message => simp [hmessage, hother, MessagesAgree] at h
  | some message =>
      cases hother : other.message with
      | none => simp [hmessage, hother, MessagesAgree] at h
      | some message' =>
          rw [hmessage, hother] at h
          exact congrArg (Except.mapError ResourceError.mask)
            (FieldMask.select_congr hwildcard (h mask List.mem_cons_self))

theorem maskFor_mem (masks : List (String × FieldMask)) (default : FieldMask) (method : String) :
    maskFor masks default method ∈ default :: masks.map (·.2) := by
  unfold maskFor
  cases hfound : masks.reverse.find? fun entry => entry.1 == method with
  | none => exact List.mem_cons_self
  | some entry =>
      have hmem : entry ∈ masks := List.mem_reverse.mp (List.mem_of_find?_eq_some hfound)
      exact List.mem_cons_of_mem _ (List.mem_map_of_mem hmem)

/-- A built-in mapper without the wildcard extracts the same from two calls that agree in what it
looks at. -/
theorem Mapper.extract_congr {mapper : Mapper}
    (hwildcard : ∀ mask ∈ mapper.masks, mask.wildcard = false) {call other : Call}
    (hmethod : call.method = other.method)
    (hparams : mapper = .pathParams → call.pathParams = other.pathParams)
    (hcontext : ∀ key ∈ mapper.contextKeys, call.contextValue? key = other.contextValue? key)
    (hmessages : MessagesAgree mapper.masks call.message other.message) :
    mapper.extract call = mapper.extract other := by
  cases mapper with
  | pathParams => rw [extract, extract, hparams rfl]
  | fields mask => exact messageFields_congr (hwildcard mask List.mem_cons_self) hmessages
  | fieldsByMethod masks default =>
      have hmem := maskFor_mem masks default other.method
      rw [extract, extract, hmethod]
      refine messageFields_congr (hwildcard _ hmem) (hmessages.mono ?_)
      exact List.cons_subset.mpr ⟨hmem, List.nil_subset _⟩
  | context key field => rw [extract, extract, hcontext key List.mem_cons_self]
  | custom f => rfl

theorem Mapper.apply_congr {mapper : Mapper} (hbuiltIn : mapper.IsBuiltIn) {call other : Call}
    (h : mapper.extract call = mapper.extract other) (resource : Resource) :
    mapper.apply call resource = mapper.apply other resource := by
  cases mapper with
  | custom f => exact absurd hbuiltIn id
  | _ => exact congrArg (Except.map fun entries => Entries.putAll resource entries) h

theorem Chain.build_congr {chain : Chain} (hbuiltIn : ∀ mapper ∈ chain, mapper.IsBuiltIn)
    {call other : Call} (h : ∀ mapper ∈ chain, mapper.extract call = mapper.extract other) :
    chain.build call = chain.build other := by
  refine foldlM_congr_of_mem ?_ []
  intro mapper hmapper resource
  exact Mapper.apply_congr (hbuiltIn mapper hmapper) (h mapper hmapper) resource

end AccessControl.Resource
