import AccessControl.Call
import AccessControl.Query
import AccessControl.Resource.FieldMask

/-!
# Resource mappers

A mapper extracts attributes from a call. The built-in mappers copy path parameters, masked fields
of the message, or a context value; a custom one may do anything to the attributes gathered so
far. A chain runs its mappers in order, a later one overwriting what an earlier one has set, and
stops at the first failure. Field mappers do nothing for a call without a message.
-/

namespace AccessControl.Resource

inductive Mapper where
  | pathParams
  | fields (mask : FieldMask)
  | fieldsByMethod (masks : List (String × FieldMask)) (default : FieldMask)
  | context (key field : String)
  | custom (f : Call → Resource → Except ResourceError Resource)

def ofParams (params : List (String × String)) : List (String × Json) :=
  params.map fun (name, value) => (name, .string value)

/-- The last mask listed for a method, else the default. -/
def maskFor (masks : List (String × FieldMask)) (default : FieldMask) (method : String) :
    FieldMask :=
  match masks.reverse.find? fun entry => entry.1 == method with
  | some (_, mask) => mask
  | none => default

/-- The fields that a mask selects from the message of a call, none without a message. -/
def messageFields (mask : FieldMask) (call : Call) : Except ResourceError (Entries Json) :=
  match call.message with
  | none => .ok []
  | some message => (mask.select message).mapError .mask

/-- What a built-in mapper contributes by itself; a custom mapper has no such part. -/
def Mapper.extract : Mapper → Call → Except ResourceError (Entries Json)
  | pathParams, call => .ok (ofParams call.pathParams)
  | fields mask, call => messageFields mask call
  | fieldsByMethod masks default, call =>
    messageFields (maskFor masks default call.method) call
  | context key field, call =>
    .ok (match call.contextValue? key with
      | some value => [(field, value)]
      | none => [])
  | custom _, _ => .ok []

def Mapper.apply (mapper : Mapper) (call : Call) (resource : Resource) :
    Except ResourceError Resource :=
  match mapper with
  | custom f => f call resource
  | mapper => (mapper.extract call).map fun entries => Entries.putAll resource entries

abbrev Chain := List Mapper

/-- The chain that copies the path parameters. -/
def Chain.default : Chain := [.pathParams]

def Chain.build (chain : Chain) (call : Call) : Except ResourceError Resource :=
  chain.foldlM (fun resource mapper => mapper.apply call resource) []

end AccessControl.Resource
