import AccessControl.Identity.Basic
import AccessControl.Policy.Basic

/-!
# Queries to an authorizer

A query asks for some decisions of the policy module at a path, for an identity and a resource.
The answer lists decisions with their outcomes. `Query.of` builds the query of a policy, which asks
for exactly one decision. Queries and answers have a JSON form, in which the instance may be
absent and the resource may be left out.
-/

namespace AccessControl

open Json.Document (required withDefault text? bool? list? nullable)

/-- What a call acts on, as attributes for the policy. -/
abbrev Resource := Entries Json

structure Query where
  identity : Identity
  path : String
  decisions : List String
  resource : Resource
  inst : Option Policy.Instance
deriving Inhabited

structure Decision where
  name : String
  holds : Bool
deriving DecidableEq, Inhabited

structure Answer where
  decisions : List Decision
deriving DecidableEq, Inhabited

namespace Query

def of (identity : Identity) (policy : Policy) (path : String) (resource : Resource) : Query :=
  ⟨identity, path, [policy.decision], resource, some policy.loaded⟩

def moduleJson (path : String) (decisions : List String) : Json :=
  .object [("path", .string path), ("decisions", Json.ofStrings decisions)]

/-- Reads the module path and the decisions; both may be missing. -/
def module? (doc : Json.Document) : Option (String × List String) :=
  match doc.fields? ["path", "decisions"] false with
  | some [path, decisions] =>
    match withDefault text? "" path,
      withDefault (list? text?) [] decisions with
    | some path, some decisions => some (path, decisions)
    | _, _ => none
  | _ => none

/-- Reads a resource that nests at most `depth` deep. -/
def resourceWithin (depth : Nat) : Json.Document → Option Resource
  | .object members =>
    match Json.Document.valueWithin depth (.object members) with
    | some (.object entries) => some entries
    | _ => none
  | _ => none

def toJson (query : Query) : Json :=
  .object ([("identityContext", query.identity.toJson),
    ("policyContext", moduleJson query.path query.decisions),
    ("resourceContext", .object query.resource)] ++
  match query.inst with
  | none => []
  | some inst => [("policyInstance", inst.toJson)])

/-- Reads the JSON form, at most `depth` deep; the resource stands one level deep in it. Identity
and module must be there. -/
def readWithin (depth : Nat) (doc : Json.Document) : Option Query :=
  match doc.fields? ["identityContext", "policyContext", "resourceContext", "policyInstance"]
      false with
  | some [identity, context, resource, inst] =>
    match required Identity.read? identity,
      required module? context,
      withDefault (resourceWithin (depth - 1)) [] resource,
      withDefault (nullable Policy.Instance.read?) none inst with
    | some identity, some (path, decisions), some resource, some inst =>
      some ⟨identity, path, decisions, resource, inst⟩
    | _, _, _, _ => none
  | _ => none

def read? (doc : Json.Document) : Option Query := readWithin Json.Document.maxDepth doc

end Query

namespace Decision

def toJson (decision : Decision) : Json :=
  .object [("decision", .string decision.name), ("is", .bool decision.holds)]

/-- Reads the JSON form; a missing outcome is false. -/
def read? (doc : Json.Document) : Option Decision :=
  match doc.fields? ["decision", "is"] false with
  | some [name, holds] =>
    match required text? name,
      withDefault bool? false holds with
    | some name, some holds => some ⟨name, holds⟩
    | _, _ => none
  | _ => none

end Decision

namespace Answer

def single (name : String) (holds : Bool) : Answer := ⟨[⟨name, holds⟩]⟩

def toJson (answer : Answer) : Json :=
  .object [("decisions", .array (answer.decisions.map Decision.toJson))]

/-- Reads the JSON form; a missing list is empty. -/
def read? (doc : Json.Document) : Option Answer :=
  match doc.fields? ["decisions"] false with
  | some [decisions] =>
    (withDefault (list? Decision.read?) [] decisions).map Answer.mk
  | _ => none

end Answer

end AccessControl
