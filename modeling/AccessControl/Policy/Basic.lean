import AccessControl.Json.Record

/-!
# Policies

A policy names the rule to be asked for: its name, the path of its module (which may be left to
each call), the decision to evaluate, and the root under which derived paths are put. The instance
that an authorizer has loaded carries the name and a label, which is the name again unless the
policy sets it.
-/

namespace AccessControl

structure Policy where
  name : String
  path : String
  decision : String
  root : String
  instanceLabel : Option String
deriving DecidableEq, Inhabited

/-- A policy loaded on an authorizer. -/
structure Policy.Instance where
  name : String
  label : String
deriving DecidableEq, Inhabited

namespace Policy

open Json.Document (withDefault text? nullable)

def new (name decision : String) : Policy := ⟨name, "", decision, "", none⟩

def loaded (policy : Policy) : Instance :=
  ⟨policy.name, policy.instanceLabel.getD policy.name⟩

def Instance.toJson (inst : Instance) : Json :=
  .object [("name", .string inst.name), ("instanceLabel", .string inst.label)]

/-- Reads the JSON form of an instance; both fields may be missing. -/
def Instance.read? (doc : Json.Document) : Option Instance :=
  match doc.fields? ["name", "instanceLabel"] false with
  | some [name, label] =>
    match withDefault text? "" name,
      withDefault text? "" label with
    | some name, some label => some ⟨name, label⟩
    | _, _ => none
  | _ => none

def toJson (policy : Policy) : Json :=
  .object [("name", .string policy.name), ("path", .string policy.path),
    ("decision", .string policy.decision), ("root", .string policy.root),
    ("instance_label", Json.ofString? policy.instanceLabel)]

/-- Reads the JSON form of a policy. Every field may be missing, and no others are allowed. -/
def read? (doc : Json.Document) : Option Policy :=
  match doc.fields? ["name", "path", "decision", "root", "instance_label"] true with
  | some [name, path, decision, root, label] =>
    match withDefault text? "" name, withDefault text? "" path,
      withDefault text? "" decision, withDefault text? "" root,
      withDefault (nullable text?) none label with
    | some name, some path, some decision, some root, some label =>
      some ⟨name, path, decision, root, label⟩
    | _, _, _, _, _ => none
  | _ => none

end Policy

end AccessControl
