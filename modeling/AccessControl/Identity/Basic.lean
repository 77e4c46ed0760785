import AccessControl.Json.Record

/-!
# Identities

An identity is a text together with the way in which the policy is to read it. The constructor
`Identity.of` keeps the two in step: an empty text is always anonymous and the anonymous kind
always has an empty text. Reading an identity from JSON keeps both fields as they are written.
-/

namespace AccessControl

inductive Identity.Kind where
  | anonymous
  | subject
  | jwt
  | manual
deriving DecidableEq, Inhabited

structure Identity where
  value : String
  kind : Identity.Kind
deriving DecidableEq, Inhabited

namespace Identity

open Json.Document (withDefault text? variant?)

def Kind.name : Kind → String
  | anonymous => "IDENTITY_TYPE_NONE"
  | subject => "IDENTITY_TYPE_SUB"
  | jwt => "IDENTITY_TYPE_JWT"
  | manual => "IDENTITY_TYPE_MANUAL"

/-- The name of a kind in log events. -/
def Kind.label : Kind → String
  | anonymous => "None"
  | subject => "Sub"
  | jwt => "Jwt"
  | manual => "Manual"

/-- The number of a kind in protobuf messages. -/
def Kind.number : Kind → Nat
  | anonymous => 1
  | subject => 2
  | jwt => 3
  | manual => 4

def Kind.byName : Entries Kind :=
  [(Kind.anonymous.name, .anonymous), (Kind.subject.name, .subject), (Kind.jwt.name, .jwt),
    (Kind.manual.name, .manual)]

def unknown : Identity := ⟨"", .anonymous⟩

/-- An identity of a kind; anonymous if the text is empty or the kind is. -/
def of (kind : Kind) (value : String) : Identity :=
  if kind = .anonymous || value.isEmpty then unknown else ⟨value, kind⟩

def subject (value : String) : Identity := of .subject value

def jwt (value : String) : Identity := of .jwt value

def manual (value : String) : Identity := of .manual value

def isAnonymous (identity : Identity) : Bool := identity.kind = .anonymous

/-- The kind is anonymous exactly when the text is empty. -/
def WellFormed (identity : Identity) : Prop :=
  identity.kind = .anonymous ↔ identity.value = ""

def toJson (identity : Identity) : Json :=
  .object [("identity", .string identity.value), ("type", .string identity.kind.name)]

/-- Reads the JSON form; both fields may be missing. -/
def read? (doc : Json.Document) : Option Identity :=
  match doc.fields? ["identity", "type"] false with
  | some [value, kind] =>
    match withDefault text? "" value,
      withDefault (variant? Kind.byName) .anonymous kind with
    | some value, some kind => some ⟨value, kind⟩
    | _, _ => none
  | _ => none

@[simp] theorem of_anonymous (value : String) : of .anonymous value = unknown := by
  simp [of]

@[simp] theorem of_empty (kind : Kind) : of kind "" = unknown := by
  simp [of]

theorem wellFormed_unknown : unknown.WellFormed := by
  simp [WellFormed, unknown]

theorem wellFormed_of (kind : Kind) (value : String) : (of kind value).WellFormed := by
  unfold of
  split
  · exact wellFormed_unknown
  · rename_i h
    simp only [Bool.or_eq_true, decide_eq_true_eq, String.isEmpty_iff, not_or] at h
    simp [WellFormed, h.1, h.2]

end Identity

end AccessControl
