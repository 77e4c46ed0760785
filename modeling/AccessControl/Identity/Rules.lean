import AccessControl.Call
import AccessControl.Identity.Basic
import AccessControl.Identity.Token
import AccessControl.Text.Blank

/-!
# Identity rules

Rules say where the identity of a call comes from and how it is to be read. They are built by
steps, and the order of steps of different groups does not matter: a mapper is asked first, then a
declared source, then the fixed text. `Step.none` declares callers anonymous and forgets the rest.

A value of the `authorization` header may carry the scheme `bearer`, which is taken off. Where the
rules ask for a subject and the value is a token, its `sub` claim is the subject. A value from any
other place is only trimmed. Resolving never fails: what cannot be resolved is anonymous.
-/

namespace AccessControl.Identity

inductive Source where
  | headers (names : List String)
  | metadata (key : String)
  | context (key : String)
  | hostname (index : Int)
deriving DecidableEq, Inhabited

structure Rules where
  kind : Option Kind
  fixed : Option String
  source : Option Source
  mapper : Option (Call → Identity)

inductive Step where
  | kind (kind : Kind)
  | none
  | fixed (value : String)
  | source (source : Source)
  | mapper (f : Call → Identity)

namespace Rules

/-- No rules: every call is anonymous. -/
def empty : Rules := ⟨Option.none, Option.none, Option.none, Option.none⟩

def step (rules : Rules) : Step → Rules
  | .kind kind => { rules with kind := some kind }
  | .none => { empty with kind := some .anonymous }
  | .fixed value => { rules with fixed := some value }
  | .source source => { rules with source := some source }
  | .mapper f => { rules with mapper := some f }

def ofSteps (steps : List Step) : Rules := steps.foldl step empty

def authorization : Rules := { empty with source := some (.headers ["authorization"]) }

end Rules

/-- The name of the header whose value may carry a scheme. -/
def isAuthorization (name : String) : Bool := Text.eqIgnoringCase name "authorization"

/-- The value without the scheme `bearer`, and without blanks at both ends. -/
def stripBearer (value : String) : String :=
  let value := Text.trim value
  if Text.eqIgnoringCase value "bearer" then ""
  else
    match Text.splitOnce Text.isAsciiBlank value.toList with
    | some (scheme, token) =>
      if Text.eqIgnoringCase (String.ofList scheme) "bearer" then
        Text.trim (String.ofList token)
      else value
    | none => value

/-- The segment of a host at an index; a negative index counts from the end. -/
def hostSegment? (host : String) (index : Int) : Option String :=
  let segments := Text.splitOn '.' host
  let index := if index < 0 then (segments.length : Int) + index else index
  if index < 0 then none else segments[index.toNat]?

/-- The first of the named headers that is readable and not blank, with its name. -/
def firstHeader? (call : Call) (names : List String) : Option (String × String) :=
  names.findSome? fun name =>
    match call.header? name with
    | some value => if (Text.trim value).isEmpty then none else some (name, value)
    | none => none

/-- The text that a source yields for a call, and whether it is an authorization value. -/
def Source.read (source : Source) (call : Call) : String × Bool :=
  match source with
  | .headers names =>
    match firstHeader? call names with
    | some (name, value) => (value, isAuthorization name)
    | none => ("", false)
  | .metadata key => ((call.header? key).getD "", isAuthorization key)
  | .context key => ((call.contextText? key).getD "", false)
  | .hostname index => ((call.host.bind fun host => hostSegment? host index).getD "", false)

/-- The identity of a text that is not empty and has been stripped. -/
def ofValue (kind : Option Kind) (fromAuthorization : Bool) (value : String) : Identity :=
  match kind with
  | some .subject =>
    if fromAuthorization then subject ((Token.subject? value).getD value) else subject value
  | some kind => of kind value
  | none => if Token.looksLike value then jwt value else subject value

/-- The text that rules without a mapper start from. -/
def Rules.value (rules : Rules) (call : Call) : String × Bool :=
  match rules.source with
  | some source => source.read call
  | none => (rules.fixed.getD "", false)

def Rules.resolve (rules : Rules) (call : Call) : Identity :=
  match rules.mapper with
  | some f => of (f call).kind (f call).value
  | none =>
    if rules.kind = some .anonymous then unknown
    else
      let (raw, fromAuthorization) := rules.value call
      let value := if fromAuthorization then stripBearer raw else Text.trim raw
      if value.isEmpty then unknown else ofValue rules.kind fromAuthorization value

theorem Rules.ofSteps_append_singleton (steps : List Step) (last : Step) :
    Rules.ofSteps (steps ++ [last]) = (Rules.ofSteps steps).step last := by
  simp [Rules.ofSteps]

end AccessControl.Identity
