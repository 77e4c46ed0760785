import AccessControl.Call
import AccessControl.Text.Blank

/-!
# Policy paths

The path of a policy module is derived from a call. From a URL it is the method followed by the
segments of the route template, joined by dots, where a parameter is written `__name` in whichever
of its four spellings the template has it. From a gRPC method it is the method with dots for
slashes. Either may stand under a root.
-/

namespace AccessControl.Policy

def renderSegment (segment : List Char) : List Char :=
  let braced :=
    match segment with
    | c :: rest =>
      if c.toNat = 123 && rest.getLast? == some (Char.ofNat 125) then some rest.dropLast else none
    | [] => none
  match braced, segment with
  | some inner, _ => '_' :: '_' :: inner.dropWhile (· == '*')
  | none, ':' :: name => '_' :: '_' :: name
  | none, '*' :: name => '_' :: '_' :: name
  | none, literal => literal

/-- The segments of a template that are not empty. -/
def templateSegments (template : String) : List (List Char) :=
  (Text.splitList '/' template.toList).filter fun segment => !segment.isEmpty

/-- The parts of a path under a root: the root without dots at its ends, if anything is left. -/
def underRoot (root : String) (parts : List String) : List String :=
  let root := Text.trimChar '.' root
  if root.isEmpty then parts else root :: parts

def urlPath (root method template : String) : String :=
  ".".intercalate (underRoot root (Text.asciiUppercase method ::
    (templateSegments template).map fun segment => String.ofList (renderSegment segment)))

/-- A gRPC method with dots for slashes, those at its ends dropped. -/
def dottedMethod (method : String) : String :=
  String.ofList ((Text.trimEnds (· == '/') method.toList).map fun c => if c = '/' then '.' else c)

def methodPath (root method : String) : String :=
  ".".intercalate (underRoot root [dottedMethod method])

inductive PathSource where
  | fixed (path : String)
  | url (root : String)
  | method (root : String)
  | mapper (f : Call → String)

def PathSource.resolve : PathSource → Call → String
  | fixed path, _ => path
  | url root, call => urlPath root call.method call.routePath
  | method root, call => methodPath root call.method
  | mapper f, call => f call

/-- The path of a policy without a source of its own: its path if it has one, else the path
derived from the call under the root of the policy. -/
def defaultPath (path root : String) (call : Call) : String :=
  if path.isEmpty then
    match call.kind with
    | .http => urlPath root call.method call.routePath
    | .grpc => methodPath root call.method
  else path

end AccessControl.Policy
