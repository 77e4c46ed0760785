import AccessControl.Text.Alphanumeric
import AccessControl.Text.Split

/-!
# Route templates

A template is a path with parameters. Two spellings are accepted: a parameter in braces, `{name}`
or `{*name}`, which may stand beside literal text within its segment, and a segment that starts
with `:` or `*`. `braced` puts the second spelling into the first, segment by segment. Doubled
braces stand for themselves.

`readSegments` reads a template in braces: every segment is literal, holds one parameter, or
is the tail that takes the rest of a path. The segments before a fault are kept beside the fault,
because a conflict that is met before it is reported in its place.
-/

namespace AccessControl.Route

inductive Segment where
  | literal (text : List Char)
  | param (before : List Char) (name : String) (after : List Char)
  | tail (before : List Char) (name : String)
deriving DecidableEq, Inhabited

inductive Fault where
  | badName
  | manyParams
  | innerTail
deriving DecidableEq, Inhabited

def Fault.message : Fault → String
  | badName => "Parameters must be registered with a valid name"
  | manyParams => "Only one parameter is allowed per path segment"
  | innerTail => "Catch-all parameters are only allowed at the end of a route"

def openBrace : Char := Char.ofNat 123

def closeBrace : Char := Char.ofNat 125

def isNameChar (c : Char) : Bool := Text.isAlphanumeric c || c == '_'

/-- A parameter in braces, followed by the rest of its segment. -/
def bracedParam (mark rest : List Char) : List Char :=
  openBrace :: mark ++ rest.takeWhile isNameChar ++ closeBrace :: rest.dropWhile isNameChar

/-- A segment with its parameter in braces. The name ends before the first character that is not
part of one. -/
def bracedSegment : List Char → List Char
  | ':' :: rest => bracedParam [] rest
  | '*' :: rest => bracedParam ['*'] rest
  | segment => segment

def braced (template : List Char) : List Char :=
  ['/'].intercalate ((Text.splitList '/' template).map bracedSegment)

/-- Halves doubled braces. The flag marks a character that stands for itself. -/
def unescape : List Char → List (Char × Bool)
  | [] => []
  | [c] => [(c, false)]
  | c :: d :: rest =>
    if c = d && (c = openBrace || c = closeBrace) then (c, true) :: unescape rest
    else (c, false) :: unescape (d :: rest)

/-- A character of a template, or a parameter in braces. -/
inductive Token where
  | char (c : Char)
  | param (name : List Char)
  | tail (name : List Char)
deriving DecidableEq, Inhabited

/-- The parameter with the text between its braces. A lone star names nothing. -/
def Token.ofName : List Char → Option Token
  | ['*'] => none
  | '*' :: name => some (.tail name)
  | name => some (.param name)

/-- Reads characters and parameters. The first argument holds the name that is being read, last
character first. Stars and slashes are refused in names after the first character. -/
def Token.read? : Option (List Char) → List (Char × Bool) → Option (List Token)
  | none, [] => some []
  | some _, [] => none
  | none, (c, escaped) :: rest =>
    if c = closeBrace && !escaped then none
    else if c = openBrace && !escaped then read? (some []) rest
    else (read? none rest).map (.char c :: ·)
  | some [], (c, _) :: rest => if c = closeBrace then none else read? (some [c]) rest
  | some (last :: name), (c, escaped) :: rest =>
    if c = closeBrace && !escaped then
      (ofName (last :: name).reverse).bind fun token => (read? none rest).map (token :: ·)
    else if c = '*' || c = '/' then none
    else read? (some (c :: last :: name)) rest

def Token.char? : Token → Option Char
  | char c => some c
  | _ => none

def splitTokens : List Token → List (List Token)
  | [] => [[]]
  | .char '/' :: rest => [] :: splitTokens rest
  | token :: rest =>
    match splitTokens rest with
    | [] => [[token]]
    | piece :: pieces => (token :: piece) :: pieces

/-- The segment made of some tokens; the flag tells whether it is the last one. A second parameter
in a segment, and anything after a tail, is a fault. -/
def Segment.ofTokens (isLast : Bool) (tokens : List Token) : Segment × Option Fault :=
  let before := (tokens.takeWhile (·.char?.isSome)).filterMap Token.char?
  match tokens.dropWhile (·.char?.isSome) with
  | [] => (.literal before, none)
  | .tail name :: rest =>
    (.tail before (String.ofList name), if rest.isEmpty && isLast then none else some .innerTail)
  | .param name :: rest =>
    (.param before (String.ofList name) (rest.filterMap Token.char?),
      if rest.all (·.char?.isSome) then none else some .manyParams)
  | .char _ :: _ => (.literal before, none)

/-- The segments up to the first fault, and the fault. -/
def Segment.ofPieces : List (List Token) → List Segment × Option Fault
  | [] => ([], none)
  | piece :: pieces =>
    match ofTokens pieces.isEmpty piece with
    | (segment, some fault) => ([segment], some fault)
    | (segment, none) =>
      let (segments, fault) := ofPieces pieces
      (segment :: segments, fault)

def readSegments (template : List Char) : List Segment × Option Fault :=
  match Token.read? none (unescape template) with
  | none => ([], some .badName)
  | some tokens => Segment.ofPieces (splitTokens tokens)

def Segment.name? : Segment → Option String
  | literal _ => none
  | param _ name _ => some name
  | tail _ name => some name

/-- A segment in braces. Doubled braces of the template stand here once. -/
def Segment.text : Segment → List Char
  | literal text => text
  | param before name after => before ++ openBrace :: name.toList ++ closeBrace :: after
  | tail before name => before ++ openBrace :: '*' :: name.toList ++ [closeBrace]

def render (segments : List Segment) : String :=
  String.ofList (['/'].intercalate (segments.map Segment.text))

theorem bracedSegment_of_literal {segment : List Char}
    (colon : segment.head? ≠ some ':') (star : segment.head? ≠ some '*') :
    bracedSegment segment = segment := by
  unfold bracedSegment
  split <;> simp_all

theorem splitTokens_ne_nil (tokens : List Token) : splitTokens tokens ≠ [] := by
  fun_induction splitTokens tokens <;> simp_all

end AccessControl.Route
