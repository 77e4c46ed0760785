import AccessControl.Url.Host
import AccessControl.Text.Blank

/-!
# URLs

A base URL has a scheme, an authority and a path, and is read as leniently as browsers do: blanks
around it and line breaks within it are dropped, the well-known schemes take a backslash for a
slash and any number of slashes before the authority, dots in the path are resolved, and characters
that cannot stand in it are percent-encoded. Query and fragment are dropped, because a base URL is
only ever used to put a relative path behind it.
-/

namespace AccessControl

/-- A URL that a relative path can be put behind. -/
structure Url where
  scheme : String
  credentials : String
  host : String
  port : Option Nat
  path : List (List Char)
deriving DecidableEq, Inhabited

namespace Url

def defaultPort? (scheme : String) : Option Nat :=
  if scheme = "http" || scheme = "ws" then some 80
  else if scheme = "https" || scheme = "wss" then some 443
  else if scheme = "ftp" then some 21
  else none

/-- The schemes that are always followed by a host, apart from `file`. -/
def isWellKnown (scheme : String) : Bool := (defaultPort? scheme).isSome

def endsAuthority (special : Bool) (c : Char) : Bool :=
  c == '/' || c == '?' || c == '#' || (special && c == '\\')

def isPathEncoded (b : UInt8) : Bool :=
  b ≤ 32 || b == 127 || [34, 35, 60, 62, 63, 96, 123, 125].contains b

def isCredentialEncoded (b : UInt8) : Bool :=
  isPathEncoded b || [47, 58, 59, 61, 64, 91, 92, 93, 94, 124].contains b

/-- The text that is read: without blanks around it and without line breaks and tabs. -/
def cleaned (s : String) : List Char :=
  (Text.trimEnds (·.toNat ≤ 32) s.toList).filter fun c => c != '\t' && c != '\n' && c != '\r'

def scheme? (cs : List Char) : Option (String × List Char) :=
  let isSchemeChar := fun (c : Char) => c.isAlphanum || c == '+' || c == '-' || c == '.'
  match cs.head?.any Char.isAlpha, cs.dropWhile isSchemeChar with
  | true, ':' :: rest =>
    some (Text.asciiLowercase (String.ofList (cs.takeWhile isSchemeChar)), rest)
  | _, _ => none

/-- The user name and password of an authority with the `@` behind them; empty ones are left
out. -/
def credentialsText (text : List Char) : String :=
  let encode := fun (cs : List Char) => Bytes.percentEncode isCredentialEncoded (String.ofList cs)
  match Text.splitOnce (· == ':') text with
  | none => if text.isEmpty then "" else encode text ++ "@"
  | some (name, password) =>
    if name.isEmpty && password.isEmpty then ""
    else encode name ++ (if password.isEmpty then "" else ":" ++ encode password) ++ "@"

def splitPort (text : List Char) : List Char × Option (List Char) :=
  match text with
  | '[' :: _ =>
    let bracketed := text.takeWhile (· != ']') ++ (text.dropWhile (· != ']')).take 1
    match text.drop bracketed.length with
    | [] => (bracketed, none)
    | ':' :: port => (bracketed, some port)
    | _ => (text, none)
  | _ =>
    match Text.splitOnce (· == ':') text with
    | none => (text, none)
    | some (host, port) => (host, some port)

/-- The port in a URL, `some none` if it is the one of the scheme or is left out. -/
def port? (scheme : String) : Option (List Char) → Option (Option Nat)
  | none => some none
  | some cs =>
    if !cs.all Char.isDigit then none
    else
      let n := cs.foldl (fun n c => n * 10 + (c.toNat - 48)) 0
      if 65535 < n then none
      else if cs.isEmpty || defaultPort? scheme = some n then some none
      else some (some n)

/-- Whether a segment stands for the same place, dots encoded or not. -/
def isSingleDot (segment : List Char) : Bool :=
  [".", "%2e"].contains (Text.asciiLowercase (String.ofList segment))

/-- Whether a segment stands for the place above. -/
def isDoubleDot (segment : List Char) : Bool :=
  ["..", ".%2e", "%2e.", "%2e%2e"].contains (Text.asciiLowercase (String.ofList segment))

/-- Resolves dots. The first list holds the segments so far, last segment first; a place that is
left or stayed in at the end keeps an empty segment. -/
def resolveDots : List (List Char) → List (List Char) → List (List Char)
  | done, [] => done.reverse
  | done, segment :: rest =>
    let close := fun (done : List (List Char)) => if rest.isEmpty then [] :: done else done
    if isDoubleDot segment then resolveDots (close done.tail) rest
    else if isSingleDot segment then resolveDots (close done) rest
    else resolveDots (segment :: done) rest

def pathSegments (special : Bool) (text : List Char) : List (List Char) :=
  let slashed := if special then text.map fun c => if c = '\\' then '/' else c else text
  (resolveDots [] (Text.splitList '/' slashed)).map fun segment =>
    (Bytes.percentEncode isPathEncoded (String.ofList segment)).toList

/-- Reads what stands behind the slashes: authority and path. -/
def afterSlashes? (scheme : String) (special : Bool) (host? : List Char → Option String)
    (text : List Char) : Option Url := do
  let authority := text.takeWhile fun c => !endsAuthority special c
  let rest := (text.dropWhile fun c => !endsAuthority special c).takeWhile fun c =>
    c != '?' && c != '#'
  let (credentials, hostPort) := (Text.rsplitOnce '@' authority).getD ([], authority)
  if hostPort.isEmpty && authority != [] then none
  else
    let (hostText, portText) := splitPort hostPort
    let host ← host? hostText
    let port ← port? scheme portText
    let path := if rest.isEmpty then [] else pathSegments special rest.tail
    some ⟨scheme, credentialsText credentials, host, port, path⟩

def parse? (s : String) : Option Url := do
  let (scheme, rest) ← scheme? (cleaned s)
  if isWellKnown scheme then
    afterSlashes? scheme true (fun text => if text.isEmpty then none else host? text)
      (rest.dropWhile fun c => c == '/' || c == '\\')
  else
    match rest with
    | '/' :: '/' :: rest =>
      afterSlashes? scheme (scheme == "file")
        (if scheme == "file" then fun text =>
          if text.isEmpty || String.ofList text == "localhost" then some "" else host? text
        else opaqueHost?) rest
    | _ => none

def join (url : Url) (segments : List String) : Url :=
  let dir := if url.path.getLast? == some [] then url.path.dropLast else url.path
  { url with path := dir ++ segments.map String.toList }

def text (url : Url) : String :=
  url.scheme ++ "://" ++ url.credentials ++ url.host ++
    (match url.port with
    | none => ""
    | some port => ":" ++ toString port) ++
    String.ofList (url.path.flatMap ('/' :: ·))

end Url

end AccessControl
