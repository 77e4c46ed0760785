import AccessControl.Text.Split
import AccessControl.Text.Lowercase

/-!
# Request URIs

A request URI is a path (`/a?q`), an asterisk, an authority (`host:port`) or an absolute URI with
scheme, authority and path. `Uri.parse?` accepts exactly these. The path stays as it was written,
percent-encoding included; a fragment is dropped. The host of an authority is what remains of it
without user information and port, and a bracketed address keeps its brackets.
-/

namespace AccessControl.Http

structure Uri where
  scheme : Option String
  authority : Option String
  path : String
  query : Option String
deriving DecidableEq, Inhabited

namespace Uri

def isSchemeChar (c : Char) : Bool :=
  c.isAlphanum || c == '+' || c == '-' || c == '.'

/-- The characters of an authority other than `%`, and those that end it. -/
def isUriChar (c : Char) : Bool :=
  c.isAlphanum || "!#$&'()*+,-./:;=?@[]_~".toList.contains c

def endsAuthority (c : Char) : Bool := c == '/' || c == '?' || c == '#'

/-- What has been seen of an authority: colons and percent signs since the last `@` or `]`,
brackets, and whether the last character was an `@`. -/
structure AuthorityScan where
  colons : Nat
  opened : Bool
  closed : Bool
  percent : Bool
  afterAt : Bool

def AuthorityScan.step (scan : AuthorityScan) (c : Char) : Option AuthorityScan :=
  let scan := { scan with afterAt := false }
  if c == ':' then if 8 ≤ scan.colons then none else some { scan with colons := scan.colons + 1 }
  else if c == '[' then
    if scan.percent || scan.opened then none else some { scan with opened := true }
  else if c == ']' then
    if !scan.opened || scan.closed then none
    else some { scan with closed := true, colons := 0, percent := false }
  else if c == '@' then some { scan with colons := 0, percent := false, afterAt := true }
  else if c == '%' then some { scan with percent := true }
  else if isUriChar c then some scan
  else none

/-- A well-formed authority: brackets match, at most one colon stands behind the host, percent
signs stand in the user information or in brackets only, and an `@` is followed by a host. -/
def isAuthority (cs : List Char) : Bool :=
  match cs.foldlM AuthorityScan.step ⟨0, false, false, false, false⟩ with
  | none => false
  | some scan =>
    scan.opened == scan.closed && scan.colons ≤ 1 && !scan.afterAt && !scan.percent

def isPathChar (c : Char) : Bool :=
  let n := c.toNat
  n == 0x21 || (0x24 ≤ n && n ≤ 0x3B) || n == 0x3D || (0x40 ≤ n && n ≤ 0x5F) ||
    (0x61 ≤ n && n ≤ 0x7A) || n == 0x7C || n == 0x7E || 0x7F ≤ n || n == 0x22 || n == 0x7B ||
    n == 0x7D

def isQueryChar (c : Char) : Bool :=
  let n := c.toNat
  n == 0x21 || (0x24 ≤ n && n ≤ 0x3B) || n == 0x3D || 0x3F ≤ n

/-- Splits the part behind the authority into path and query, without the fragment. -/
def pathAndQuery? (cs : List Char) : Option (String × Option String) :=
  let path := cs.takeWhile fun c => c != '?' && c != '#'
  let rest := cs.dropWhile fun c => c != '?' && c != '#'
  if !path.all isPathChar then none
  else
    match rest with
    | '?' :: rest =>
      let query := rest.takeWhile (· != '#')
      if query.all isQueryChar then some (String.ofList path, some (String.ofList query))
      else none
    | _ => some (String.ofList path, none)

/-- The scheme in front of `://` and what follows, if the text starts with one. -/
def scheme? (cs : List Char) : Option (List Char × List Char) :=
  match cs.dropWhile isSchemeChar with
  | ':' :: '/' :: '/' :: rest => some (cs.takeWhile isSchemeChar, rest)
  | _ => none

def parseAbsolute? (cs : List Char) : Option Uri :=
  match scheme? cs with
  | none =>
    if !cs.any endsAuthority && isAuthority cs then
      some ⟨none, some (String.ofList cs), "", none⟩
    else none
  | some (scheme, rest) =>
    let authority := rest.takeWhile fun c => !endsAuthority c
    if authority.isEmpty || !isAuthority authority || 64 < scheme.length then none
    else
      (pathAndQuery? (rest.dropWhile fun c => !endsAuthority c)).map fun (path, query) =>
        ⟨some (Text.asciiLowercase (String.ofList scheme)), some (String.ofList authority),
          if path.isEmpty then "/" else path, query⟩

def parse? (s : String) : Option Uri :=
  if 65534 < s.utf8ByteSize then none
  else
    match s.toList with
    | [] => none
    | ['*'] => some ⟨none, none, "*", none⟩
    | '/' :: rest =>
      (pathAndQuery? ('/' :: rest)).map fun (path, query) => ⟨none, none, path, query⟩
    | cs => parseAbsolute? cs

def hostOfAuthority (authority : String) : String :=
  let hostPort :=
    match Text.rsplitOnce '@' authority.toList with
    | some (_, host) => host
    | none => authority.toList
  match hostPort with
  | '[' :: rest => String.ofList ('[' :: (rest.takeWhile (· != ']') ++ [']']))
  | cs => String.ofList (cs.takeWhile (· != ':'))

/-- The host that the URI names itself. -/
def host? (uri : Uri) : Option String := uri.authority.map hostOfAuthority

end Uri

end AccessControl.Http
