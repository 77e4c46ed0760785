import AccessControl.Bytes.Base64
import AccessControl.Json.Reader
import AccessControl.Json.Record
import AccessControl.Text.Split

/-!
# Tokens

A text is structurally a token when it has three parts between dots, of which the first is the
base64 form of a JSON object that describes a signature: a known algorithm and further fields, of
which the registered ones have prescribed shapes and all others are texts. Nothing is verified.
`subject?` reads the `sub` claim out of the second part.
-/

namespace AccessControl.Token

open Json.Document (text? nullable list? variant? required withDefault)

def algorithms : List String :=
  ["HS256", "HS384", "HS512", "ES256", "ES384", "RS256", "RS384", "RS512", "PS256", "PS384",
    "PS512", "EdDSA"]

/-- Header fields that hold a text or null. -/
def textFields : List String :=
  ["typ", "cty", "jku", "kid", "x5u", "x5t", "x5t#S256", "enc", "zip", "url", "nonce"]

def listFields : List String := ["x5c", "crit"]

def keyTextFields : List String := ["use", "kid", "x5u", "x5t", "x5t#S256"]

def keyListFields : List String := ["key_ops", "x5c"]

def curves : List String := ["P-256", "P-384", "P-521", "Ed25519"]

def oneOf (names : List String) (doc : Json.Document) : Bool :=
  (variant? (names.map fun name => (name, ())) doc).isSome

/-- A member that must be there, may not be repeated and satisfies a condition. -/
def has (members : List (Option String × Json.Document)) (name : String)
    (ok : Json.Document → Bool) : Bool :=
  match Json.Document.member? members name with
  | some (some doc) => ok doc
  | _ => false

/-- A member that may be missing or null, may not be repeated and satisfies a condition. -/
def mayHave (members : List (Option String × Json.Document)) (name : String)
    (ok : Json.Document → Bool) : Bool :=
  match Json.Document.member? members name with
  | some none => true
  | some (some .null) => true
  | some (some doc) => ok doc
  | none => false

def isText (doc : Json.Document) : Bool := (text? doc).isSome

def isTextList (doc : Json.Document) : Bool := (list? text? doc).isSome

/-- The parameters of a public key of one of the four families. -/
def isKeyMaterial (members : List (Option String × Json.Document)) : Bool :=
  let kty := fun name => has members "kty" (oneOf [name])
  let curve := has members "crv" (oneOf curves)
  let text := fun name => has members name isText
  (kty "EC" && curve && text "x" && text "y") || (kty "RSA" && text "n" && text "e") ||
    (kty "oct" && text "k") || (kty "OKP" && curve && text "x")

/-- The name of an algorithm, known or not. -/
def isKeyAlgorithm : Json.Document → Bool
  | .string s => s.isSome
  | .object [(some _, .null)] => true
  | _ => false

def isKey : Json.Document → Bool
  | .object members =>
    (Json.Document.value? (.object members)).isSome &&
      keyTextFields.all (fun name => mayHave members name isText) &&
      keyListFields.all (fun name => mayHave members name isTextList) &&
      mayHave members "alg" isKeyAlgorithm && isKeyMaterial members
  | _ => false

def isHeader : Json.Document → Bool
  | .object members =>
    has members "alg" (oneOf algorithms) &&
      textFields.all (fun name => mayHave members name isText) &&
      listFields.all (fun name => mayHave members name isTextList) &&
      mayHave members "jwk" isKey &&
      members.all fun m =>
        match m.1 with
        | none => false
        | some name =>
          ("alg" :: "jwk" :: (textFields ++ listFields)).contains name || isText m.2
  | _ => false

def document? (part : List Char) : Option Json.Document :=
  (Bytes.ofBase64Url? part).bind Json.Document.read?

/-- The second part of a text that is structurally a token. -/
def payload? (s : String) : Option (List Char) :=
  match Text.splitList '.' s.toList with
  | [header, payload, _] =>
    match document? header with
    | some doc => if isHeader doc then some payload else none
    | none => none
  | _ => none

def looksLike (s : String) : Bool := (payload? s).isSome

def dropPadding (cs : List Char) : List Char := (cs.reverse.dropWhile (· == '=')).reverse

/-- The `sub` claim of a token, if it is a text that is not empty. -/
def subject? (s : String) : Option String :=
  match (payload? s).bind fun payload => document? (dropPadding payload) with
  | none => none
  | some doc =>
    match doc.fields? ["sub"] false with
    | some [some claim] =>
      match nullable text? claim with
      | some (some subject) => if subject.isEmpty then none else some subject
      | _ => none
    | _ => none

end AccessControl.Token
