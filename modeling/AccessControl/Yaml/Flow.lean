import AccessControl.Text.Blank
import AccessControl.Text.Split
import AccessControl.Yaml.Scalar

/-!
# Values within a line

A value that does not span a block is a list in brackets, a mapping in braces, a quoted text or a
plain scalar. Within brackets a plain scalar ends at a comma or a bracket, and outside of them at
the end of the line. A colon with a blank behind it never stands in a plain scalar.
-/

namespace AccessControl.Yaml

def isSpace (c : Char) : Bool := c == ' ' || c == '\t'

def skipSpaces (cs : List Char) : List Char := cs.dropWhile isSpace

def isIndicator (c : Char) : Bool := ",[]\x7b\x7d#&*!|>'\"%@\x60".toList.contains c

def isFlowMark (c : Char) : Bool := ",[]\x7b\x7d".toList.contains c

def startsPlain : List Char → Bool
  | [] => false
  | c :: rest =>
    if c == '-' || c == '?' || c == ':' then rest.head?.any fun d => !isSpace d
    else !isIndicator c

/-- The characters up to a comment, which starts at a number sign behind a blank. -/
def withoutComment : List Char → List Char
  | [] => []
  | c :: '#' :: rest =>
    if isSpace c then [] else c :: '#' :: withoutComment rest
  | c :: rest => c :: withoutComment rest

/-- Cuts a text before the first character at which a plain scalar in brackets ends. -/
def takeFlowPlain : List Char → List Char × List Char
  | [] => ([], [])
  | c :: rest =>
    if isFlowMark c then ([], c :: rest)
    else if c == ':' && rest.head?.all fun d => isSpace d || isFlowMark d then ([], c :: rest)
    else
      let (text, rest) := takeFlowPlain rest
      (c :: text, rest)

mutual

/-- Reads a value in brackets. The number bounds the depth of the reading. -/
def flowValue? : Nat → List Char → Option (Json × List Char)
  | 0, _ => none
  | fuel + 1, cs =>
    match skipSpaces cs with
    | '[' :: rest => (flowItems? fuel rest).map fun (items, rest) => (.array items, rest)
    | c :: rest =>
      if c.toNat = 123 then
        (flowMembers? fuel [] rest).map fun (members, rest) => (.object members, rest)
      else if c == '"' || c == '\'' then
        (quoted? (c :: rest)).map fun (text, rest) => (.string (String.ofList text), rest)
      else if startsPlain (c :: rest) then
        let (text, rest) := takeFlowPlain (c :: rest)
        some (plain (String.ofList (Text.trimEnds isSpace text)), rest)
      else if c == ',' || c == ']' || c.toNat = 125 then some (.null, c :: rest)
      else none
    | [] => none

def flowItems? : Nat → List Char → Option (List Json × List Char)
  | 0, _ => none
  | fuel + 1, cs =>
    match skipSpaces cs with
    | ']' :: rest => some ([], rest)
    | cs =>
      (flowValue? fuel cs).bind fun (item, rest) =>
        match skipSpaces rest with
        | ',' :: rest => (flowItems? fuel rest).map fun (items, rest) => (item :: items, rest)
        | ']' :: rest => some ([item], rest)
        | _ => none

/-- Reads the members of a mapping up to its closing brace. A key without a colon has no value. -/
def flowMembers? : Nat → Entries Json → List Char → Option (Entries Json × List Char)
  | 0, _, _ => none
  | fuel + 1, members, cs =>
    match skipSpaces cs with
    | [] => none
    | c :: rest =>
      if c.toNat = 125 then some (members, rest)
      else
        let key := match quoted? (c :: rest) with
          | some found => some found
          | none => if startsPlain (c :: rest) then some (takeFlowPlain (c :: rest)) else none
        key.bind fun (name, rest) =>
          let name := String.ofList (Text.trimEnds isSpace name)
          let value := match skipSpaces rest with
            | ':' :: rest => flowValue? fuel rest
            | rest => some (.null, rest)
          value.bind fun (value, rest) =>
            let members := members.put name value
            match skipSpaces rest with
            | ',' :: rest => flowMembers? fuel members rest
            | c :: rest => if c.toNat = 125 then some (members, rest) else none
            | [] => none

end

/-- Whether a colon with a blank or the end behind it stands in a text. -/
def hasKeyMark : List Char → Bool
  | [] => false
  | c :: rest => (c == ':' && rest.head?.all isSpace) || hasKeyMark rest

def inline? (cs : List Char) : Option Json :=
  let cs := skipSpaces cs
  match cs with
  | [] => some .null
  | c :: _ =>
    if c == '[' || c.toNat = 123 || c == '"' || c == '\'' then
      match flowValue? (2 * cs.length + 2) cs with
      | some (value, rest) =>
        if (skipSpaces rest).isEmpty || (rest.head?.any isSpace && (skipSpaces rest).head? == some '#')
        then some value else none
      | none => none
    else
      let text := Text.trimEnds isSpace (withoutComment cs)
      if startsPlain text && !hasKeyMark text then some (plain (String.ofList text)) else none

/-- Splits a line into a key and what follows its colon, if it has a key. -/
def splitKey (cs : List Char) : Option (String × List Char) :=
  match quoted? cs with
  | some (name, rest) =>
    match skipSpaces rest with
    | ':' :: rest =>
      if rest.head?.all isSpace then some (String.ofList name, rest) else none
    | _ => none
  | none =>
    if startsPlain cs then splitPlain [] cs else none
where
  splitPlain (before : List Char) : List Char → Option (String × List Char)
    | [] => none
    | c :: rest =>
      if c == ':' && rest.head?.all isSpace then
        some (String.ofList (Text.trimEnds isSpace before.reverse), rest)
      else if c == '#' && before.head?.any isSpace then none
      else splitPlain (c :: before) rest

end AccessControl.Yaml
