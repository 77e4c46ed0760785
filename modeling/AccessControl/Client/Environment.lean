import AccessControl.Text.Blank
import AccessControl.Text.Lowercase
import AccessControl.Text.Split
import AccessControl.Yaml.Scalar

/-!
# Settings from the environment

A variable whose name starts with a given text, in any case, is a setting under the rest of its
name in lower case; dots in it lead into nested settings. A value is a truth value, a number, a
quoted text, a list in brackets or a mapping in braces; a value that cannot be read as one of
these in full is a text as it stands.
-/

namespace AccessControl.Client.Environment

def skipBlanks (cs : List Char) : List Char := cs.dropWhile Char.isWhitespace

/-- The characters that end a bare word. -/
def isMark (c : Char) : Bool := ",[]\x7b\x7d".toList.contains c

def isKeyChar (c : Char) : Bool := c.isAlphanum || c == '_' || c == '-'

/-- A decimal numeral below `2 ^ 64` or, with a minus, from `-2 ^ 63` on. -/
def integer? : List Char → Option Int
  | '-' :: cs => ((Yaml.digits? 10 cs).filter (· ≤ Nat.pow 2 63)).map fun n => -(n : Int)
  | '+' :: cs => ((Yaml.digits? 10 cs).filter (· < UInt64.size)).map Int.ofNat
  | cs => ((Yaml.digits? 10 cs).filter (· < UInt64.size)).map Int.ofNat

def double? (cs : List Char) : Option Double :=
  if !cs.contains '.' then none
  else
    let digits := if cs.head? == some '-' || cs.head? == some '+' then cs.tail else cs
    (Yaml.decimal? digits).map fun (significand, exponent) =>
      Yaml.nearestDouble (cs.head? == some '-') significand exponent

def word (cs : List Char) : Json :=
  let text := Text.trimEnds Text.isBlank cs
  match double? text, integer? text with
  | some d, _ => .number (.double d)
  | none, some n => .number (.int n)
  | none, none => .string (String.ofList text)

def escape? (c : Char) : Option Char :=
  (Entries.get? [("b", 8), ("t", 9), ("n", 10), ("f", 12), ("r", 13), ("\"", 34), ("\\", 92)]
    (String.singleton c)).map Char.ofNat

def quoted? : Nat → List Char → Option (List Char × List Char)
  | 0, _ => none
  | _ + 1, [] => none
  | _ + 1, '"' :: rest => some ([], rest)
  | fuel + 1, '\\' :: c :: rest =>
    let count := if c == 'u' then 4 else if c == 'U' then 8 else 0
    let found :=
      if count = 0 then escape? c
      else if rest.length < count then none
      else ((Yaml.digits? 16 (rest.take count)).filter fun n => n.isValidChar).map Char.ofNat
    found.bind fun c =>
      (quoted? fuel (rest.drop count)).map fun (text, rest) => (c :: text, rest)
  | fuel + 1, c :: rest => (quoted? fuel rest).map fun (text, rest) => (c :: text, rest)

def dropWord? (word : String) (cs : List Char) : Option (List Char) :=
  if word.toList.isPrefixOf cs then some (cs.drop word.length) else none

mutual

/-- Reads a value and the blanks around it. The number bounds the depth of the reading. -/
def value? : Nat → List Char → Option (Json × List Char)
  | 0, _ => none
  | fuel + 1, cs =>
    let cs := skipBlanks cs
    let found : Option (Json × List Char) :=
      match dropWord? "true" cs, dropWord? "false" cs, cs with
      | some rest, _, _ => some (.bool true, rest)
      | none, some rest, _ => some (.bool false, rest)
      | none, none, '[' :: rest => (items? fuel rest).map fun (items, rest) => (.array items, rest)
      | none, none, '"' :: rest =>
        (quoted? (rest.length + 1) rest).map fun (text, rest) =>
          (.string (String.ofList text), rest)
      | none, none, '\'' :: c :: '\'' :: rest => some (.string (String.singleton c), rest)
      | none, none, '\'' :: _ => none
      | none, none, cs =>
        if cs.head?.any fun c => c.toNat = 123 then
          (members? fuel cs.tail).map fun (members, rest) =>
            (.object (Entries.ofList members), rest)
        else
          let bare := cs.takeWhile fun c => !isMark c
          some (word bare, cs.drop bare.length)
    found.map fun (value, rest) => (value, skipBlanks rest)

def items? : Nat → List Char → Option (List Json × List Char)
  | 0, _ => none
  | _ + 1, ']' :: rest => some ([], rest)
  | fuel + 1, cs =>
    (value? fuel cs).bind fun (item, rest) =>
      match rest with
      | ',' :: rest => (items? fuel rest).map fun (items, rest) => (item :: items, rest)
      | ']' :: rest => some ([item], rest)
      | _ => none

def members? : Nat → List Char → Option (List (String × Json) × List Char)
  | 0, _ => none
  | fuel + 1, cs =>
    if cs.head?.any fun c => c.toNat = 125 then some ([], cs.tail)
    else
      let start := skipBlanks cs
      let key := match start with
        | '"' :: rest => quoted? (rest.length + 1) rest
        | _ =>
          let name := start.takeWhile isKeyChar
          if name.isEmpty then none else some (name, start.drop name.length)
      key.bind fun (name, rest) =>
        match skipBlanks rest with
        | '=' :: rest =>
          (value? fuel rest).bind fun (value, rest) =>
            let member := (String.ofList name, value)
            match rest with
            | ',' :: rest => (members? fuel rest).map fun (members, rest) => (member :: members, rest)
            | c :: rest => if c.toNat = 125 then some ([member], rest) else none
            | [] => none
        | _ => none

end

def parse (text : String) : Json :=
  match value? (2 * text.length + 2) text.toList with
  | some (value, []) => value
  | _ => .string text

/-- The path of the setting that a variable holds: what its name has behind a start, cut at dots.
With a separator, that one stands for a dot as well. No part may be empty. -/
def path? (start : String) (separator : Option String) (name : String) : Option (List String) :=
  let name := Text.trim name
  if Text.asciiLowercase start != Text.asciiLowercase (String.ofList (name.toList.take start.length))
  then none
  else
    let rest := String.ofList (name.toList.drop start.length)
    let dotted := match separator with
      | none => rest
      | some s => ".".intercalate (rest.splitOn s)
    let parts := Text.splitOn '.' (Text.trim dotted)
    if parts.any String.isEmpty then none else some (parts.map Text.asciiLowercase)

def nest : List String → Json → Json
  | [], value => value
  | part :: rest, value => .object [(part, nest rest value)]

mutual

def merge : Json → Json → Json
  | .object old, .object new => .object (mergeMembers old new)
  | _, new => new

def mergeMembers (old : Entries Json) : List (String × Json) → Entries Json
  | [] => old
  | (key, value) :: rest =>
    mergeMembers (old.put key (match old.get? key with
      | none => value
      | some present => merge present value)) rest

end

def settings (start : String) (separator : Option String)
    (environment : List (String × String)) : Json :=
  environment.foldl (fun settings (name, text) =>
    match path? start separator name with
    | none => settings
    | some path => merge settings (nest path (parse text))) (.object [])

end AccessControl.Client.Environment
