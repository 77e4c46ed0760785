import AccessControl.Json.Basic
import AccessControl.Bytes.Hex
import AccessControl.Text.Utf8

/-!
# Writing JSON text

`compact` writes a value without white space, the members of an object in the order in which it
holds them. Control characters, the quote and the backslash are escaped; all other characters
stand for themselves.
-/

namespace AccessControl.Json

def escapeChar (c : Char) : List Char :=
  if c == '"' then ['\\', '"']
  else if c == '\\' then ['\\', '\\']
  else if c.toNat = 8 then ['\\', 'b']
  else if c.toNat = 12 then ['\\', 'f']
  else if c == '\n' then ['\\', 'n']
  else if c == '\r' then ['\\', 'r']
  else if c == '\t' then ['\\', 't']
  else if c.toNat < 32 then
    ['\\', 'u', '0', '0', Bytes.hexDigit (c.toNat / 16), Bytes.hexDigit (c.toNat % 16)]
  else [c]

def quoteChars (s : String) : List Char :=
  '"' :: (s.toList.flatMap escapeChar ++ ['"'])

mutual

def compactChars : Json → List Char
  | .null => "null".toList
  | .bool true => "true".toList
  | .bool false => "false".toList
  | .number n => n.text.toList
  | .string s => quoteChars s
  | .array [] => ['[', ']']
  | .array (item :: rest) => '[' :: (compactChars item ++ itemChars rest)
  | .object [] => [Char.ofNat 123, Char.ofNat 125]
  | .object ((key, value) :: rest) =>
    Char.ofNat 123 :: (quoteChars key ++ ':' :: (compactChars value ++ memberChars rest))

def itemChars : List Json → List Char
  | [] => [']']
  | item :: rest => ',' :: (compactChars item ++ itemChars rest)

def memberChars : List (String × Json) → List Char
  | [] => [Char.ofNat 125]
  | (key, value) :: rest => ',' :: (quoteChars key ++ ':' :: (compactChars value ++ memberChars rest))

end

def compact (json : Json) : String := String.ofList (compactChars json)

end AccessControl.Json
