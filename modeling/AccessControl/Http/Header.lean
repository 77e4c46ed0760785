import AccessControl.Text.Lowercase

/-!
# Header names and values

A header name is a token of ASCII characters and is kept in lower case. A value is readable as
text when all its characters are visible ASCII, spaces or tabs; any other value counts as absent
for whoever reads it. `first?` looks up the first value of a name.
-/

namespace AccessControl.Http

def isNameChar (c : Char) : Bool :=
  c.isAlphanum || "!#$%&'*+-.^_\x60|~".toList.contains c

def isHeaderName (name : String) : Bool :=
  !name.isEmpty && name.utf8ByteSize < UInt16.size && name.toList.all isNameChar

/-- A value that may be sent: no control characters but tabs. -/
def isHeaderValue (value : String) : Bool :=
  value.toList.all fun c => c == '\t' || (32 ≤ c.toNat && c.toNat ≠ 127)

/-- Visible ASCII, a space or a tab. -/
def isReadableChar (c : Char) : Bool :=
  c == '\t' || (32 ≤ c.toNat && c.toNat < 127)

def isReadable (value : String) : Bool := value.toList.all isReadableChar

/-- Header fields in the order of arrival, with lower-case names. -/
abbrev Fields := List (String × String)

namespace Fields

/-- The fields with the given names, brought to lower case. -/
def ofList (list : List (String × String)) : Fields :=
  list.map fun (name, value) => (Text.asciiLowercase name, value)

def first? (fields : Fields) (name : String) : Option String :=
  (fields.find? fun field => field.1 == name).map (·.2)

/-- The first value under a name of any case, if it is readable. -/
def text? (fields : Fields) (name : String) : Option String :=
  (fields.first? (Text.asciiLowercase name)).filter isReadable

end Fields

end AccessControl.Http
