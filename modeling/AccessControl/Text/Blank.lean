/-!
# Blank characters and trimming

`isBlank` is the Unicode property `White_Space`, and `trim` removes blanks from both ends of a
text. `trimEnds` is the same with any class of characters, on lists; the text forms go through it.
-/

namespace AccessControl.Text

/-- The characters of the Unicode property `White_Space`. -/
def isBlank (c : Char) : Bool :=
  let n := c.toNat
  (0x9 ≤ n && n ≤ 0xD) || n == 0x20 || n == 0x85 || n == 0xA0 || n == 0x1680 ||
    (0x2000 ≤ n && n ≤ 0x200A) || n == 0x2028 || n == 0x2029 || n == 0x202F || n == 0x205F ||
    n == 0x3000

/-- The blanks below `0x80` that separate a scheme from its value: tab, line feed, form feed,
carriage return and space. -/
def isAsciiBlank (c : Char) : Bool :=
  c == ' ' || c == '\t' || c == '\n' || c == '\x0c' || c == '\r'

def trimEnds (p : Char → Bool) (cs : List Char) : List Char :=
  ((cs.dropWhile p).reverse.dropWhile p).reverse

def trim (s : String) : String :=
  String.ofList (trimEnds isBlank s.toList)

def trimChar (c : Char) (s : String) : String :=
  String.ofList (trimEnds (· == c) s.toList)

theorem toList_trim (s : String) : (trim s).toList = trimEnds isBlank s.toList := by
  simp [trim]

end AccessControl.Text
