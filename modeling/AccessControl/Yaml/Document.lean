import AccessControl.Yaml.Flow

/-!
# YAML documents

A document is read line by line; blocks are told apart by their indentation. A block is a mapping
of keys, a sequence of items behind hyphens, or a value that is written in one piece. Of several
members with one key the last stays. Anchors, tags and directives are refused.
-/

namespace AccessControl.Yaml

/-- A line: its indentation and what follows. -/
structure Line where
  indent : Nat
  text : List Char
deriving DecidableEq, Inhabited

namespace Line

def of (cs : List Char) : Line :=
  let text := cs.dropWhile (· == ' ')
  ⟨cs.length - text.length, Text.trimEnds (· == '\r') text⟩

/-- Whether the line holds nothing, or only a comment. -/
def isBlank (line : Line) : Bool :=
  match skipSpaces line.text with
  | [] => true
  | c :: _ => c == '#'

def isItem (line : Line) : Bool :=
  match line.text with
  | '-' :: rest => rest.head?.all isSpace
  | _ => false

def piece (line : Line) : List Char := Text.trimEnds isSpace line.text

end Line

def skipBlank (lines : List Line) : List Line := lines.dropWhile Line.isBlank

/-- The lines at the front that hold nothing or are indented by more than a number of blanks. -/
def takeDeeper (indent : Nat) (lines : List Line) : List Line :=
  lines.takeWhile fun line => line.isBlank || indent < line.indent

/-- Joins lines to one text: a line break becomes a blank, and empty lines become line breaks. -/
def fold (lines : List (List Char)) : List Char :=
  match lines with
  | [] => []
  | first :: rest =>
    let step := fun (acc : List Char × Nat) (line : List Char) =>
      if line.isEmpty then (acc.1, acc.2 + 1)
      else
        (acc.1 ++ (if acc.2 = 0 then [' '] else List.replicate acc.2 '\n') ++ line, 0)
    (rest.foldl step (first, 0)).1

/-- The text of a block of lines with its line breaks, or folded. The head may hold a sign: a minus
drops the last line break and a plus keeps all of them. -/
def blockText? (head : List Char) (lines : List Line) : Option String :=
  let folded := head.head? == some '>'
  let marks := Text.trimEnds isSpace (withoutComment head.tail)
  let keepLine := fun (line : Line) => !line.text.isEmpty
  let base := ((lines.filter keepLine).map Line.indent).head?.getD 0
  let raw := lines.map fun line => List.replicate (line.indent - base) ' ' ++ line.text
  let body := (raw.reverse.dropWhile (·.isEmpty)).reverse
  let text := if folded then fold body else ['\n'].intercalate body
  let trailing := raw.length - body.length
  if body.isEmpty then some ""
  else if marks.isEmpty then some (String.ofList (text ++ ['\n']))
  else if marks = ['-'] then some (String.ofList text)
  else if marks = ['+'] then some (String.ofList (text ++ List.replicate (trailing + 1) '\n'))
  else none

mutual

/-- Reads the block that the lines start with. The first number bounds the blocks read. -/
def block? : Nat → List Line → Option (Json × List Line)
  | 0, _ => none
  | fuel + 1, lines =>
    match skipBlank lines with
    | [] => some (.null, [])
    | line :: rest =>
      if line.isItem then
        (items? fuel line.indent (line :: rest)).map fun (items, rest) => (.array items, rest)
      else if (splitKey line.text).isSome then
        (members? fuel line.indent [] (line :: rest)).map fun (members, rest) =>
          (.object members, rest)
      else
        let more := takeDeeper (line.indent - 1) rest
        (inline? (fold ((line :: more).map Line.piece))).map fun value =>
          (value, rest.drop more.length)

def items? : Nat → Nat → List Line → Option (List Json × List Line)
  | 0, _, _ => none
  | fuel + 1, indent, lines =>
    match skipBlank lines with
    | [] => some ([], [])
    | line :: rest =>
      if line.indent < indent || (line.indent = indent && !line.isItem) then some ([], line :: rest)
      else if line.indent ≠ indent then none
      else
        let body := skipSpaces line.text.tail
        let inner : Line := ⟨indent + line.text.length - body.length, body⟩
        let item :=
          if inner.isBlank then
            match skipBlank rest with
            | next :: _ => if indent < next.indent then block? fuel rest else some (.null, rest)
            | [] => some (.null, [])
          else block? fuel (inner :: rest)
        item.bind fun (value, rest) =>
          (items? fuel indent rest).map fun (values, rest) => (value :: values, rest)

def members? : Nat → Nat → Entries Json → List Line → Option (Entries Json × List Line)
  | 0, _, _, _ => none
  | fuel + 1, indent, members, lines =>
    match skipBlank lines with
    | [] => some (members, [])
    | line :: rest =>
      if line.indent < indent then some (members, line :: rest)
      else if line.indent ≠ indent then none
      else
        match splitKey line.text with
        | none => none
        | some (key, after) =>
          let after := skipSpaces after
          let more := takeDeeper indent rest
          let value :=
            if (Line.mk 0 after).isBlank then
              match skipBlank rest with
              | next :: _ =>
                if indent < next.indent || (next.indent = indent && next.isItem) then
                  block? fuel rest
                else some (.null, rest)
              | [] => some (.null, [])
            else if after.head? == some '|' || after.head? == some '>' then
              (blockText? after more).map fun text =>
                (.string text, rest.drop more.length)
            else
              (inline? (fold (after :: more.map Line.piece))).map fun value =>
                (value, rest.drop more.length)
          value.bind fun (value, rest) => members? fuel indent (members.put key value) rest

end

def isMarker (mark : String) (cs : List Char) : Bool :=
  mark.toList.isPrefixOf cs && (cs.drop 3).head?.all fun c => isSpace c || c == '\r'

/-- The lines of the only document of a text, without its markers. -/
def documentLines? (lines : List (List Char)) : Option (List Line) :=
  let lines := match lines.dropWhile fun cs => (Line.of cs).isBlank with
    | first :: rest => if isMarker "---" first then (first.drop 3) :: rest else first :: rest
    | [] => []
  let body := lines.takeWhile fun cs => !isMarker "..." cs
  let rest := lines.drop (body.length + 1)
  let found := body.map Line.of
  if body.any (isMarker "---") || rest.any fun cs => !(Line.of cs).isBlank then none
  else if found.any fun line => !line.isBlank && line.text.head? == some '\t' then none
  else some found

/-- The value of a YAML text, `some none` if it holds no document. -/
def read? (text : String) : Option (Option Json) :=
  match documentLines? (Text.splitList '\n' text.toList) with
  | none => none
  | some lines =>
    if (skipBlank lines).isEmpty then some none
    else
      match block? (2 * text.length + 2) lines with
      | some (value, rest) => if (skipBlank rest).isEmpty then some (some value) else none
      | none => none

end AccessControl.Yaml
