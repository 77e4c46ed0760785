import AccessControl.Bytes.Percent
import AccessControl.Text.Split
import AccessControl.Url.Punycode

/-!
# Hosts in URLs

A host is a domain name, an IPv4 address or an IPv6 address in brackets, and each has one written
form. Names are lower-cased, and labels beyond ASCII are written in Punycode. A name whose last
label is a number is an IPv4 address, which may be written with fewer than four parts and in
octal or hexadecimal digits. In an IPv6 address the longest run of zero groups is left out.
-/

namespace AccessControl.Url

/-- The value of a numeral to a base, if all characters are digits of the base. -/
def numeral? (base : Nat) (cs : List Char) : Option Nat :=
  cs.foldlM (fun n c =>
    match Bytes.hexValue? c with
    | some d => if d < base then some (n * base + d) else none
    | none => none) 0

/-- A part of an IPv4 address: hexadecimal after `0x`, octal after another zero. -/
def addressPart? : List Char → Option Nat
  | [] => none
  | '0' :: x :: cs => if x == 'x' || x == 'X' then numeral? 16 cs else numeral? 8 (x :: cs)
  | cs => numeral? 10 cs

/-- The labels of a name, without the empty one after a final dot. -/
def labels (name : List Char) : List (List Char) :=
  let all := Text.splitList '.' name
  if 1 < all.length && all.getLast?.any List.isEmpty then all.dropLast else all

def endsInNumber (name : List Char) : Bool :=
  match (labels name).getLast? with
  | none => false
  | some label =>
    (!label.isEmpty && label.all Char.isDigit) ||
      match label with
      | '0' :: x :: cs => (x == 'x' || x == 'X') && (numeral? 16 cs).isSome
      | _ => false

def ipv4Text (address : Nat) : String :=
  ".".intercalate ([address / Nat.pow 2 24, address / Nat.pow 2 16 % 256, address / Nat.pow 2 8 % 256,
    address % 256].map toString)

/-- The written form of an IPv4 address. The last part fills all bytes that are left. -/
def ipv4? (name : List Char) : Option String :=
  let parts := labels name
  if 4 < parts.length then none
  else do
    let numbers ← parts.mapM addressPart?
    let last ← numbers.getLast?
    let front := numbers.dropLast
    if front.any (255 < ·) || Nat.pow 256 (4 - front.length) ≤ last then none
    else
      let high := front.foldl (fun n part => n * 256 + part) 0
      some (ipv4Text (high * Nat.pow 256 (4 - front.length) + last))

/-- A group of an IPv6 address: one to four hexadecimal digits. -/
def group? (cs : List Char) : Option Nat :=
  if 1 ≤ cs.length && cs.length ≤ 4 then numeral? 16 cs else none

def byte? (cs : List Char) : Option Nat :=
  if cs.isEmpty || 3 < cs.length || (1 < cs.length && cs.head? == some '0') then none
  else (numeral? 10 cs).filter (· < 256)

/-- The groups between colons; the last two may be written as an IPv4 address. -/
def groups? (text : List Char) : Option (List Nat) :=
  if text.isEmpty then some []
  else
    let pieces := Text.splitList ':' text
    match pieces.getLast? with
    | some last =>
      if last.contains '.' then
        match (Text.splitList '.' last).mapM byte?, pieces.dropLast.mapM group? with
        | some [a, b, c, d], some front => some (front ++ [a * 256 + b, c * 256 + d])
        | _, _ => none
      else pieces.mapM group?
    | none => none

def splitDoubleColon : List Char → Option (List Char × List Char)
  | ':' :: ':' :: rest => some ([], rest)
  | c :: rest => (splitDoubleColon rest).map fun (before, after) => (c :: before, after)
  | [] => none

/-- The eight groups of an IPv6 address. A `::` stands for the groups that are missing, which must
be one at least. -/
def ipv6? (text : List Char) : Option (List Nat) :=
  match splitDoubleColon text with
  | none => (groups? text).filter (·.length = 8)
  | some (before, after) =>
    if before.contains '.' then none
    else
      match groups? before, groups? after with
      | some front, some back =>
        if front.length + back.length ≤ 7 then
          some (front ++ List.replicate (8 - front.length - back.length) 0 ++ back)
        else none
      | _, _ => none

/-- The start and length of the longest run of zeros, the first of equally long ones. -/
def longestZeroRun (groups : List Nat) : Nat × Nat :=
  (List.range groups.length).foldl (fun best start =>
    let run := ((groups.drop start).takeWhile (· == 0)).length
    if best.2 < run then (start, run) else best) (0, 0)

def groupText (n : Nat) : String := String.ofList (Nat.toDigits 16 n)

def ipv6Text (groups : List Nat) : String :=
  let (start, run) := longestZeroRun groups
  let write := fun (part : List Nat) => ":".intercalate (part.map groupText)
  if run < 2 then write groups
  else write (groups.take start) ++ "::" ++ write (groups.drop (start + run))

def isForbidden (c : Char) : Bool :=
  c.toNat ≤ 32 || c.toNat == 127 || "#%/:<>?@[\\]^|".toList.contains c

def asciiLabel (label : List Char) : List Char :=
  if label.all (·.toNat < 128) then label else "xn--".toList ++ Punycode.encode label

def host? (text : List Char) : Option String :=
  match text with
  | '[' :: rest =>
    if rest.getLast? == some ']' then
      (ipv6? rest.dropLast).map fun groups => "[" ++ ipv6Text groups ++ "]"
    else none
  | _ =>
    let decoded := Text.ofUtf8Lossy (Bytes.percentDecode (Text.utf8 (String.ofList text)))
    let name := (Text.lowercase decoded).toList
    let ascii := ['.'].intercalate ((Text.splitList '.' name).map asciiLabel)
    if ascii.isEmpty || ascii.any isForbidden then none
    else if endsInNumber ascii then ipv4? ascii
    else some (String.ofList ascii)

def opaqueHost? (text : List Char) : Option String :=
  match text with
  | '[' :: _ => host? text
  | _ =>
    if text.any fun c => c.toNat == 0 || " #/:<>?@[\\]^|".toList.contains c then none
    else some (Bytes.percentEncode (fun b => b < 32 || b == 127) (String.ofList text))

end AccessControl.Url
