import AttributeSchema.Text.Numeral
import AttributeSchema.Yaml.Cursor

/-!
# Tags and directives

A tag is a handle with a suffix; a directive at the start of a document may give a handle another
meaning. In a suffix a character may be written as percent signs with its octets.

Main definitions: `handle?`, `uri?` and `version?`, which read parts of tags and directives, and `Tag`,
what a tag means.
-/

namespace AttributeSchema.Yaml

/-! ## Percent signs -/

/-- Read one octet after a percent sign. -/
def octet? : List Char → Option (Nat × List Char)
  | '%' :: a :: b :: cs =>
    match Text.digit? 16 a, Text.digit? 16 b with
    | some a, some b => some (16 * a + b, cs)
    | _, _ => none
  | _ => none

/-- Read octets that continue a character. -/
def trailingOctets? : Nat → List Char → Option (List Nat × List Char)
  | 0, cs => some ([], cs)
  | n + 1, cs =>
    match octet? cs with
    | some (octet, cs) =>
      if octet / 64 = 2 then
        (trailingOctets? n cs).map fun (octets, cs) => (octet :: octets, cs)
      else none
    | none => none

/-- The number of octets that continue the character that an octet starts. -/
def trailingCount? (octet : Nat) : Option Nat :=
  if octet < 0x80 then some 0
  else if 0xc0 ≤ octet ∧ octet < 0xe0 then some 1
  else if 0xe0 ≤ octet ∧ octet < 0xf0 then some 2
  else if 0xf0 ≤ octet ∧ octet < 0xf8 then some 3
  else none

/-- Read the octets of one character. -/
def octets? (cs : List Char) : Option (List Nat × List Char) := do
  let (octet, rest) ← octet? cs
  let count ← trailingCount? octet
  let (octets, rest) ← trailingOctets? count rest
  return (octet :: octets, rest)

/-- The characters of an address. -/
def isUriChar (c : Char) : Bool := isWordChar c || "#;/?:@&=+$,.!~*'()[]%".toList.contains c

/-- Read characters of a kind that includes the percent sign. A character written as octets becomes
what `decode?` makes of them. The number is a bound on the length. -/
def uri? (isKind : Char → Bool) (decode? : List Nat → Option Char) :
    Nat → Cursor → Option (List Char × Cursor)
  | 0, p => some ([], p)
  | fuel + 1, p =>
    match p.rest with
    | [] => some ([], p)
    | '%' :: _ =>
      match octets? p.rest with
      | some (octets, rest) =>
        match decode? octets with
        | some c =>
          (uri? isKind decode? fuel (p.skip (p.rest.length - rest.length))).map
            fun (cs, p) => (c :: cs, p)
        | none => none
      | none => none
    | c :: _ =>
      if isKind c then (uri? isKind decode? fuel (p.skip 1)).map fun (cs, p) => (c :: cs, p)
      else some ([], p)

/-! ## Handles -/

/-- Read a handle: an exclamation mark, word characters, and perhaps another exclamation mark. -/
def handle? (p : Cursor) : Option (List Char × Cursor) :=
  if p.isAt '!' then
    let (word, p) := (p.skip 1).takeWhile isWordChar
    if p.isAt '!' then some ('!' :: word ++ ['!'], p.skip 1) else some ('!' :: word, p)
  else none

/-- Whether a handle has both of its exclamation marks. -/
def isClosedHandle (handle : List Char) : Bool :=
  2 ≤ handle.length && handle.getLast? == some '!'

/-- The handle and the suffix of a tag that is not in angle brackets. The characters after a lone
exclamation mark belong to the suffix, and a suffix cannot be empty unless the tag is that mark. -/
def shorthand? (suffix? : Nat → Cursor → Option (List Char × Cursor)) (p : Cursor) :
    Option (List Char × List Char × Cursor) := do
  let (handle, p) ← handle? p
  let (suffix, p) ← suffix? (p.rest.length + 1) p
  if isClosedHandle handle then
    if suffix.isEmpty then none else return (handle, suffix, p)
  else
    match handle.tail ++ suffix with
    | [] => return ([], ['!'], p)
    | suffix => return (['!'], suffix, p)

/-- Read a number of a version, of at most nine digits. -/
def versionNumber? (p : Cursor) : Option (Nat × Cursor) :=
  let (digits, p) := p.takeWhile Char.isDigit
  if digits.length ≤ 9 then (Text.readNat? 10 digits).map fun n => (n, p) else none

/-- Read the two numbers of a version. -/
def version? (p : Cursor) : Option (Nat × Nat × Cursor) := do
  let (major, p) ← versionNumber? p.skipBlankRun
  if p.isAt '.' then
    let (minor, p) ← versionNumber? (p.skip 1)
    return (major, minor, p)
  else none

/-! ## Meaning -/

/-- What a tag means. -/
inductive Tag where
  | null
  | bool
  | int
  | float
  | string
  | binary
  | timestamp
  | sequence
  | mapping
  /-- A tag of somebody else. -/
  | foreign
  /-- A tag of this document only. -/
  | own
  deriving DecidableEq, Inhabited

/-- What two exclamation marks stand for unless a directive says otherwise. -/
def corePrefix : String := "tag:yaml.org,2002:"

/-- The meaning of a suffix after the core prefix. -/
def Tag.ofCoreSuffix (suffix : String) : Tag :=
  match suffix with
  | "null" => .null
  | "bool" => .bool
  | "int" => .int
  | "float" => .float
  | "str" => .string
  | "binary" => .binary
  | "timestamp" => .timestamp
  | "seq" => .sequence
  | "map" => .mapping
  | _ => .foreign

end AttributeSchema.Yaml
