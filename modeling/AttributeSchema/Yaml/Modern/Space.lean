import AttributeSchema.Yaml.Cursor

/-!
# Space between tokens

A text of the modern dialect ends at its first null character, and its line breaks are line feeds,
carriage returns, or both in a row. After `normalize` every break is a line feed. Main definitions:
`skipToLineEnd?`, the space and the comment up to the end of a line, and `toToken?`, all space up to the
next token.
-/

namespace AttributeSchema.Yaml.Modern

/-- Make every line break a line feed. -/
def normalizeBreaks : List Char → List Char
  | '\r' :: '\n' :: cs => '\n' :: normalizeBreaks cs
  | '\r' :: cs => '\n' :: normalizeBreaks cs
  | c :: cs => c :: normalizeBreaks cs
  | [] => []

/-- The characters that count, with every line break a line feed. -/
def normalize (cs : List Char) : List Char := normalizeBreaks (cs.takeWhile (· != '\x00'))

/-- Whether a line ends before a character, or before the end of the text. -/
def endsLine : Option Char → Bool
  | none => true
  | some c => c == '\n'

/-- Whether a word ends before a character, or before the end of the text. -/
def endsWord : Option Char → Bool
  | none => true
  | some c => isBlank c || c == '\n'

/-- The space before the end of a line or before a token. -/
structure Gap where
  length : Nat := 0
  hasTab : Bool := false
  hasSpace : Bool := false

/-- The space at the start of some characters. A comment has to be separated from what is before it;
tabs count as space only if they are allowed. -/
def gap? (tabs : Bool) (g : Gap) : List Char → Option Gap
  | [] => some g
  | c :: cs =>
    if c == ' ' then gap? tabs { g with length := g.length + 1, hasSpace := true } cs
    else if tabs && c == '\t' then gap? tabs { g with length := g.length + 1, hasTab := true } cs
    else if c == '#' then
      if g.hasTab || g.hasSpace then
        some { g with length := g.length + 1 + (cs.takeWhile (· != '\n')).length }
      else none
    else some g

/-- Skip the space before the end of a line or before a token, and a comment after it. -/
def skipToLineEnd? (tabs : Bool) (p : Cursor) : Option (Cursor × Gap) :=
  (gap? tabs {} p.rest).map fun g => (p.skipBlanks g.length, g)

/-- Where a line starts in the block structure. -/
structure Margin where
  indent : Int
  /-- Some block collection is open. -/
  inBlock : Bool
  /-- Some flow collection is open. -/
  inFlow : Bool

/-- Skip all space and all comments before a token. The second part of the result says whether a line
break has been passed outside of flow collections. A tab may not indent what belongs to a block. -/
def toToken? (m : Margin) : Nat → Cursor → Option (Cursor × Bool)
  | 0, p => some (p, false)
  | fuel + 1, p =>
    match p.peek? with
    | none => some (p, false)
    | some c =>
      if c == '\t' && m.inBlock && p.leading && p.column < m.indent then
        match skipToLineEnd? true p with
        | some (p, _) => if endsLine p.peek? then toToken? m fuel p else none
        | none => none
      else if isBlank c then toToken? m fuel (p.skipBlanks 1)
      else if c == '\n' then
        (toToken? m fuel p.skipBreak).map fun (p, passed) => (p, passed || !m.inFlow)
      else if c == '#' then toToken? m fuel (p.skipBlanks (p.rest.takeWhile (· != '\n')).length)
      else some (p, false)

/-- Skip spaces, line breaks and comments after the mark of a key. There has to be a space or a break
that is not inside of a comment. -/
def afterKeyMark? (inFlow : Bool) : Nat → Bool → Cursor → Option (Cursor × Bool)
  | 0, separated, p => if separated then some (p, false) else none
  | fuel + 1, separated, p =>
    match p.peek? with
    | some ' ' => afterKeyMark? inFlow fuel true (p.skipBlanks 1)
    | some '\n' =>
      (afterKeyMark? inFlow fuel true p.skipBreak).map fun (p, passed) => (p, passed || !inFlow)
    | some '#' =>
      afterKeyMark? inFlow fuel separated (p.skipBlanks (p.rest.takeWhile (· != '\n')).length)
    | _ => if separated then some (p, false) else none

/-- Whether a document begins or ends at some characters. -/
def isMarker : List Char → Bool
  | '-' :: '-' :: '-' :: cs => endsWord cs.head?
  | '.' :: '.' :: '.' :: cs => endsWord cs.head?
  | _ => false

end AttributeSchema.Yaml.Modern
