/-!
# Places in a YAML text

A cursor is a place in a text together with its line and its column. What counts as a line break is up
to the dialect of the text; a cursor only knows how to step over a character of either kind.
-/

namespace AttributeSchema.Yaml

/-- A space or a tab. -/
def isBlank (c : Char) : Bool := c == ' ' || c == '\t'

/-- The characters that structure flow collections. -/
def isFlowIndicator (c : Char) : Bool :=
  c == ',' || c == '[' || c == ']' || c == '\x7b' || c == '\x7d'

/-- The characters of directive names and of the handles of tags. -/
def isWordChar (c : Char) : Bool := c.isAlphanum || c == '_' || c == '-'

/-- A place in a text. -/
structure Cursor where
  /-- The characters from here on. -/
  rest : List Char
  index : Nat := 0
  line : Nat := 0
  column : Nat := 0
  /-- Nothing but blanks has been passed since the line began. -/
  leading : Bool := true
  deriving Inhabited

namespace Cursor

def peek? (p : Cursor) : Option Char := p.rest.head?

/-- The character some places further on. -/
def peekAt? (p : Cursor) (n : Nat) : Option Char := p.rest[n]?

/-- Whether a character is next. -/
def isAt (p : Cursor) (c : Char) : Bool := p.rest.head? == some c

/-- Step over characters that leave the start of the line blank, or that do not matter for it. -/
def skipBlanks (p : Cursor) (n : Nat) : Cursor :=
  { p with rest := p.rest.drop n, index := p.index + n, column := p.column + n }

/-- Step over characters, none of which is a line break. -/
def skip (p : Cursor) (n : Nat) : Cursor := { p.skipBlanks n with leading := false }

/-- Step over a line break. -/
def skipBreak (p : Cursor) : Cursor :=
  { rest := p.rest.tail, index := p.index + 1, line := p.line + 1, column := 0, leading := true }

/-- The longest run of characters of a kind, and the place after it. -/
def takeWhile (p : Cursor) (isKind : Char → Bool) : List Char × Cursor :=
  let taken := p.rest.takeWhile isKind
  (taken, p.skip taken.length)

/-- The place after a run of blanks. -/
def skipBlankRun (p : Cursor) : Cursor := p.skipBlanks (p.rest.takeWhile isBlank).length

end Cursor

end AttributeSchema.Yaml
