import AttributeSchema.Yaml.Cursor

/-!
# Characters and space

A text of the classic dialect holds printable characters only. Its line breaks are line feeds, carriage
returns, both in a row, and next-line characters, all of which `normalize?` makes line feeds, and the
line and paragraph separators, which stay what they are.
-/

namespace AttributeSchema.Yaml.Classic

/-- Whether a character may occur in a text. -/
def isPrintable (c : Char) : Bool :=
  c == '\t' || c == '\n' || c == '\r' || (' ' ≤ c && c ≤ '~') || c == '\u0085'
    || ('\u00a0' ≤ c && c ≤ '\ufffd' && c != '\ufeff') || 0x10000 ≤ c.toNat

/-- Make every line break a line feed, separators apart. -/
def normalizeBreaks : List Char → List Char
  | '\r' :: '\n' :: cs => '\n' :: normalizeBreaks cs
  | '\r' :: cs => '\n' :: normalizeBreaks cs
  | '\u0085' :: cs => '\n' :: normalizeBreaks cs
  | c :: cs => c :: normalizeBreaks cs
  | [] => []

/-- The characters of a text with one kind of line break, if all of them may occur. -/
def normalize? (cs : List Char) : Option (List Char) :=
  if cs.all isPrintable then some (normalizeBreaks cs) else none

/-- Whether a character breaks a line. -/
def isBreak (c : Char) : Bool := c == '\n' || c == '\u2028' || c == '\u2029'

/-- Whether a word ends before a character, or before the end of the text. -/
def endsWord : Option Char → Bool
  | none => true
  | some c => isBlank c || isBreak c

/-- Whether a document begins or ends at some characters. -/
def isMarker : List Char → Bool
  | '-' :: '-' :: '-' :: cs => endsWord cs.head?
  | '.' :: '.' :: '.' :: cs => endsWord cs.head?
  | _ => false

/-- Skip a comment if one is next. -/
def skipComment (p : Cursor) : Cursor :=
  if p.isAt '#' then p.skip (p.rest.takeWhile fun c => !isBreak c).length else p

/-- Skip the blanks, the comment and the break at the end of a line, where nothing else may stand. -/
def lineEnd? (p : Cursor) : Option Cursor :=
  let p := skipComment p.skipBlankRun
  match p.peek? with
  | none => some p
  | some c => if isBreak c then some p.skipBreak else none

/-- Skip all space and all comments before a token. Tabs count as space only if they are allowed, but in
block style they are not after a line break, where a key may start. The second part of the result says
whether a line break has been passed. -/
def toToken (inFlow : Bool) : Nat → (tabs : Bool) → Cursor → Cursor × Bool
  | 0, _, p => (p, false)
  | fuel + 1, tabs, p =>
    match p.peek? with
    | none => (p, false)
    | some c =>
      if c == ' ' || (tabs && c == '\t') then toToken inFlow fuel tabs (p.skip 1)
      else if c == '#' then toToken inFlow fuel tabs (skipComment p)
      else if isBreak c then ((toToken inFlow fuel inFlow p.skipBreak).1, true)
      else (p, false)

/-- The characters that octets stand for. -/
def charOfOctets? : List Nat → Option Char
  | [a] => some (Char.ofNat a)
  | [a, b] => some (Char.ofNat (64 * (a % 32) + b % 64))
  | [a, b, c] => some (Char.ofNat (4096 * (a % 16) + 64 * (b % 64) + c % 64))
  | [a, b, c, d] =>
    some (Char.ofNat (262144 * (a % 8) + 4096 * (b % 64) + 64 * (c % 64) + d % 64))
  | _ => none

end AttributeSchema.Yaml.Classic
