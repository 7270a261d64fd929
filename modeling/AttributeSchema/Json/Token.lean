/-!
# Lexemes of JSON

A JSON text is a sequence of punctuation marks, strings and words; a word is a number or one of the
three names. White space between them is dropped. A string is kept as it is written: its escapes have
the right form, and `unescape?` says what they stand for. The scanner reads one character at a time and
keeps what it has seen of the present lexeme, so it ends with the text.
-/

namespace AttributeSchema.Json

/-- A lexeme of a JSON text. -/
inductive Token where
  | openArray
  | closeArray
  | openObject
  | closeObject
  | comma
  | colon
  | string (written : List Char)
  | word (cs : List Char)
  deriving DecidableEq

namespace Token

/-- The value of four hexadecimal digits. -/
def hexUnit? (a b c d : Char) : Option Nat :=
  [a, b, c, d].foldlM (fun n x =>
    if x.isDigit then some (16 * n + (x.toNat - 48))
    else if 'a' ≤ x ∧ x ≤ 'f' then some (16 * n + (x.toNat - 87))
    else if 'A' ≤ x ∧ x ≤ 'F' then some (16 * n + (x.toNat - 55))
    else none) 0

/-- The character that a letter after a backslash stands for. -/
def simpleEscape? : Char → Option Char
  | '"' => some '"'
  | '\\' => some '\\'
  | '/' => some '/'
  | 'b' => some '\x08'
  | 'f' => some '\x0c'
  | 'n' => some '\n'
  | 'r' => some '\r'
  | 't' => some '\t'
  | _ => none

/-- Whether the characters between two quotes have the right form: no control characters, and each
backslash starts an escape. -/
def isWritten : List Char → Bool
  | [] => true
  | '\\' :: 'u' :: a :: b :: c :: d :: rest => (hexUnit? a b c d).isSome && isWritten rest
  | '\\' :: c :: rest => (simpleEscape? c).isSome && isWritten rest
  | c :: rest => 0x20 ≤ c.toNat && c != '\\' && isWritten rest

/-- What the characters between two quotes stand for. Half of a surrogate pair stands for nothing. -/
def unescape? : List Char → Option (List Char)
  | [] => some []
  | '\\' :: 'u' :: a :: b :: c :: d :: rest =>
    match hexUnit? a b c d with
    | none => none
    | some unit =>
      if 0xd800 ≤ unit ∧ unit < 0xdc00 then
        match rest with
        | '\\' :: 'u' :: e :: f :: g :: h :: rest =>
          match hexUnit? e f g h with
          | some low =>
            if 0xdc00 ≤ low ∧ low < 0xe000 then
              (unescape? rest).map
                (Char.ofNat (0x10000 + (unit - 0xd800) * 0x400 + (low - 0xdc00)) :: ·)
            else none
          | none => none
        | _ => none
      else if 0xdc00 ≤ unit ∧ unit < 0xe000 then none
      else (unescape? rest).map (Char.ofNat unit :: ·)
  | '\\' :: c :: rest =>
    match simpleEscape? c with
    | some x => (unescape? rest).map (x :: ·)
    | none => none
  | c :: rest => if c.toNat < 0x20 ∨ c = '\\' then none else (unescape? rest).map (c :: ·)

/-- What the scanner has seen of the present lexeme, latest character first. -/
inductive Mode where
  | between
  | inWord (seen : List Char)
  | inString (seen : List Char)
  | afterBackslash (seen : List Char)

/-- Whether a character belongs to words. -/
def isWordChar (c : Char) : Bool := c.isAlphanum || c == '+' || c == '-' || c == '.'

/-- The lexemes completed by a character between lexemes, and the mode that follows it. -/
def start? (c : Char) : Option (List Token × Mode) :=
  if c = ' ' ∨ c = '\n' ∨ c = '\t' ∨ c = '\r' then some ([], .between)
  else if c = '[' then some ([.openArray], .between)
  else if c = ']' then some ([.closeArray], .between)
  else if c = '\x7b' then some ([.openObject], .between)
  else if c = '\x7d' then some ([.closeObject], .between)
  else if c = ',' then some ([.comma], .between)
  else if c = ':' then some ([.colon], .between)
  else if c = '"' then some ([], .inString [])
  else if isWordChar c then some ([], .inWord [c])
  else none

/-- The lexemes completed by a character, and the mode that follows it. -/
def step? : Mode → Char → Option (List Token × Mode)
  | .between, c => start? c
  | .inWord seen, c =>
    if isWordChar c then some ([], .inWord (c :: seen))
    else (start? c).map fun (tokens, mode) => (.word seen.reverse :: tokens, mode)
  | .inString seen, c =>
    if c = '"' then
      let written := seen.reverse
      if isWritten written then some ([.string written], .between) else none
    else if c = '\\' then some ([], .afterBackslash (c :: seen))
    else some ([], .inString (c :: seen))
  | .afterBackslash seen, c => some ([], .inString (c :: seen))

/-- The lexemes left at the end of the text. -/
def finish? : Mode → Option (List Token)
  | .between => some []
  | .inWord seen => some [.word seen.reverse]
  | _ => none

/-- The lexemes of a text from a mode on, after the ones in `done` (latest first). -/
def scanFrom? (done : List Token) : Mode → List Char → Option (List Token)
  | mode, [] => (finish? mode).map fun last => (last ++ done).reverse
  | mode, c :: cs =>
    match step? mode c with
    | some (tokens, mode) => scanFrom? (tokens.reverse ++ done) mode cs
    | none => none

/-- The lexemes of a text. -/
def scan? (cs : List Char) : Option (List Token) := scanFrom? [] .between cs

end Token

end AttributeSchema.Json
