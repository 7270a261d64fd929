import AttributeSchema.Regex.Pattern.Basic
import AttributeSchema.Regex.Pattern.Space
import AttributeSchema.Regex.Property
import AttributeSchema.Text.Numeral

/-!
# Escapes

What follows a backslash in a pattern: a character by name or by number, a class, a property or an
assertion.
-/

namespace AttributeSchema.Regex.Pattern

/-- Whether a character is a hexadecimal digit. -/
def isHexDigit (c : Char) : Bool := (Text.readNat? 16 [c]).isSome

/-- Read the number of a character: `width` digits, or any number of them in braces. -/
def readCodePoint? (verbose : Bool) (width : Nat) (cs : List Char) : Option (Pattern × List Char) :=
  match skip verbose cs with
  | '\x7b' :: rest =>
    match takeSpaced verbose isHexDigit false none rest with
    | (digits, '\x7d' :: rest) => (Text.charOfHex? digits).map fun c => (.letter ⟨c, false⟩, rest)
    | _ => none
  | cs =>
    let (digits, rest) := takeSpaced verbose isHexDigit false (some width) cs
    if digits.length = width then
      (Text.charOfHex? digits).map fun c => (.letter ⟨c, width = 2⟩, rest)
    else none

/-- Read a property: one letter, or a text in braces. -/
def readProperty? (verbose negated : Bool) (cs : List Char) : Option (Pattern × List Char) :=
  match skip verbose cs with
  | '\x7b' :: rest =>
    match takeSpaced verbose (· != '\x7d') false none rest with
    | (text, _ :: rest) =>
      (namedSet? text).map fun (s, differs) => (.property (negated != differs) s, rest)
    | _ => none
  | '\\' :: _ => none
  | c :: rest => (propertySet? [c]).map fun s => (.property negated s, rest)
  | [] => none

/-- The boundary of a name. -/
def boundary? : String → Option WordLook
  | "start" => some .start
  | "end" => some .stop
  | "start-half" => some .startHalf
  | "end-half" => some .stopHalf
  | _ => none

/-- Read what follows the letter of a boundary. A brace before a letter or a hyphen opens a name; a brace
before anything else belongs to a repetition. -/
def readBoundary? (verbose : Bool) (cs : List Char) : Option (Pattern × List Char) :=
  let isNameChar (c : Char) : Bool := c.isAlpha || c == '-'
  match cs with
  | '\x7b' :: rest =>
    match skip verbose rest with
    | [] => none
    | c :: _ =>
      if isNameChar c then
        match takeSpaced verbose isNameChar false none rest with
        | (name, '\x7d' :: rest) =>
          (boundary? (String.ofList name)).map fun kind => (.word kind, rest)
        | _ => none
      else some (.word .boundary, cs)
  | _ => some (.word .boundary, cs)

/-- Read what follows a backslash. -/
def readEscape? (verbose : Bool) : List Char → Option (Pattern × List Char)
  | [] => none
  | c :: cs =>
    let letter (x : Char) := some (Pattern.letter ⟨x, false⟩, cs)
    match c with
    | 'x' => readCodePoint? verbose 2 cs
    | 'u' => readCodePoint? verbose 4 cs
    | 'U' => readCodePoint? verbose 8 cs
    | 'p' => readProperty? verbose false cs
    | 'P' => readProperty? verbose true cs
    | 'd' => some (.letterClass false .digit, cs)
    | 'D' => some (.letterClass true .digit, cs)
    | 's' => some (.letterClass false .space, cs)
    | 'S' => some (.letterClass true .space, cs)
    | 'w' => some (.letterClass false .word, cs)
    | 'W' => some (.letterClass true .word, cs)
    | 'a' => letter '\x07'
    | 'f' => letter '\x0c'
    | 't' => letter '\t'
    | 'n' => letter '\n'
    | 'r' => letter '\r'
    | 'v' => letter '\x0b'
    | 'A' => some (.textStart, cs)
    | 'z' => some (.textEnd, cs)
    | 'b' => readBoundary? verbose cs
    | 'B' => some (.word .inside, cs)
    | '<' => some (.word .start, cs)
    | '>' => some (.word .stop, cs)
    | c => if c.toNat < 0x80 ∧ ¬ c.isAlphanum then letter c else none

end AttributeSchema.Regex.Pattern
