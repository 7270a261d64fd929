import AttributeSchema.Regex.Pattern.Escape
import AttributeSchema.Text.Unicode.Classes

/-!
# Groups and counts

What follows an opening parenthesis: the name of a group, flags that hold inside of it or from there on,
or nothing in particular; and what follows an opening brace: the counts of a repetition.
-/

namespace AttributeSchema.Regex.Pattern

/-- Read the letters of flags, the ones after a hyphen being cleared, up to a colon or a closing
parenthesis, which is returned. No letter may be repeated, and a hyphen has a letter after it. -/
def readFlags? (seen : List Char) (changes : FlagChanges) :
    List Char → Option (FlagChanges × Char × List Char)
  | [] => none
  | c :: cs =>
    if c = ':' ∨ c = ')' then
      if seen.head? = some '-' ∨ (c = ')' ∧ seen = []) then none else some (changes, c, cs)
    else if seen.contains c then none
    else if c = '-' then readFlags? (c :: seen) changes cs
    else match Flag.ofLetter? c with
      | some flag => readFlags? (c :: seen) ((flag, !seen.contains '-') :: changes) cs
      | none => none

/-- Read the name of a group up to its closing angle bracket. -/
def readName? (cs : List Char) : Option (List Char × List Char) :=
  let isFirst (c : Char) : Bool := c == '_' || Text.Unicode.alphabetic.contains c
  let isNext (c : Char) : Bool :=
    isFirst c || c == '.' || c == '[' || c == ']' || Text.Unicode.numeric.contains c
  match cs.span (· != '>') with
  | (first :: next, _ :: rest) =>
    if isFirst first && next.all isNext then some (first :: next, rest) else none
  | _ => none

/-- What an opening parenthesis starts. -/
inductive Opening where
  /-- A group with a number and perhaps a name. -/
  | capture (name : Option (List Char))
  /-- A group inside which some flags are changed. -/
  | group (changes : FlagChanges)
  /-- No group, but flags that hold from here on. -/
  | flags (changes : FlagChanges)

/-- Read what follows an opening parenthesis. There is no looking around. -/
def readOpening? (verbose : Bool) (cs : List Char) : Option (Opening × List Char) :=
  match skip verbose cs with
  | '?' :: '=' :: _ | '?' :: '!' :: _ | '?' :: '<' :: '=' :: _ | '?' :: '<' :: '!' :: _ => none
  | '?' :: 'P' :: '<' :: cs | '?' :: '<' :: cs =>
    (readName? cs).map fun (name, rest) => (.capture (some name), rest)
  | '?' :: cs =>
    match readFlags? [] [] cs with
    | some (changes, ':', rest) => some (.group changes, rest)
    | some (changes, _, rest) => some (.flags changes, rest)
    | none => none
  | cs => some (.capture none, cs)

/-- Read a count: a number of 32 bits that may have white space on both sides. -/
def readCount? (verbose : Bool) (cs : List Char) : Option (Nat × List Char) :=
  let (digits, rest) := takeSpaced verbose Char.isDigit false none (Text.trimStart cs)
  match Text.readNat? 10 digits with
  | some n => if n < 0x100000000 then some (n, Text.trimStart rest) else none
  | none => none

/-- Read the counts of a repetition after its opening brace. -/
def readCounts? (verbose : Bool) (cs : List Char) : Option (Nat × Option Nat × List Char) :=
  match readCount? verbose (skip verbose cs) with
  | some (least, '\x7d' :: rest) => some (least, some least, rest)
  | some (least, ',' :: rest) =>
    match skip verbose rest with
    | '\x7d' :: rest => some (least, none, rest)
    | rest =>
      match readCount? verbose rest with
      | some (most, '\x7d' :: rest) => if least ≤ most then some (least, some most, rest) else none
      | _ => none
  | _ => none

end AttributeSchema.Regex.Pattern
