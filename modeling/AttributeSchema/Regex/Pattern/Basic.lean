import AttributeSchema.Regex.Basic

/-!
# Patterns

A pattern is what the text of a regular expression says, before it is given a meaning: flags can be set in
the middle of it, and what its parts stand for depends on the flags that hold there.
-/

namespace AttributeSchema.Regex

open Text (CharSet)

/-! ## Flags -/

/-- A switch that patterns can set from inside. -/
inductive Flag where
  | ignoreCase
  | multiLine
  | dotAll
  | swapGreed
  | unicode
  | crlf
  | verbose
  deriving DecidableEq, Repr

/-- The flag of a letter. -/
def Flag.ofLetter? : Char → Option Flag
  | 'i' => some .ignoreCase
  | 'm' => some .multiLine
  | 's' => some .dotAll
  | 'U' => some .swapGreed
  | 'u' => some .unicode
  | 'R' => some .crlf
  | 'x' => some .verbose
  | _ => none

/-- Flags that are set or cleared. -/
abbrev FlagChanges := List (Flag × Bool)

/-- The value that changes give to a flag. -/
def FlagChanges.value (changes : FlagChanges) (flag : Flag) (before : Bool) : Bool :=
  (List.lookup flag changes).getD before

/-! ## Classes -/

/-- A character of a pattern, and whether it is written as a byte: by two hexadecimal digits. -/
structure Letter where
  char : Char
  asByte : Bool
  deriving DecidableEq, Repr

/-- The classes that have a letter of their own. -/
inductive LetterClass where
  | digit
  | space
  | word
  deriving DecidableEq, Repr

/-- An operation between two sets of a class. -/
inductive SetOp where
  | inter
  | diff
  | symmDiff
  deriving DecidableEq, Repr

/-- What stands between the brackets of a class. -/
inductive ClassSet where
  | empty
  | letter (x : Letter)
  | range (low high : Letter)
  /-- A class that is named between colons. -/
  | ascii (negated : Bool) (s : CharSet)
  | property (negated : Bool) (s : CharSet)
  | letterClass (negated : Bool) (k : LetterClass)
  | bracketed (negated : Bool) (s : ClassSet)
  | union (items : List ClassSet)
  | op (o : SetOp) (a b : ClassSet)

namespace ClassSet

/-- The set of some items, latest first. -/
def ofItems : List ClassSet → ClassSet
  | [] => .empty
  | [item] => item
  | items => .union items.reverse

mutual

/-- How deep brackets, unions and operations are nested. -/
def depth : ClassSet → Nat
  | .bracketed _ s => depth s + 1
  | .union items => depthOfAll items + 1
  | .op _ a b => max (depth a) (depth b) + 1
  | _ => 0

/-- The greatest depth of some sets. -/
def depthOfAll : List ClassSet → Nat
  | [] => 0
  | s :: rest => max (depth s) (depthOfAll rest)

end

end ClassSet

/-! ## Patterns -/

/-- A pattern. -/
inductive Pattern where
  | empty
  /-- Flags that hold from here on. -/
  | flags (changes : FlagChanges)
  | letter (x : Letter)
  /-- The point, for any character. -/
  | any
  | lineStart
  | lineEnd
  | textStart
  | textEnd
  | word (kind : WordLook)
  | property (negated : Bool) (s : CharSet)
  | letterClass (negated : Bool) (k : LetterClass)
  | bracketed (negated : Bool) (s : ClassSet)
  | repetition (p : Pattern) (least : Nat) (most : Option Nat) (greedy : Bool)
  | capture (index : Nat) (p : Pattern)
  /-- A group without a number, inside which some flags are changed. -/
  | group (changes : FlagChanges) (p : Pattern)
  | alternation (ps : List Pattern)
  | concat (ps : List Pattern)

namespace Pattern

/-- The pattern of some items, latest first. -/
def ofItems : List Pattern → Pattern
  | [] => .empty
  | [p] => p
  | ps => .concat ps.reverse

/-- The pattern of some branches, latest first. -/
def ofBranches : List Pattern → Pattern
  | [p] => p
  | ps => .alternation ps.reverse

/-- A pattern of one character as an item of a class. -/
def classItem? : Pattern → Option ClassSet
  | .letter x => some (.letter x)
  | .property negated s => some (.property negated s)
  | .letterClass negated k => some (.letterClass negated k)
  | _ => none

/-- Whether the pattern can be repeated: it does more than to set flags. -/
def isRepeatable : Pattern → Bool
  | .empty | .flags _ => false
  | _ => true

mutual

/-- How deep classes, repetitions, groups, alternations and concatenations are nested. -/
def depth : Pattern → Nat
  | .bracketed _ s => s.depth + 1
  | .repetition p _ _ _ => depth p + 1
  | .capture _ p => depth p + 1
  | .group _ p => depth p + 1
  | .alternation ps => depthOfAll ps + 1
  | .concat ps => depthOfAll ps + 1
  | _ => 0

/-- The greatest depth of some patterns. -/
def depthOfAll : List Pattern → Nat
  | [] => 0
  | p :: rest => max (depth p) (depthOfAll rest)

end

/-- The greatest depth that is accepted. -/
def maxDepth : Nat := 250

end Pattern

end AttributeSchema.Regex
