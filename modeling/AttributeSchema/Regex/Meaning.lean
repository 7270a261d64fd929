import AttributeSchema.Regex.Pattern.Basic
import AttributeSchema.Text.Unicode.CaseFolding
import AttributeSchema.Text.Unicode.Classes

/-!
# The meaning of patterns

A pattern means an expression under the flags that hold where it stands. Flags that a pattern sets hold
for what follows in the same group, in later branches too. Without the Unicode flag, sets are sets of
bytes, and a pattern that could match a part of a character only is refused.
-/

namespace AttributeSchema.Regex

open Text (CharSet)

/-- The flags that hold at a place of a pattern. -/
structure Flags where
  ignoreCase : Bool := false
  multiLine : Bool := false
  dotAll : Bool := false
  swapGreed : Bool := false
  unicode : Bool := true
  crlf : Bool := false

namespace Flags

/-- Set and clear some flags. -/
def change (f : Flags) (changes : FlagChanges) : Flags :=
  ⟨changes.value .ignoreCase f.ignoreCase, changes.value .multiLine f.multiLine,
    changes.value .dotAll f.dotAll, changes.value .swapGreed f.swapGreed,
    changes.value .unicode f.unicode, changes.value .crlf f.crlf⟩

/-- The set with the other case of its ASCII letters. -/
def foldAscii (s : CharSet) : CharSet :=
  let others := (List.range 26).flatMap fun i =>
    (if s.covers (0x41 + i) then [0x61 + i] else [])
      ++ (if s.covers (0x61 + i) then [0x41 + i] else [])
  .unions [s, .points others]

/-- The set with the case variants of its members, if case is ignored. -/
def fold (f : Flags) (s : CharSet) : CharSet :=
  if !f.ignoreCase then s else if f.unicode then s.foldCase else foldAscii s

/-- A set or its complement. The complement of a set of bytes has bytes that are no characters. -/
def negate? (f : Flags) (negated : Bool) (s : CharSet) : Option CharSet :=
  if negated then (if f.unicode then some s.compl else none) else some s

/-- The character of a letter. A byte that is written as such is no character unless it is ASCII. -/
def char? (f : Flags) (x : Letter) : Option Char :=
  if !f.unicode ∧ x.asByte ∧ 0x80 ≤ x.char.toNat then none else some x.char

/-- The character of a letter in a class. -/
def member? (f : Flags) (x : Letter) : Option Char :=
  if !f.unicode ∧ 0x80 ≤ x.char.toNat then none else some x.char

/-- The set of a class with a letter of its own. -/
def letterClass (f : Flags) : LetterClass → CharSet
  | .digit => if f.unicode then Text.Unicode.digit else .range 0x30 0x39
  | .space =>
    if f.unicode then Text.Unicode.space else .ofSpans [⟨0x09, 0x0d⟩, ⟨0x20, 0x20⟩]
  | .word =>
    if f.unicode then Text.Unicode.word
    else .ofSpans [⟨0x30, 0x39⟩, ⟨0x41, 0x5a⟩, ⟨0x5f, 0x5f⟩, ⟨0x61, 0x7a⟩]

/-- The set of a property. -/
def property? (f : Flags) (negated : Bool) (s : CharSet) : Option CharSet :=
  if f.unicode then f.negate? negated (f.fold s) else none

/-- The set of the point. -/
def any? (f : Flags) : Option CharSet :=
  if !f.unicode then none
  else if f.dotAll then some .all
  else if f.crlf then some (.compl (.points [0x0a, 0x0d]))
  else some (.compl (.single '\n'))

end Flags

namespace SetOp

/-- The set that an operation makes of two. -/
def apply : SetOp → CharSet → CharSet → CharSet
  | .inter => CharSet.inter
  | .diff => CharSet.diff
  | .symmDiff => CharSet.symmDiff

end SetOp

namespace ClassSet

mutual

/-- The characters of what stands between the brackets of a class. -/
def meaning? (f : Flags) : ClassSet → Option CharSet
  | .empty => some .empty
  | .letter x => (f.member? x).map .single
  | .range low high =>
    match f.member? low, f.member? high with
    | some low, some high => some (.range low.toNat high.toNat)
    | _, _ => none
  | .ascii negated s => f.negate? negated (f.fold s)
  | .property negated s => f.property? negated s
  | .letterClass negated k => f.negate? negated (f.letterClass k)
  | .bracketed negated s => (meaning? f s).bind fun s => f.negate? negated (f.fold s)
  | .union items => (meaningOfAll? f items).map .unions
  | .op o a b =>
    match meaning? f a, meaning? f b with
    | some a, some b => some (o.apply (f.fold a) (f.fold b))
    | _, _ => none

/-- The characters of some items. -/
def meaningOfAll? (f : Flags) : List ClassSet → Option (List CharSet)
  | [] => some []
  | s :: rest =>
    match meaning? f s, meaningOfAll? f rest with
    | some s, some rest => some (s :: rest)
    | _, _ => none

end

end ClassSet

namespace Pattern

mutual

/-- The expression that a pattern means, and the flags that hold after it. -/
def meaning? (f : Flags) : Pattern → Option (Regex × Flags)
  | .empty => some (.empty, f)
  | .flags changes => some (.empty, f.change changes)
  | .letter x => (f.char? x).map fun c => (ofSet (f.fold (.single c)), f)
  | .any => f.any?.map fun s => (ofSet s, f)
  | .lineStart => some (.look (if f.multiLine then .lineStart f.crlf else .textStart), f)
  | .lineEnd => some (.look (if f.multiLine then .lineEnd f.crlf else .textEnd), f)
  | .textStart => some (.look .textStart, f)
  | .textEnd => some (.look .textEnd, f)
  | .word kind => some (.look (.word kind !f.unicode), f)
  | .property negated s => (f.property? negated s).map fun s => (ofSet s, f)
  | .letterClass negated k =>
    (f.negate? negated (f.letterClass k)).map fun s => (ofSet s, f)
  | .bracketed negated s =>
    (s.meaning? f).bind fun s => (f.negate? negated (f.fold s)).map fun s => (ofSet s, f)
  | .repetition p least most greedy =>
    (meaning? f p).map fun (r, f) => (repeated r least most (greedy != f.swapGreed), f)
  | .capture index p => (meaning? f p).map fun (r, _) => (.capture index r, f)
  | .group changes p => (meaning? (f.change changes) p).map fun (r, _) => (r, f)
  | .alternation ps => (meaningOfAll? f ps).map fun (rs, f) => (choice rs, f)
  | .concat ps => (meaningOfAll? f ps).map fun (rs, f) => (sequence rs, f)

/-- The expressions that some patterns mean, and the flags that hold after them. -/
def meaningOfAll? (f : Flags) : List Pattern → Option (List Regex × Flags)
  | [] => some ([], f)
  | p :: ps =>
    match meaning? f p with
    | some (r, f) => (meaningOfAll? f ps).map fun (rs, f) => (r :: rs, f)
    | none => none

end

end Pattern

end AttributeSchema.Regex
