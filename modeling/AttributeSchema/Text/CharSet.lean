/-!
# Sets of characters

A set of characters is a list of spans of code points in ascending order, with at least one code point
left out between a span and the next. A set has one such list only, so equal sets are equal values.
-/

namespace AttributeSchema.Text

/-- The code points from `low` to `high`. -/
structure Span where
  low : Nat
  high : Nat
  deriving DecidableEq, Repr

namespace Span

/-- Whether a code point lies in the span. -/
def covers (s : Span) (n : Nat) : Bool := s.low ≤ n && n ≤ s.high

/-- The span with two given ends, in either order. -/
def between (a b : Nat) : Span := ⟨min a b, max a b⟩

/-- The code points of both spans. -/
def meet? (a b : Span) : Option Span :=
  let low := max a.low b.low
  let high := min a.high b.high
  if low ≤ high then some ⟨low, high⟩ else none

/-- The code point of the next character. There is no character among the surrogates. -/
def after (n : Nat) : Nat := if n = 0xd7ff then 0xe000 else n + 1

/-- The code point of the previous character. -/
def before (n : Nat) : Nat := if n = 0xe000 then 0xd7ff else n - 1

/-- The code points of the first span that are not in the second. -/
def minus (a b : Span) : List Span :=
  if (a.meet? b).isNone then [a]
  else
    (if a.low < b.low then [⟨a.low, before b.low⟩] else [])
      ++ (if b.high < a.high then [⟨after b.high, a.high⟩] else [])

end Span

/-- A set of characters. -/
structure CharSet where
  spans : List Span
  deriving DecidableEq, Repr

namespace CharSet

/-- Join a span with those of the following ones that touch it, which start in ascending order. -/
def join (a : Span) : List Span → List Span
  | [] => [a]
  | b :: rest =>
    if b.low ≤ a.high + 1 then join ⟨a.low, max a.high b.high⟩ rest else a :: join b rest

/-- The set of the code points of some spans, in any order. -/
def ofSpans (spans : List Span) : CharSet :=
  match spans.mergeSort fun a b => a.low ≤ b.low with
  | [] => ⟨[]⟩
  | a :: rest => ⟨join a rest⟩

/-- Whether a code point belongs to the set. -/
def covers (s : CharSet) (n : Nat) : Bool := s.spans.any (·.covers n)

/-- Whether a character belongs to the set. -/
def contains (s : CharSet) (c : Char) : Bool := s.covers c.toNat

/-- No character. -/
def empty : CharSet := ⟨[]⟩

/-- All characters. -/
def all : CharSet := ⟨[⟨0, 0x10ffff⟩]⟩

/-- The code points from `low` to `high`. -/
def range (low high : Nat) : CharSet := ⟨[⟨low, high⟩]⟩

/-- One character. -/
def single (c : Char) : CharSet := range c.toNat c.toNat

/-- The characters of some sets. -/
def unions (sets : List CharSet) : CharSet := ofSpans (sets.flatMap (·.spans))

def union (a b : CharSet) : CharSet := unions [a, b]

def inter (a b : CharSet) : CharSet :=
  ⟨a.spans.flatMap fun x => b.spans.filterMap x.meet?⟩

def diff (a b : CharSet) : CharSet :=
  ⟨b.spans.foldl (fun left y => left.flatMap (·.minus y)) a.spans⟩

def symmDiff (a b : CharSet) : CharSet := (a.union b).diff (a.inter b)

/-- What is left out after a span that ends at `last` and between the following ones. Where only the
surrogates are left out between two spans, the characters beside them stand for the gap. -/
def gapsAfter (last : Nat) : List Span → List Span
  | [] => if last < 0x10ffff then [⟨Span.after last, 0x10ffff⟩] else []
  | s :: rest => .between (Span.after last) (Span.before s.low) :: gapsAfter s.high rest

/-- The characters that are not in the set. -/
def compl (s : CharSet) : CharSet :=
  match s.spans with
  | [] => all
  | s :: rest =>
    ⟨(if 0 < s.low then [⟨0, Span.before s.low⟩] else []) ++ gapsAfter s.high rest⟩

/-- The greatest code point of the set. -/
def last? (s : CharSet) : Option Nat := s.spans.getLast?.map (·.high)

/-- Whether all members are ASCII characters. -/
def isAscii (s : CharSet) : Bool := s.last?.all (· ≤ 0x7f)

/-- The character of a set that has no other. -/
def only? (s : CharSet) : Option Char :=
  match s.spans with
  | [⟨low, high⟩] => if low = high then some (Char.ofNat low) else none
  | _ => none

end CharSet

end AttributeSchema.Text
