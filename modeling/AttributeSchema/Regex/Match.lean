import AttributeSchema.Regex.Basic
import AttributeSchema.Text.Unicode.Classes

/-!
# Matches

`ends` computes, from a set of positions in a text, the positions at which a match that starts at one
of them can end; `matchesAtStart` asks for a match that starts at the beginning of the text.
-/

namespace AttributeSchema.Regex

/-! ## Assertions -/

/-- Whether an assertion about the words before and after holds. -/
def WordLook.holds (before after : Bool) : WordLook → Bool
  | .boundary => before != after
  | .inside => before == after
  | .start => !before && after
  | .stop => before && !after
  | .startHalf => !before
  | .stopHalf => !after

/-- Letters, digits and the underscore of ASCII. -/
def isAsciiWord (c : Char) : Bool := c.isAlphanum || c == '_'

/-- Whether an assertion holds between two characters, one of which is missing where the text starts
and where it ends. -/
def Look.holds (before after : Option Char) : Look → Bool
  | .textStart => before.isNone
  | .textEnd => after.isNone
  | .lineStart false => before.isNone || before == some '\n'
  | .lineStart true =>
    before.isNone || before == some '\n' || (before == some '\r' && after != some '\n')
  | .lineEnd false => after.isNone || after == some '\n'
  | .lineEnd true =>
    after.isNone || after == some '\r' || (after == some '\n' && before != some '\r')
  | .word kind true => kind.holds (before.any isAsciiWord) (after.any isAsciiWord)
  | .word kind false =>
    kind.holds (before.any Text.Unicode.word.contains) (after.any Text.Unicode.word.contains)

/-! ## Positions -/

/-- Positions without repetition: those of `a`, then those of `b` that are new. -/
def unionPositions (a b : List Nat) : List Nat := a ++ b.filter (!a.contains ·)

/-- Apply a step up to a number of times, collecting all positions that were reached. -/
def reach (step : List Nat → List Nat) : Nat → List Nat → List Nat → List Nat
  | 0, seen, _ => seen
  | rounds + 1, seen, frontier =>
    let new := (step frontier).filter (!seen.contains ·)
    if new.isEmpty then seen else reach step rounds (new ++ seen) new

/-- Apply a step exactly a number of times. -/
def iterate (step : List Nat → List Nat) : Nat → List Nat → List Nat
  | 0, positions => positions
  | rounds + 1, positions => iterate step rounds (step positions)

/-- The characters before and after a position. -/
def around (text : Array Char) (i : Nat) : Option Char × Option Char :=
  (if i = 0 then none else text[i - 1]?, text[i]?)

/-- Whether some characters stand in the text from a position on. -/
def standsAt (text : Array Char) (i : Nat) : List Char → Bool
  | [] => true
  | c :: cs => text[i]? == some c && standsAt text (i + 1) cs

mutual

/-- The positions where a match that starts at one of the given positions can end. A text of `n`
characters has `n + 1` positions, and a repetition beyond that many rounds reaches nothing new. -/
def ends (text : Array Char) : Regex → List Nat → List Nat
  | .empty, starts => starts
  | .literal cs, starts => (starts.filter fun i => standsAt text i cs).map (· + cs.length)
  | .set s, starts => (starts.filter fun i => text[i]?.any s.contains).map (· + 1)
  | .look l, starts => starts.filter fun i => l.holds (around text i).1 (around text i).2
  | .repetition r least most _, starts =>
    let limit := text.size + 1
    let first := iterate (ends text r) (min least limit) starts
    let rounds := match most with
      | some most => min (most - least) limit
      | none => limit
    reach (ends text r) rounds first first
  | .capture _ r, starts => ends text r starts
  | .concat rs, starts => endsOfAll text rs starts
  | .alternation rs, starts => endsOfAny text rs starts

/-- The positions where matches of expressions one after the other can end. -/
def endsOfAll (text : Array Char) : List Regex → List Nat → List Nat
  | [], starts => starts
  | r :: rs, starts => endsOfAll text rs (ends text r starts)

/-- The positions where matches of any one of some expressions can end. -/
def endsOfAny (text : Array Char) : List Regex → List Nat → List Nat
  | [], _ => []
  | r :: rs, starts => unionPositions (ends text r starts) (endsOfAny text rs starts)

end

/-- Whether the expression matches some part of the text that starts at its beginning. -/
def matchesAtStart (r : Regex) (text : List Char) : Bool := !(ends text.toArray r [0]).isEmpty

end AttributeSchema.Regex
