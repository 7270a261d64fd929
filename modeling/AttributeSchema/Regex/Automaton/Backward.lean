import AttributeSchema.Regex.Automaton.Draft
import AttributeSchema.Text.EncodedSpan
import Std.Data.HashMap

/-!
# Sets of characters, read backwards

A set becomes an alternative for each encoding, a chain of states from its last byte to its first. What
encodings start with is where the chains end, and a state there is shared as far as a table of the
latest ones remembers it. As in the other direction, the table has a fixed number of slots.
-/

namespace AttributeSchema.Regex.Backward

open Text (Span)

/-- A state over a span of bytes that leads to a given state. -/
structure Link where
  next : Nat
  bytes : Span
  deriving DecidableEq

/-- The number of slots of the table. -/
def slots : Nat := 1000

/-- The slot of a link. -/
def slot (l : Link) : Nat :=
  let mix (h : UInt64) (n : Nat) : UInt64 := (h ^^^ n.toUInt64) * 1099511628211
  (mix (mix (mix 14695981039346656037 l.next) l.bytes.low) l.bytes.high).toNat % slots

/-- A draft and the table of the states that it shares. -/
structure State where
  draft : Draft
  table : Std.HashMap Nat (Link × Nat)

/-- The state of a link, a remembered one or a new one. -/
def State.find? (s : State) (l : Link) : Option (State × Nat) :=
  let i := slot l
  match s.table[i]?.filter (·.1 = l) with
  | some (_, number) => some (s, number)
  | none => (s.draft.plain? 1).map fun d =>
    (⟨d, s.table.insert i (l, s.draft.states)⟩, s.draft.states)

/-- Build the chain of an encoding that ends in a given state, and its alternative. -/
def chain? (s : State) (next : Nat) : List Span → Option State
  | [] => (s.draft.branch? 1).map fun d => { s with draft := d }
  | bytes :: more => do
    let (s, next) ← s.find? ⟨next, bytes⟩
    chain? s next more

/-- Build a set. -/
def build? (d : Draft) (encodings : List (List Span)) : Option Part := do
  let d ← d.plain? 1
  let target := d.states
  let d ← d.plain? 1
  let s ← encodings.foldlM (fun s bytes => chain? s target bytes) (⟨d, ∅⟩ : State)
  return .closed s.draft

end AttributeSchema.Regex.Backward
