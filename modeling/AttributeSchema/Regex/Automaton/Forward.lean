import AttributeSchema.Regex.Automaton.Draft
import AttributeSchema.Text.EncodedSpan
import Std.Data.HashMap

/-!
# Sets of characters, read forwards

A set becomes states with transitions over the bytes of the encodings. Encodings come in ascending order
and share the states of what they start with; states that are alike are shared too, as far as a table of
the latest ones remembers them. The table has a fixed number of slots, and a state that is given the
slot of an earlier one makes it forgotten, so the number of states depends on the slots.
-/

namespace AttributeSchema.Regex.Forward

open Text (CharSet Span)

/-- A transition over a span of bytes to a state, which is known by its number. -/
structure Transition where
  bytes : Span
  next : Nat
  deriving DecidableEq

/-- The number of slots of the table. -/
def slots : Nat := 10000

/-- The slot of a list of transitions. -/
def slot (transitions : List Transition) : Nat :=
  let mix (h : UInt64) (n : Nat) : UInt64 := (h ^^^ n.toUInt64) * 1099511628211
  let h := transitions.foldl
    (fun h t => mix (mix (mix h t.bytes.low) t.bytes.high) t.next) 14695981039346656037
  h.toNat % slots

/-- A draft and the table of the states that it shares. -/
structure State where
  draft : Draft
  table : Std.HashMap Nat (List Transition × Nat)

/-- The state with given transitions, a remembered one or a new one. -/
def State.find? (s : State) (transitions : List Transition) : Option (State × Nat) :=
  let i := slot transitions
  match s.table[i]?.filter (·.1 = transitions) with
  | some (_, number) => some (s, number)
  | none => (s.draft.table? transitions.length).map fun d =>
    (⟨d, s.table.insert i (transitions, s.draft.states)⟩, s.draft.states)

/-- A state that may still get transitions: the ones it has, latest first, and the bytes of the one whose
target is not built yet. -/
structure Node where
  transitions : List Transition
  pending : Option Span

/-- Give the transition that is not complete its target. -/
def Node.complete (node : Node) (next : Nat) : Node :=
  match node.pending with
  | some bytes => ⟨⟨bytes, next⟩ :: node.transitions, none⟩
  | none => node

/-- Build the states of a path, the last one leading to the target. -/
def close? (target : Nat) (s : State) : List Node → Option (State × Nat)
  | [] => some (s, target)
  | node :: rest => do
    let (s, next) ← close? target s rest
    s.find? (node.complete next).transitions.reverse

/-- Add an encoding to the path of the one before it: what both start with stays, and the states of the
rest of the path are built. -/
def add? (target : Nat) (s : State) : List Node → List Span → Option (State × List Node)
  | node :: rest, bytes :: more =>
    if node.pending = some bytes then
      (add? target s rest more).map fun (s, rest) => (s, node :: rest)
    else do
      let (s, next) ← close? target s rest
      return (s, ⟨(node.complete next).transitions, some bytes⟩
        :: more.map fun bytes => ⟨[], some bytes⟩)
  | nodes, _ => some (s, nodes)

/-- Build a set. -/
def build? (d : Draft) (encodings : List (List Span)) : Option Part := do
  let target := d.states
  let d ← d.plain? 1
  let (s, path) ← encodings.foldlM (fun (s, path) bytes => add? target s path bytes)
    ((⟨d, ∅⟩ : State), ([⟨[], none⟩] : List Node))
  let (s, _) ← close? target s path
  return .closed s.draft

end AttributeSchema.Regex.Forward
