/-!
# Automata under construction

An expression is run by an automaton over bytes, and how large that may become is limited. A draft holds
what the size depends on: the number of states, each of which takes 32 bytes, and the bytes of the lists
that states have beside that, 8 for each transition and 4 for each alternative.
-/

namespace AttributeSchema.Regex

/-- An automaton under construction. -/
structure Draft where
  states : Nat
  listBytes : Nat

namespace Draft

/-- The automaton without states. -/
def blank : Draft := ⟨0, 0⟩

/-- The size of the automaton in bytes. -/
def bytes (d : Draft) : Nat := 32 * d.states + d.listBytes

/-- The size that an automaton must not exceed, in bytes. -/
def limit : Nat := 10 * 1024 * 1024

/-- Add some states and the bytes of some lists. -/
def grow? (d : Draft) (states listBytes : Nat) : Option Draft :=
  let d : Draft := ⟨d.states + states, d.listBytes + listBytes⟩
  if d.bytes ≤ limit then some d else none

/-- Add states without lists. -/
def plain? (d : Draft) (states : Nat) : Option Draft := d.grow? states 0

/-- Add a state with a list of transitions. -/
def table? (d : Draft) (transitions : Nat) : Option Draft := d.grow? 1 (8 * transitions)

/-- Add a state with a list of alternatives. -/
def fork? (d : Draft) (alternatives : Nat) : Option Draft := d.grow? 1 (4 * alternatives)

/-- Add alternatives to a state that has a list of them. -/
def branch? (d : Draft) (alternatives : Nat) : Option Draft := d.grow? 0 (4 * alternatives)

end Draft

/-- A part of a draft: the draft with it, and whether its last state has a list of alternatives, to which
what follows is added. -/
structure Part where
  draft : Draft
  endsInFork : Bool

namespace Part

/-- A part that ends in a state without a list of alternatives. -/
def closed (d : Draft) : Part := ⟨d, false⟩

/-- Link the last state of a part to the state that follows. -/
def link? (p : Part) : Option Draft := if p.endsInFork then p.draft.branch? 1 else some p.draft

/-- Link the last state of an earlier part, of which it is known whether it is a fork, to what has been
built since. -/
def after? (p : Part) (earlierEndsInFork : Bool) : Option Part :=
  (Part.link? ⟨p.draft, earlierEndsInFork⟩).map fun d => ⟨d, p.endsInFork⟩

end Part

end AttributeSchema.Regex
