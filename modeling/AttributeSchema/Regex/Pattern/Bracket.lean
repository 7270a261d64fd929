import AttributeSchema.Regex.Pattern.Escape

/-!
# Bracketed classes

Classes may hold classes, and two parts of a class may be joined by an operation. The reader goes through
a class from left to right and keeps the classes that are still open, innermost first.
-/

namespace AttributeSchema.Regex.Pattern

open Text (CharSet)

/-- A class that is still open: whether it is negated, what stands before the last operation, and the
items after it, latest first. -/
structure OpenClass where
  negated : Bool
  left : Option (ClassSet × SetOp)
  items : List ClassSet

namespace OpenClass

/-- What has been read so far. -/
def read (k : OpenClass) : ClassSet :=
  match k.left with
  | some (s, op) => .op op s (.ofItems k.items)
  | none => .ofItems k.items

/-- Start the part after an operation. -/
def operate (op : SetOp) (k : OpenClass) : OpenClass :=
  { k with left := some (k.read, op), items := [] }

/-- Add an item. -/
def add (s : ClassSet) (k : OpenClass) : OpenClass := { k with items := s :: k.items }

end OpenClass

/-- Read hyphens that stand for themselves. -/
def readHyphens (verbose inComment : Bool) (k : OpenClass) : List Char → OpenClass × List Char
  | [] => (k, [])
  | c :: cs =>
    if inComment then readHyphens verbose (c != '\n') k cs
    else if verbose ∧ c = '#' then readHyphens verbose true k cs
    else if verbose ∧ Text.isBlank c then readHyphens verbose false k cs
    else if c = '-' then readHyphens verbose false (k.add (.letter ⟨'-', false⟩)) cs
    else (k, c :: cs)

/-- Read the start of a class after its bracket: a negation, hyphens that stand for themselves, and a
closing bracket that does if it comes first. -/
def openClass (verbose : Bool) (cs : List Char) : OpenClass × List Char :=
  let (negated, cs) := match skip verbose cs with
    | '^' :: cs => (true, cs)
    | cs => (false, cs)
  match readHyphens verbose false ⟨negated, none, []⟩ cs with
  | (⟨negated, none, []⟩, ']' :: rest) => (⟨negated, none, [.letter ⟨']', false⟩]⟩, rest)
  | (k, rest) => (k, rest)

/-- Read one member of a class. -/
def readMember? (verbose : Bool) : List Char → Option (Pattern × List Char)
  | [] => none
  | '\\' :: cs => readEscape? verbose cs
  | c :: cs => some (.letter ⟨c, false⟩, cs)

/-- Read a member of a class, or a range of two characters in ascending order. A hyphen before a closing
bracket or before another hyphen does not make a range. -/
def readItem? (verbose : Bool) (cs : List Char) : Option (ClassSet × List Char) := do
  let (first, rest) ← readMember? verbose cs
  match skip verbose rest with
  | '-' :: after =>
    let next := peek verbose after
    if next = some ']' ∨ next = some '-' then return (← first.classItem?, '-' :: after)
    match first, ← readMember? verbose (skip verbose after) with
    | .letter low, (.letter high, rest) =>
      if low.char ≤ high.char then return (.range low high, rest) else none
    | _, _ => none
  | rest => return (← first.classItem?, rest)

/-- The set of a class that is named between colons. -/
def namedClass? : String → Option CharSet
  | "alnum" => some (.ofSpans [⟨0x30, 0x39⟩, ⟨0x41, 0x5a⟩, ⟨0x61, 0x7a⟩])
  | "alpha" => some (.ofSpans [⟨0x41, 0x5a⟩, ⟨0x61, 0x7a⟩])
  | "ascii" => some (.range 0 0x7f)
  | "blank" => some (.ofSpans [⟨0x09, 0x09⟩, ⟨0x20, 0x20⟩])
  | "cntrl" => some (.ofSpans [⟨0x00, 0x1f⟩, ⟨0x7f, 0x7f⟩])
  | "digit" => some (.range 0x30 0x39)
  | "graph" => some (.range 0x21 0x7e)
  | "lower" => some (.range 0x61 0x7a)
  | "print" => some (.range 0x20 0x7e)
  | "punct" => some (.ofSpans [⟨0x21, 0x2f⟩, ⟨0x3a, 0x40⟩, ⟨0x5b, 0x60⟩, ⟨0x7b, 0x7e⟩])
  | "space" => some (.ofSpans [⟨0x09, 0x0d⟩, ⟨0x20, 0x20⟩])
  | "upper" => some (.range 0x41 0x5a)
  | "word" => some (.ofSpans [⟨0x30, 0x39⟩, ⟨0x41, 0x5a⟩, ⟨0x5f, 0x5f⟩, ⟨0x61, 0x7a⟩])
  | "xdigit" => some (.ofSpans [⟨0x30, 0x39⟩, ⟨0x41, 0x46⟩, ⟨0x61, 0x66⟩])
  | _ => none

/-- Read a class by its name between colons, after the opening bracket. -/
def readNamedClass? : List Char → Option (ClassSet × List Char)
  | ':' :: cs =>
    let (negated, cs) := match cs with
      | '^' :: cs => (true, cs)
      | cs => (false, cs)
    let (name, rest) := cs.span (· != ':')
    match namedClass? (String.ofList name), rest with
    | some s, ':' :: ']' :: rest => some (.ascii negated s, rest)
    | _, _ => none
  | _ => none

/-- Read the rest of a class, given the classes that are still open. Each step takes a character at least,
so as many steps as there are characters suffice. -/
def readClass? (verbose : Bool) : Nat → List OpenClass → List Char → Option (Pattern × List Char)
  | 0, _, _ => none
  | _, [], _ => none
  | steps + 1, k :: outer, cs =>
    match skip verbose cs with
    | [] => none
    | '[' :: rest =>
      match readNamedClass? rest with
      | some (s, rest) => readClass? verbose steps (k.add s :: outer) rest
      | none =>
        let (inner, rest) := openClass verbose rest
        readClass? verbose steps (inner :: k :: outer) rest
    | ']' :: rest =>
      match outer with
      | [] => some (.bracketed k.negated k.read, rest)
      | parent :: outer =>
        readClass? verbose steps (parent.add (.bracketed k.negated k.read) :: outer) rest
    | '&' :: '&' :: rest => readClass? verbose steps (k.operate .inter :: outer) rest
    | '-' :: '-' :: rest => readClass? verbose steps (k.operate .diff :: outer) rest
    | '~' :: '~' :: rest => readClass? verbose steps (k.operate .symmDiff :: outer) rest
    | cs =>
      match readItem? verbose cs with
      | some (s, rest) => readClass? verbose steps (k.add s :: outer) rest
      | none => none

end AttributeSchema.Regex.Pattern
