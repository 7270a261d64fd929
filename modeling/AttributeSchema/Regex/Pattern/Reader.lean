import AttributeSchema.Regex.Pattern.Bracket
import AttributeSchema.Regex.Pattern.Group

/-!
# Reading of patterns

The reader goes through the text of a pattern from left to right and keeps the groups that are still
open, innermost first. Each step takes at least one character, so as many steps as there are characters
suffice.
-/

namespace AttributeSchema.Regex

namespace Pattern

/-- A group that is still open around the present one: what the present one is to become, whether verbose
mode is to be returned to, the finished branches and the items of the unfinished one, latest first. -/
structure Level where
  wrap : Pattern → Pattern
  verbose : Bool
  branches : List Pattern
  items : List Pattern

/-- The state of the reader: the present group, the ones around it, the names of groups and the number of
captures. -/
structure Reader where
  verbose : Bool
  branches : List Pattern
  items : List Pattern
  outer : List Level
  names : List (List Char)
  captures : Nat

namespace Reader

/-- The state at the start. -/
def start : Reader := ⟨false, [], [], [], [], 0⟩

/-- What the present group says. -/
def body (r : Reader) : Pattern := .ofBranches (.ofItems r.items :: r.branches)

/-- Add an item. -/
def push (r : Reader) (item : Pattern) : Reader := { r with items := item :: r.items }

/-- Open a group. -/
def openGroup (r : Reader) (wrap : Pattern → Pattern) (verbose : Bool) : Reader :=
  ⟨verbose, [], [], ⟨wrap, r.verbose, r.branches, r.items⟩ :: r.outer, r.names, r.captures⟩

/-- Open a group with a number. -/
def openCapture (r : Reader) : Reader :=
  { r.openGroup (.capture (r.captures + 1)) r.verbose with captures := r.captures + 1 }

/-- Close the present group. -/
def closeGroup? (r : Reader) : Option Reader :=
  match r.outer with
  | [] => none
  | level :: outer =>
    let items := level.wrap r.body :: level.items
    some ⟨level.verbose, level.branches, items, outer, r.names, r.captures⟩

/-- Finish the present branch. -/
def endBranch (r : Reader) : Reader :=
  { r with branches := .ofItems r.items :: r.branches, items := [] }

/-- Repeat the latest item. -/
def repeat? (r : Reader) (least : Nat) (most : Option Nat) (greedy : Bool) : Option Reader :=
  match r.items with
  | item :: items =>
    if item.isRepeatable then
      some { r with items := .repetition item least most greedy :: items }
    else none
  | [] => none

/-- Repeat the latest item. A question mark right behind makes the repetition prefer few rounds. -/
def repeatSimply? (r : Reader) (least : Nat) (most : Option Nat) (cs : List Char) :
    Option (Reader × List Char) :=
  match cs with
  | '?' :: rest => (r.repeat? least most false).map (·, rest)
  | cs => (r.repeat? least most true).map (·, cs)

/-- Read what follows an opening parenthesis. -/
def readGroup? (r : Reader) (cs : List Char) : Option (Reader × List Char) :=
  match readOpening? r.verbose cs with
  | some (.capture none, rest) => some (r.openCapture, rest)
  | some (.capture (some name), rest) =>
    if r.names.contains name then none
    else some ({ r.openCapture with names := name :: r.names }, rest)
  | some (.group changes, rest) =>
    some (r.openGroup (.group changes) (changes.value .verbose r.verbose), rest)
  | some (.flags changes, rest) =>
    some ({ r.push (.flags changes) with verbose := changes.value .verbose r.verbose }, rest)
  | none => none

/-- Read one item, operator or parenthesis, a class in at most the given number of steps. -/
def step? (r : Reader) (steps : Nat) (c : Char) (cs : List Char) : Option (Reader × List Char) :=
  match c with
  | '(' => r.readGroup? cs
  | ')' => r.closeGroup?.map (·, cs)
  | '|' => some (r.endBranch, cs)
  | '[' =>
    let (k, rest) := openClass r.verbose cs
    (readClass? r.verbose steps [k] rest).map fun (p, rest) => (r.push p, rest)
  | '*' => r.repeatSimply? 0 none cs
  | '+' => r.repeatSimply? 1 none cs
  | '?' => r.repeatSimply? 0 (some 1) cs
  | '\x7b' =>
    match readCounts? r.verbose cs with
    | some (least, most, rest) => r.repeatSimply? least most (skip r.verbose rest)
    | none => none
  | '\\' => (readEscape? r.verbose cs).map fun (p, rest) => (r.push p, rest)
  | '.' => some (r.push .any, cs)
  | '^' => some (r.push .lineStart, cs)
  | '$' => some (r.push .lineEnd, cs)
  | c => some (r.push (.letter ⟨c, false⟩), cs)

/-- Read a pattern to its end. -/
def run? : Nat → Reader → List Char → Option Reader
  | 0, r, cs => if (skip r.verbose cs).isEmpty then some r else none
  | steps + 1, r, cs =>
    match skip r.verbose cs with
    | [] => some r
    | c :: cs =>
      match r.step? (steps + 1) c cs with
      | some (r, rest) => run? steps r rest
      | none => none

end Reader

/-- Read a pattern. -/
def read? (text : String) : Option Pattern :=
  let cs := text.toList
  match Reader.run? cs.length .start cs with
  | some r => if r.outer.isEmpty then some r.body else none
  | none => none

end Pattern

end AttributeSchema.Regex
