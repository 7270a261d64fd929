import AttributeSchema.Regex.Basic
import AttributeSchema.Regex.Automaton.Backward
import AttributeSchema.Regex.Automaton.Forward
import AttributeSchema.Regex.Automaton.Words

/-!
# The size of an expression

An expression can be used if two automata fit the limit: one that reads forwards and keeps track of
captures, and one that reads backwards. Repetitions are written out, so it is their counts that make
automata large. Building stops once the limit is exceeded.
-/

namespace AttributeSchema.Regex

open Text (CharSet byteLength)

/-! ## Anchors -/

mutual

/-- Whether it is plain that matches start at the start of the text. -/
def startsText : Regex → Bool
  | .look l => l = .textStart
  | .repetition r least _ _ => 0 < least && startsText r
  | .capture _ r => startsText r
  | .concat rs => allStartText rs
  | .alternation rs => anyStartsText rs
  | _ => false

/-- Whether expressions one after the other start the text: the first one does, or one after those that
match the empty text only. -/
def allStartText : List Regex → Bool
  | [] => false
  | r :: rs => startsText r || (maxLength? r == some 0 && allStartText rs)

/-- Whether any one of some expressions starts the text. -/
def anyStartsText : List Regex → Bool
  | [] => true
  | r :: rs => startsText r && anyStartsText rs

end

mutual

/-- Whether it is plain that matches end at the end of the text. -/
def endsText : Regex → Bool
  | .look l => l = .textEnd
  | .repetition r least _ _ => 0 < least && endsText r
  | .capture _ r => endsText r
  | .concat rs => (endOfAll rs).1
  | .alternation rs => anyEndsText rs
  | _ => false

/-- Whether expressions one after the other end the text: the last one does, or one before those that
match the empty text only. The second part says whether all of them match the empty text only. -/
def endOfAll : List Regex → Bool × Bool
  | [] => (false, true)
  | r :: rs =>
    let (ends, blank) := endOfAll rs
    (ends || (blank && endsText r), blank && maxLength? r == some 0)

/-- Whether any one of some expressions ends the text. -/
def anyEndsText : List Regex → Bool
  | [] => true
  | r :: rs => endsText r && anyEndsText rs

end

/-! ## Parts -/

/-- The encodings of the characters of a set. -/
def encodings (s : CharSet) : List (List Text.Span) := s.spans.flatMap (·.encodings)

/-- Build a set. -/
def buildSet? (backwards : Bool) (s : CharSet) (d : Draft) : Option Part :=
  if s.isAscii then do
    let d ← d.plain? 1
    let d ← d.table? s.spans.length
    return .closed d
  else if backwards then Backward.build? d (encodings s)
  else Forward.build? d (encodings s)

/-- Build a number of copies after a part. -/
def buildCopies? (build? : Draft → Option Part) : Nat → Part → Option Part
  | 0, p => some p
  | n + 1, p =>
    match (build? p.draft).bind (·.after? p.endsInFork) with
    | some p => buildCopies? build? n p
    | none => none

/-- Build a number of copies. -/
def buildExactly? (build? : Draft → Option Part) (n : Nat) (d : Draft) : Option Part :=
  match n with
  | 0 => (d.plain? 1).map .closed
  | n + 1 => (build? d).bind (buildCopies? build? n)

/-- Build a number of copies after a part, before each of which one can leave off. -/
def buildOptional? (build? : Draft → Option Part) : Nat → Part → Option Part
  | 0, p => some p
  | n + 1, p =>
    match ((p.draft.fork? 2).bind build?).bind (·.after? p.endsInFork) with
    | some p => buildOptional? build? n p
    | none => none

/-- Build the repetition of an expression that may match the empty text, at least `least` times. -/
def buildAtLeast? (build? : Draft → Option Part) (canBeEmpty : Bool) (least : Nat) (d : Draft) :
    Option Part :=
  match least with
  | 0 =>
    if canBeEmpty then do
      let p ← build? d
      let d ← p.draft.fork? 2
      let d ← d.fork? 2
      let d ← d.plain? 1
      let d ← Part.link? ⟨d, p.endsInFork⟩
      return .closed d
    else do
      let d ← d.fork? 1
      let p ← build? d
      return ⟨← p.link?, true⟩
  | n + 1 => do
    let p ← match n with
      | 0 => build? d
      | n => (buildExactly? build? n d).bind fun p => (build? p.draft).bind (·.after? p.endsInFork)
    let d ← p.draft.fork? 1
    return ⟨← Part.link? ⟨d, p.endsInFork⟩, true⟩

/-- Build the repetition of an expression between `least` and `most` times. -/
def buildBetween? (build? : Draft → Option Part) (least most : Nat) (d : Draft) : Option Part :=
  if least = 0 ∧ most = 1 then do
    let d ← d.fork? 2
    let p ← build? d
    let d ← p.draft.plain? 1
    let d ← Part.link? ⟨d, p.endsInFork⟩
    return .closed d
  else do
    let p ← buildExactly? build? least d
    if least = most then return p
    let d ← p.draft.plain? 1
    let p ← buildOptional? build? (most - least) ⟨d, p.endsInFork⟩
    return .closed (← p.link?)

/-- The texts of some expressions that are all texts. -/
def literals? (rs : List Regex) : Option (List (List Char)) :=
  rs.mapM fun
    | .literal cs => some cs
    | _ => none

/-- The bytes of a text in the order in which they are read. -/
def readBytes (backwards : Bool) (cs : List Char) : List Nat :=
  let bytes := cs.flatMap fun c => Text.encode c.toNat
  if backwards then bytes.reverse else bytes

/-! ## Expressions -/

mutual

/-- Build an expression. -/
def build? (backwards : Bool) : Regex → Draft → Option Part
  | .empty, d => (d.plain? 1).map .closed
  | .literal cs, d => (d.plain? (byteLength cs)).map .closed
  | .set s, d => buildSet? backwards s d
  | .look _, d => (d.plain? 1).map .closed
  | .repetition r least most _, d =>
    match most with
    | none => buildAtLeast? (build? backwards r) (minLength? r == none || minLength? r == some 0) least d
    | some most => buildBetween? (build? backwards r) least most d
  | .capture _ r, d =>
    if backwards then build? backwards r d
    else do
      let d ← d.plain? 1
      let p ← build? backwards r d
      let d ← p.draft.plain? 1
      return .closed (← Part.link? ⟨d, p.endsInFork⟩)
  | .concat rs, d => buildAll? backwards rs d
  | .alternation rs, d =>
    match literals? rs with
    | some words => buildWords? d (words.map (readBytes backwards))
    | none => (buildAny? backwards 0 rs d).map .closed

/-- Build expressions one after the other, in the order in which they are read. -/
def buildAll? (backwards : Bool) : List Regex → Draft → Option Part
  | [], d => (d.plain? 1).map .closed
  | [r], d => build? backwards r d
  | r :: rs, d =>
    if backwards then do
      let p ← buildAll? backwards rs d
      let q ← build? backwards r p.draft
      q.after? p.endsInFork
    else do
      let p ← build? backwards r d
      let q ← buildAll? backwards rs p.draft
      q.after? p.endsInFork

/-- Build the alternatives after some first ones. The fork to them and the state that they lead to are
added once there are two. -/
def buildAny? (backwards : Bool) : Nat → List Regex → Draft → Option Draft
  | _, [], d => some d
  | i, r :: rs, d => do
    let p ← build? backwards r d
    let d ← if i = 1 then p.draft.plain? 2 else some p.draft
    let d ← d.branch? 1
    let d ← Part.link? ⟨d, p.endsInFork⟩
    buildAny? backwards (i + 1) rs d

end

/-! ## Automata -/

/-- Build what stands before an expression: a loop over any bytes, unless matches cannot start later. -/
def buildLead? (anchored : Bool) : Option Draft :=
  if anchored then Draft.blank.plain? 1
  else do
    let d ← Draft.blank.fork? 2
    let d ← d.plain? 1
    d.table? 1

/-- Build the automaton that reads forwards. -/
def buildForwards? (r : Regex) : Option Draft := do
  let d ← buildLead? (startsText r)
  let p ← build? false (.capture 0 r) d
  p.draft.plain? 1

/-- Build the automaton that reads backwards. -/
def buildBackwards? (r : Regex) : Option Draft := do
  let d ← buildLead? (endsText r)
  let p ← build? true r d
  let d ← p.draft.plain? 1
  Part.link? ⟨d, p.endsInFork⟩

/-- Whether the automata of an expression fit the limit. -/
def fits (r : Regex) : Bool := (buildForwards? r).isSome && (buildBackwards? r).isSome

end AttributeSchema.Regex
