import AttributeSchema.Text.CharSet
import AttributeSchema.Text.Pieces

/-!
# Regular expressions

Expressions over characters with assertions about the characters around a position. The inductive type
holds any expression; the functions below it build simplified ones, which is how expressions come
about. Simplification changes how large an expression is and not what it matches.
-/

namespace AttributeSchema

namespace Regex

open Text (CharSet)

/-- What an assertion says about whether the characters before and after belong to words. -/
inductive WordLook where
  /-- One of them does and the other does not. -/
  | boundary
  /-- Both do or neither does. -/
  | inside
  /-- Only the one after does. -/
  | start
  /-- Only the one before does. -/
  | stop
  /-- The one before does not. -/
  | startHalf
  /-- The one after does not. -/
  | stopHalf
  deriving DecidableEq, Repr

/-- An assertion about a position. -/
inductive Look where
  /-- It is the first one. -/
  | textStart
  /-- It is the last one. -/
  | textEnd
  /-- A line starts there, `crlf` saying whether a carriage return can end lines too. -/
  | lineStart (crlf : Bool)
  /-- A line ends there. -/
  | lineEnd (crlf : Bool)
  /-- Words start or end there, with words of ASCII characters or of all characters. -/
  | word (kind : WordLook) (ascii : Bool)
  deriving DecidableEq, Repr

end Regex

open Text (CharSet byteLength)

/-- A regular expression. -/
inductive Regex where
  /-- The empty text. -/
  | empty
  /-- A text. -/
  | literal (cs : List Char)
  /-- One character of a set. -/
  | set (s : CharSet)
  /-- The empty text where an assertion holds. -/
  | look (l : Regex.Look)
  /-- At least `least` and at most `most` repetitions, as many or as few as possible. -/
  | repetition (r : Regex) (least : Nat) (most : Option Nat) (greedy : Bool)
  /-- An expression whose match gets a number. -/
  | capture (index : Nat) (r : Regex)
  /-- One expression after the other. -/
  | concat (rs : List Regex)
  /-- Any one of the expressions. -/
  | alternation (rs : List Regex)

namespace Regex

/-! ## Sameness -/

mutual

/-- Whether two expressions are written alike. -/
def same : Regex → Regex → Bool
  | .empty, .empty => true
  | .literal a, .literal b => a == b
  | .set a, .set b => a == b
  | .look a, .look b => a == b
  | .repetition r least most greedy, .repetition r' least' most' greedy' =>
    least == least' && most == most' && greedy == greedy' && same r r'
  | .capture i r, .capture j r' => i == j && same r r'
  | .concat rs, .concat rs' => sameAll rs rs'
  | .alternation rs, .alternation rs' => sameAll rs rs'
  | _, _ => false

/-- Whether two lists of expressions are written alike. -/
def sameAll : List Regex → List Regex → Bool
  | [], [] => true
  | r :: rs, r' :: rs' => same r r' && sameAll rs rs'
  | _, _ => false

end

/-! ## Lengths of matches -/

/-- The number of bytes of the character with a code point. -/
def bytesOf (n : Nat) : Nat := (Char.ofNat n).utf8Size

mutual

/-- The number of bytes of the shortest match, if it is known that there are matches. -/
def minLength? : Regex → Option Nat
  | .empty => some 0
  | .literal cs => some (byteLength cs)
  | .set s => s.spans.head?.map fun span => bytesOf span.low
  | .look _ => some 0
  | .repetition r least _ _ => (minLength? r).map (· * least)
  | .capture _ r => minLength? r
  | .concat rs => minLengthOfAll? rs
  | .alternation rs => minLengthOfAny? rs

/-- The number of bytes of the shortest match of expressions one after the other. -/
def minLengthOfAll? : List Regex → Option Nat
  | [] => some 0
  | r :: rs =>
    match minLength? r, minLengthOfAll? rs with
    | some m, some n => some (m + n)
    | _, _ => none

/-- The number of bytes of the shortest match of any one of some expressions. -/
def minLengthOfAny? : List Regex → Option Nat
  | [] => none
  | [r] => minLength? r
  | r :: rs =>
    match minLength? r, minLengthOfAny? rs with
    | some m, some n => some (min m n)
    | _, _ => none

end

mutual

/-- The number of bytes of the longest match, if there is a bound. -/
def maxLength? : Regex → Option Nat
  | .empty => some 0
  | .literal cs => some (byteLength cs)
  | .set s => s.last?.map bytesOf
  | .look _ => some 0
  | .repetition r _ most _ =>
    match maxLength? r, most with
    | some m, some n => some (m * n)
    | _, _ => none
  | .capture _ r => maxLength? r
  | .concat rs => maxLengthOfAll? rs
  | .alternation rs => maxLengthOfAny? rs

/-- The number of bytes of the longest match of expressions one after the other. -/
def maxLengthOfAll? : List Regex → Option Nat
  | [] => some 0
  | r :: rs =>
    match maxLength? r, maxLengthOfAll? rs with
    | some m, some n => some (m + n)
    | _, _ => none

/-- The number of bytes of the longest match of any one of some expressions. -/
def maxLengthOfAny? : List Regex → Option Nat
  | [] => none
  | [r] => maxLength? r
  | r :: rs =>
    match maxLength? r, maxLengthOfAny? rs with
    | some m, some n => some (max m n)
    | _, _ => none

end

/-! ## Simplified expressions -/

/-- The expression without a match. -/
def fail : Regex := .set .empty

/-- One character of a set. -/
def ofSet (s : CharSet) : Regex :=
  match s.only? with
  | some c => .literal [c]
  | none => .set s

/-- The repetition of an expression. Where it can match the empty text only, once is as good as any
number of times. -/
def repeated (r : Regex) (least : Nat) (most : Option Nat) (greedy : Bool) : Regex :=
  let (least, most) :=
    if maxLength? r = some 0 then (min least 1, some (min (most.getD 1) 1)) else (least, most)
  if most = some 0 then .empty
  else if least = 1 ∧ most = some 1 then r
  else .repetition r least most greedy

/-- The items of an expression as part of a concatenation. -/
def items : Regex → List Regex
  | .empty => []
  | .concat rs => rs
  | r => [r]

/-- Join texts that follow each other. -/
def joinLiterals : List Regex → List Regex
  | [] => []
  | .literal a :: rest =>
    match joinLiterals rest with
    | .literal b :: rest => .literal (a ++ b) :: rest
    | rest => .literal a :: rest
  | r :: rest => r :: joinLiterals rest

/-- The concatenation of some expressions. -/
def sequence (rs : List Regex) : Regex :=
  match joinLiterals (rs.flatMap items) with
  | [] => .empty
  | [r] => r
  | rs => .concat rs

/-- The branches of an expression as part of an alternation. -/
def branches : Regex → List Regex
  | .alternation rs => rs
  | r => [r]

/-- The set of an expression that is one character. -/
def charSet? : Regex → Option CharSet
  | .literal [c] => some (.single c)
  | _ => none

/-- The set of an expression that is a set. -/
def set? : Regex → Option CharSet
  | .set s => some s
  | _ => none

/-- The items of an expression that is a concatenation. -/
def concat? : Regex → Option (List Regex)
  | .concat rs => some rs
  | _ => none

/-- The items that two lists start with alike. -/
def commonPrefix : List Regex → List Regex → List Regex
  | a :: as, b :: bs => if same a b then a :: commonPrefix as bs else []
  | _, _ => []

/-- The items that all lists start with. -/
def sharedPrefix : List (List Regex) → List Regex
  | [] => []
  | [rs] => rs
  | rs :: rest => commonPrefix rs (sharedPrefix rest)

mutual

/-- The number of nodes of an expression. -/
def weight : Regex → Nat
  | .repetition r _ _ _ => weight r + 1
  | .capture _ r => weight r + 1
  | .concat rs => weightOfAll rs + 1
  | .alternation rs => weightOfAll rs + 1
  | _ => 1

/-- The number of nodes of some expressions. -/
def weightOfAll : List Regex → Nat
  | [] => 0
  | r :: rs => weight r + weightOfAll rs

end

/-- The alternation of expressions that are no alternations themselves. What all branches start with is
taken out of them; this happens again to what is left of them, at most `fuel` times. -/
def oneOf : Nat → List Regex → Regex
  | _, [] => fail
  | _, [r] => r
  | fuel, rs =>
    match rs.mapM charSet?, rs.mapM set?, rs.mapM concat?, fuel with
    | some sets, _, _, _ => ofSet (.unions sets)
    | _, some sets, _, _ => ofSet (.unions sets)
    | _, _, some lists, fuel + 1 =>
      match sharedPrefix lists with
      | [] => .alternation rs
      | start =>
        let rest := lists.map fun items => sequence (items.drop start.length)
        sequence (start ++ [oneOf fuel (rest.flatMap branches)])
    | _, _, _, _ => .alternation rs

/-- The alternation of some expressions. Each time a start is taken out, the branches get smaller. -/
def choice (rs : List Regex) : Regex :=
  let rs := rs.flatMap branches
  oneOf (weightOfAll rs) rs

end Regex

end AttributeSchema
