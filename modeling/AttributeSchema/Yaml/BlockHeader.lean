/-!
# Headers of block scalars

After its first character a block scalar may say what becomes of the line breaks at its end, and by how
much it is indented.
-/

namespace AttributeSchema.Yaml

/-- What is done with the line breaks at the end of a block scalar. -/
inductive Chomping where
  | strip
  | clip
  | keep
  deriving DecidableEq

/-- The header of a block scalar. -/
structure BlockHeader where
  chomping : Chomping := .clip
  /-- The indentation relative to the parent, if it is given. -/
  increment? : Option Nat := none

namespace BlockHeader

/-- The chomping that a sign stands for. -/
def chomping? : Char → Option Chomping
  | '+' => some .keep
  | '-' => some .strip
  | _ => none

/-- Whether a character is a sign. -/
def isSign (c : Char) : Bool := (chomping? c).isSome

/-- Add an indicator to a header. The indentation cannot be zero. -/
def add? (h : BlockHeader) (c : Char) : Option BlockHeader :=
  match chomping? c with
  | some chomping => some { h with chomping }
  | none => if c == '0' then none else some { h with increment? := some (c.toNat - 48) }

/-- The number of indicators at the start of some characters: a sign and a digit, each of them at most
once, in either order. -/
def length : List Char → Nat
  | c :: d :: _ =>
    if isSign c then if d.isDigit then 2 else 1
    else if c.isDigit then if isSign d then 2 else 1
    else 0
  | [c] => if isSign c || c.isDigit then 1 else 0
  | [] => 0

/-- Read the indicators at the start of some characters. -/
def read? (cs : List Char) : Option BlockHeader := (cs.take (length cs)).foldlM add? {}

end BlockHeader

end AttributeSchema.Yaml
