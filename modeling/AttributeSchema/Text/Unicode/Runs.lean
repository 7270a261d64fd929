import AttributeSchema.Text.CharSet

/-!
# Tables of character sets

The sets that the Unicode Character Database defines have many spans. Tables hold such a set as lines of
numbers: by turns, how many code points are left out before a span and how many follow its first one. A
number is written in base 26, the last digit as a small letter and the digits before it as capital
letters.
-/

namespace AttributeSchema.Text

namespace CharSet

/-- The numbers of a text, `n` being the value of the digits before it. -/
def numbers (n : Nat) : List Char → List Nat
  | [] => []
  | c :: cs =>
    if c.isUpper then numbers (n * 26 + (c.toNat - 'A'.toNat)) cs
    else (n * 26 + (c.toNat - 'a'.toNat)) :: numbers 0 cs

/-- The spans after the code points below `start`. -/
def spansFrom (start : Nat) : List Nat → List Span
  | gap :: more :: rest =>
    ⟨start + gap, start + gap + more⟩ :: spansFrom (start + gap + more + 1) rest
  | _ => []

/-- The set that some lines of a table describe. -/
def ofRuns (lines : List String) : CharSet := ⟨spansFrom 0 (numbers 0 (lines.flatMap (·.toList)))⟩

end CharSet

/-- A set of a table with the names that it can be called by, in small letters and without blanks,
hyphens and underscores. -/
structure NamedSet where
  names : List String
  runs : List String

/-- The set of a table with a given name. -/
def NamedSet.find? (table : List NamedSet) (name : String) : Option CharSet :=
  (table.find? (·.names.contains name)).map fun s => .ofRuns s.runs

end AttributeSchema.Text
