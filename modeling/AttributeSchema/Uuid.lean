import AttributeSchema.Text.Numeral
import AttributeSchema.Text.Pieces

/-!
# UUIDs

A UUID is a number of 128 bits. It is read in four spellings: thirty-two hexadecimal digits; the same
with hyphens between groups of 8, 4, 4, 4 and 12; the hyphenated form in braces; and the hyphenated
form after `urn:uuid:`. Letter case does not matter. It is written hyphenated in lower case.
-/

namespace AttributeSchema

/-- A UUID. -/
structure Uuid where
  value : Nat
  value_lt : value < 0x100000000000000000000000000000000
  deriving DecidableEq

namespace Uuid

/-- The UUID with the given number, if it is not too wide. -/
def ofNat? (value : Nat) : Option Uuid :=
  if h : value < 0x100000000000000000000000000000000 then some ⟨value, h⟩ else none

/-- The UUID of all zeros. -/
def zero : Uuid := ⟨0, by decide⟩

/-- The sizes of the groups of the hyphenated form. -/
def groupSizes : List Nat := [8, 4, 4, 4, 12]

/-- Read thirty-two hexadecimal digits. -/
def readDigits? (cs : List Char) : Option Uuid :=
  if cs.length = 32 then (Text.readNat? 16 cs).bind ofNat? else none

/-- Read the hyphenated form. -/
def readHyphenated? (cs : List Char) : Option Uuid :=
  let groups := Text.splitOn '-' cs
  if groups.map List.length = groupSizes then readDigits? groups.flatten else none

/-- The text inside a pair of braces, if there is one. -/
def unbraced? (cs : List Char) : Option (List Char) :=
  if cs.head? = some '\x7b' ∧ cs.getLast? = some '\x7d' then some (cs.drop 1).dropLast else none

/-- The mark of the form for uniform resource names. -/
def urnMark : List Char := ['u', 'r', 'n', ':', 'u', 'u', 'i', 'd', ':']

/-- Read any of the four spellings. -/
def read? (cs : List Char) : Option Uuid :=
  if cs.length = 32 then readDigits? cs
  else match unbraced? cs with
    | some inner => readHyphenated? inner
    | none =>
      if (cs.take urnMark.length).map Char.toLower = urnMark then readHyphenated? (cs.drop urnMark.length)
      else readHyphenated? cs

/-- The digits of a number in a fixed number of places. -/
def padded (places : Nat) (n : Nat) : List Char :=
  let digits := Nat.toDigits 16 n
  List.replicate (places - digits.length) '0' ++ digits

/-- Cut a text into groups of the given sizes. -/
def groups : List Nat → List Char → List (List Char)
  | [], _ => []
  | size :: sizes, cs => cs.take size :: groups sizes (cs.drop size)

/-- The hyphenated text in lower case. -/
def render (u : Uuid) : String :=
  String.ofList (Text.joinWith ['-'] (groups groupSizes (padded 32 u.value)))

end Uuid

end AttributeSchema
