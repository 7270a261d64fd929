import AttributeSchema.Text.Numeral
import AttributeSchema.Text.Pieces

/-!
# MAC addresses

Six octets of two characters each, separated throughout by colons or throughout by dashes, and not
all zero. An octet is a hexadecimal numeral; a plus sign counts as one of its two characters.
-/

namespace AttributeSchema.Net.Mac

/-- Read one octet: a numeral whose text is two bytes long. -/
def readOctet? (cs : List Char) : Option Nat :=
  if Text.byteLength cs = 2 then Text.readPlusNat? 16 cs else none

/-- The separator of a text: the dash if it occurs. -/
def separator (cs : List Char) : Char := if '-' ∈ cs then '-' else ':'

/-- Read the octets of an address. -/
def read? (cs : List Char) : Option (List Nat) :=
  match (Text.splitOn (separator cs) cs).mapM readOctet? with
  | some octets => if octets.length = 6 then some octets else none
  | none => none

/-- Whether a text is an address that is not all zero. -/
def accepts (cs : List Char) : Bool :=
  match read? cs with
  | some octets => octets.any (· != 0)
  | none => false

end AttributeSchema.Net.Mac
