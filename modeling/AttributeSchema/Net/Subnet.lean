import AttributeSchema.Net.Address

/-!
# Subnets

An address with a prefix length. The mask of the length is a word of ones shifted to the left by the
bits that the length leaves, and the network is what the mask keeps of the address. Neither the
difference nor the shift may leave the word; `length_le` is why they do not.
-/

namespace AttributeSchema.Net

/-- The bits of a word that a prefix length leaves, unless it is longer than the word. -/
def remaining? (width length : Nat) : Option Nat :=
  if length ≤ width then some (width - length) else none

/-- A word shifted to the left. There is no shift by the whole width or more. -/
def shiftLeft? (width word amount : Nat) : Option Nat :=
  if amount < width then some ((word <<< amount) % Nat.pow 2 width) else none

/-- The mask of a prefix length, unless the length is greater than the width. What cannot be shifted
leaves no ones. -/
def Family.mask? (family : Family) (length : Nat) : Option Nat :=
  (remaining? family.width length).map fun amount =>
    (shiftLeft? family.width (Nat.pow 2 family.width - 1) amount).getD 0

theorem Family.isSome_mask? {family : Family} {length : Nat} (h : length ≤ family.width) :
    (family.mask? length).isSome = true := by
  simp [mask?, remaining?, h]

/-- An address with the number of its leading bits that name the network. -/
structure Subnet where
  address : Address
  length : Nat
  length_le : length ≤ address.family.width
  deriving DecidableEq

namespace Subnet

/-- Read a prefix length. -/
def readLength? (cs : List Char) : Option Nat := (Text.readPlusNat? 10 cs).filter (· < 256)

/-- Read an address with an optional prefix length after a slash; a bare address is its own network. -/
def read? (cs : List Char) : Option Subnet :=
  match Text.splitOnce? '/' cs with
  | some (address, length) =>
    match Address.read? address, readLength? length with
    | some a, some n => if h : n ≤ a.family.width then some ⟨a, n, h⟩ else none
    | _, _ => none
  | none => (Address.read? cs).map fun a => ⟨a, a.family.width, Nat.le_refl _⟩

/-- The mask of the prefix length. -/
def mask (s : Subnet) : Nat := (s.address.family.mask? s.length).get (Family.isSome_mask? s.length_le)

/-- The first address of the subnet. -/
def network (s : Subnet) : Address :=
  ⟨s.address.family, s.address.value &&& s.mask,
    Nat.lt_of_le_of_lt Nat.and_le_left s.address.value_lt⟩

/-- The text of an address with a prefix length. -/
def text (a : Address) (length : Nat) : List Char := a.text ++ '/' :: Nat.toDigits 10 length

/-- The canonical text of a subnet; the host part is kept. -/
def render (s : Subnet) : String := String.ofList (text s.address s.length)

end Subnet

end AttributeSchema.Net
