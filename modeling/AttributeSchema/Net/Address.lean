import AttributeSchema.Net.Words
import AttributeSchema.Text.Numeral
import AttributeSchema.Text.Pieces

/-!
# Internet addresses

An address is a family and a number of the family's width. Version 4 text is four decimal octets
without leading zeros. Version 6 text is eight hexadecimal groups; one run of zero groups may be
elided as a double colon, and the last two groups may be written as a version 4 address. Among its
texts, the canonical one has no leading zeros and lower case digits, elides the first of the longest
runs of at least two zero groups, and keeps the dotted form for version 4 addresses mapped into
version 6.
-/

namespace AttributeSchema.Net

/-- A version of the internet protocol. -/
inductive Family where
  | v4
  | v6
  deriving DecidableEq, Repr

/-- The number of bits in an address. -/
def Family.width : Family → Nat
  | .v4 => 32
  | .v6 => 128

/-- An address. -/
structure Address where
  family : Family
  value : Nat
  value_lt : value < Nat.pow 2 family.width
  deriving DecidableEq

namespace Address

/-- The address of a family with a given number, if the number is not too wide. -/
def ofNat? (family : Family) (value : Nat) : Option Address :=
  if h : value < Nat.pow 2 family.width then some ⟨family, value, h⟩ else none

/-- Read one octet of a version 4 address. -/
def readOctet? (cs : List Char) : Option Nat :=
  if cs.length ≤ 3 ∧ ¬ (cs.head? = some '0' ∧ 1 < cs.length) then
    (Text.readNat? 10 cs).filter (· < 256)
  else none

/-- Read the number of a version 4 address. -/
def readDotted? (cs : List Char) : Option Nat :=
  match (Text.splitOn '.' cs).mapM readOctet? with
  | some [a, b, c, d] => some (ofWords 256 [a, b, c, d])
  | _ => none

/-- Read one group of a version 6 address. -/
def readGroup? (cs : List Char) : Option Nat :=
  if cs.length ≤ 4 then Text.readNat? 16 cs else none

/-- Read groups of which the last two may be a version 4 address. -/
def readGroups? : List (List Char) → Option (List Nat)
  | [] => some []
  | [last] =>
    match readGroup? last with
    | some g => some [g]
    | none => (readDotted? last).map fun n => [n / 65536, n % 65536]
  | piece :: pieces =>
    match readGroup? piece, readGroups? pieces with
    | some g, some gs => some (g :: gs)
    | _, _ => none

/-- The parts of a text before and after its first double colon. -/
def splitElision? : List Char → Option (List Char × List Char)
  | ':' :: ':' :: cs => some ([], cs)
  | [] => none
  | c :: cs => (splitElision? cs).map fun (a, b) => (c :: a, b)

/-- Read groups separated by colons, of which there may be none. -/
def readSide? (read : List (List Char) → Option (List Nat)) (cs : List Char) : Option (List Nat) :=
  if cs = [] then some [] else read (Text.splitOn ':' cs)

/-- Read the eight groups of a version 6 address. An elision stands for at least one group, and a
version 4 address cannot stand before it. -/
def readColons? (cs : List Char) : Option (List Nat) :=
  match splitElision? cs with
  | none => (readGroups? (Text.splitOn ':' cs)).filter (·.length = 8)
  | some (front, back) =>
    match readSide? (·.mapM readGroup?) front, readSide? readGroups? back with
    | some a, some b =>
      if a.length + b.length ≤ 7 then some (a ++ List.replicate (8 - a.length - b.length) 0 ++ b)
      else none
    | _, _ => none

/-- Read an address of either family. -/
def read? (cs : List Char) : Option Address :=
  match readDotted? cs with
  | some n => ofNat? .v4 n
  | none => (readColons? cs).bind fun groups => ofNat? .v6 (ofWords 65536 groups)

/-- The dotted text of a version 4 number. -/
def dotted (n : Nat) : List Char :=
  Text.joinWith ['.'] ((toWords 256 4 n).map (Nat.toDigits 10))

/-- The hexadecimal text of groups, separated by colons. -/
def colons (groups : List Nat) : List Char :=
  Text.joinWith [':'] (groups.map (Nat.toDigits 16))

/-- The length of the run of zeros at the start. -/
def zeroRun (groups : List Nat) : Nat := (groups.takeWhile (· == 0)).length

/-- The start and the length of the first of the longest runs of zeros. -/
def longestRun (groups : List Nat) : Nat × Nat :=
  (List.range groups.length).foldl (fun (start, length) i =>
    let run := zeroRun (groups.drop i)
    if length < run then (i, run) else (start, length)) (0, 0)

/-- The text of eight groups, with the longest run of at least two zero groups elided. -/
def elided (groups : List Nat) : List Char :=
  let (start, length) := longestRun groups
  if 2 ≤ length then
    colons (groups.take start) ++ [':', ':'] ++ colons (groups.drop (start + length))
  else colons groups

/-- Whether a version 6 number is a version 4 address mapped into version 6. -/
def isMapped (n : Nat) : Bool := n / 0x100000000 == 0xffff

/-- The canonical text of an address. -/
def text (a : Address) : List Char :=
  match a.family with
  | .v4 => dotted a.value
  | .v6 =>
    if isMapped a.value then "::ffff:".toList ++ dotted (a.value % 0x100000000)
    else elided (toWords 65536 8 a.value)

/-- The canonical text of an address. -/
def render (a : Address) : String := String.ofList a.text

end Address

end AttributeSchema.Net
