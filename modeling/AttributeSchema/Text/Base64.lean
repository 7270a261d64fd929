/-!
# Base64

Four letters of an alphabet of sixty-four stand for three octets. A text whose length in octets is no
multiple of three ends in one or two equals signs, and the bits that these leave over are zero. Main
definition: `decode?`.
-/

namespace AttributeSchema.Text.Base64

/-- The number that a letter stands for. -/
def sextet? (c : Char) : Option Nat :=
  if 'A' ≤ c ∧ c ≤ 'Z' then some (c.toNat - 65)
  else if 'a' ≤ c ∧ c ≤ 'z' then some (c.toNat - 71)
  else if '0' ≤ c ∧ c ≤ '9' then some (c.toNat + 4)
  else if c = '+' then some 62
  else if c = '/' then some 63
  else none

/-- The octets that are written. -/
def decode? : List Char → Option (List UInt8)
  | [] => some []
  | [a, b, '=', '='] =>
    match sextet? a, sextet? b with
    | some a, some b => if b % 16 = 0 then some [UInt8.ofNat (4 * a + b / 16)] else none
    | _, _ => none
  | [a, b, c, '='] =>
    match sextet? a, sextet? b, sextet? c with
    | some a, some b, some c =>
      if c % 4 = 0 then
        some [UInt8.ofNat (4 * a + b / 16), UInt8.ofNat (16 * b + c / 4)]
      else none
    | _, _, _ => none
  | a :: b :: c :: d :: cs =>
    match sextet? a, sextet? b, sextet? c, sextet? d with
    | some a, some b, some c, some d =>
      (decode? cs).map fun octets =>
        UInt8.ofNat (4 * a + b / 16) :: UInt8.ofNat (16 * b + c / 4) :: UInt8.ofNat (64 * c + d)
          :: octets
    | _, _, _, _ => none
  | _ => none

/-- The text whose octets are written. -/
def decodeText? (cs : List Char) : Option String :=
  (decode? cs).bind fun octets => String.fromUTF8? (ByteArray.mk octets.toArray)

end AttributeSchema.Text.Base64
