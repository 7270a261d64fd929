/-!
# Finite doubles

A finite double is a sign and a rank: the position of its magnitude among the finite magnitudes,
counted upward from zero. Every rank below `rankLimit` is a double, so no well-formedness condition
is needed. All arithmetic is exact, in whole multiples of the least positive magnitude, and rounds
once, to nearest with a tie going to the even rank.
-/

namespace AttributeSchema

/-- The number of magnitudes between one power of two and the next. -/
def Binary64.binadeSize : Nat := 0x10000000000000

/-- The number of finite magnitudes. -/
def Binary64.rankLimit : Nat := 2047 * binadeSize

/-- A finite double. -/
structure Binary64 where
  /-- Whether the sign bit is set; zero occurs with both signs. -/
  negative : Bool
  /-- The position of the magnitude among the finite magnitudes. -/
  rank : Nat
  rank_lt : rank < Binary64.rankLimit
  deriving DecidableEq

namespace Binary64

/-- The number of units in one. The unit is the least positive magnitude, `2 ^ (-1074)`. -/
def unitsPerOne : Nat := Nat.pow 2 1074

/-- The magnitude of a rank in units: the fraction, with a leading one above the least binade,
shifted by the binade. -/
def unitsAt (rank : Nat) : Nat :=
  let binade := rank / binadeSize
  let fraction := rank % binadeSize
  if binade = 0 then fraction else (binadeSize + fraction) <<< (binade - 1)

/-- The magnitude in units. -/
def units (x : Binary64) : Nat := unitsAt x.rank

/-- A quotient rounded to the nearest whole number, a tie going to the even one. -/
def roundDiv (n d : Nat) : Nat :=
  let q := n / d
  let r := n % d
  if 2 * r < d then q else if d < 2 * r then q + 1 else q + q % 2

/-- The rank nearest to `n / d` units, without regard to the limit. -/
def nearestRank (n d : Nat) : Nat :=
  let binade := (n / d).log2 - 52
  binade * binadeSize + roundDiv n (d <<< binade)

/-- The double of the given sign nearest to `n / d` units, unless that is beyond the limit. -/
def ofUnits? (negative : Bool) (n d : Nat) : Option Binary64 :=
  let rank := nearestRank n d
  if h : rank < rankLimit then some ⟨negative, rank, h⟩ else none

/-- Zero with the given sign. -/
def zero (negative : Bool) : Binary64 := ⟨negative, 0, by decide⟩

/-- Whether the magnitude is zero. -/
def isZero (x : Binary64) : Bool := x.rank == 0

/-- Whether the double is less than zero; a zero with a sign is not. -/
def isNegative (x : Binary64) : Bool := x.negative && !x.isZero

/-- Numeric equality: the two zeros are equal. -/
def same (x y : Binary64) : Bool := x.rank == y.rank && (x.negative == y.negative || x.isZero)

/-- The double of the given sign nearest to a whole number. -/
def ofNat? (negative : Bool) (n : Nat) : Option Binary64 := ofUnits? negative (n * unitsPerOne) 1

/-- The double nearest to a whole number. -/
def ofInt? (n : Int) : Option Binary64 := ofNat? (n < 0) n.natAbs

/-- The double nearest to `digits * 10 ^ exponent`, unless that is beyond the limit. -/
def ofDecimal? (negative : Bool) (digits : Nat) (exponent : Int) : Option Binary64 :=
  let scale : Int := (digits.log2 : Int) + 1 + 3 * exponent
  if digits = 0 then some (zero negative)
  -- Far outside the range of magnitudes the answer does not need the power of ten.
  else if 0 ≤ exponent ∧ 1100 < scale then none
  else if exponent < 0 ∧ scale < -1100 then some (zero negative)
  else if 0 ≤ exponent then ofUnits? negative (digits * Nat.pow 10 exponent.toNat * unitsPerOne) 1
  else ofUnits? negative (digits * unitsPerOne) (Nat.pow 10 (-exponent).toNat)

/-- The product of the magnitude with the magnitude of `y`, under the sign of `x`. -/
def mul? (x y : Binary64) : Option Binary64 := ofUnits? x.negative (x.units * y.units) unitsPerOne

/-- The quotient of the magnitude by the magnitude of `y`, under the sign of `x`. -/
def div? (x y : Binary64) : Option Binary64 := ofUnits? x.negative (x.units * unitsPerOne) y.units

/-- The whole number that the double is equal to, if it is one. -/
def toInt? (x : Binary64) : Option Int :=
  if x.units % unitsPerOne = 0 then
    let n : Int := x.units / unitsPerOne
    some (if x.negative then -n else n)
  else none

theorem same_refl (x : Binary64) : same x x = true := by simp [same]

theorem same_comm (x y : Binary64) : same x y = same y x := by
  rw [Bool.eq_iff_iff]
  simp only [same, isZero, Bool.and_eq_true, Bool.or_eq_true, beq_iff_eq]
  constructor <;> rintro ⟨h, g⟩ <;> exact ⟨h.symm, g.imp Eq.symm (fun e => by omega)⟩

end Binary64

end AttributeSchema
