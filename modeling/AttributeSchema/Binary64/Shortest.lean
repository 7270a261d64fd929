import AttributeSchema.Binary64.Basic

/-!
# Shortest decimals

The shortest decimal that reads back as a given double. The magnitudes that round to a rank form an
interval, whose ends belong to it exactly when the rank is even. A decimal grid is the set of
multiples of a power of ten; the coarsest grid with a point in the interval fixes the digit count,
and the point nearest to the double is the answer.
-/

namespace AttributeSchema

/-- The number `digits * 10 ^ exponent`. -/
structure Decimal where
  digits : Nat
  exponent : Int
  deriving DecidableEq, Repr

namespace Binary64

/-- The number of half units in one. -/
def halvesPerOne : Nat := Nat.pow 2 1075

/-- The lower end of the interval that rounds to a rank, in half units. -/
def lowerEnd (rank : Nat) : Nat := unitsAt (rank - 1) + unitsAt rank

/-- The upper end of the interval that rounds to a rank, in half units. -/
def upperEnd (rank : Nat) : Nat := unitsAt rank + unitsAt (rank + 1)

/-- Whether a magnitude of `n / d` half units rounds to the rank. -/
def roundsTo (rank n d : Nat) : Bool :=
  let low := lowerEnd rank * d
  let high := upperEnd rank * d
  if rank % 2 = 0 then low ≤ n && n ≤ high else low < n && n < high

/-- The multiple of `step / scale` half units that rounds to the rank, the nearer one if two do, an
exact tie going to the even multiple. -/
def nearestMultiple? (rank step scale : Nat) : Option Nat :=
  let value := 2 * unitsAt rank * scale
  let below := value / step
  let rest := value % step
  let hit (c : Nat) : Bool := roundsTo rank (c * step) scale
  let belowNearer := 2 * rest < step || (2 * rest == step && below % 2 == 0)
  if hit below && (belowNearer || !hit (below + 1)) then some below
  else if hit (below + 1) then some (below + 1)
  else none

/-- The point of the grid of multiples of `10 ^ exponent` that rounds to the rank. -/
def gridPoint? (rank : Nat) (exponent : Int) : Option Decimal :=
  let multiple :=
    if 0 ≤ exponent then nearestMultiple? rank (halvesPerOne * Nat.pow 10 exponent.toNat) 1
    else nearestMultiple? rank halvesPerOne (Nat.pow 10 (-exponent).toNat)
  multiple.map (⟨·, exponent⟩)

/-- An exponent of ten at or above the magnitude of a rank. -/
def exponentAbove (rank : Nat) : Int :=
  (((unitsAt rank).log2 : Int) - 1073) * 30103 / 100000 + 1

/-- The shortest decimal that rounds to the rank. Seventeen digits always suffice, and the search
starts at most two grids too coarse. -/
def shortestOfRank (rank : Nat) : Decimal :=
  ((List.range 24).findSome? fun i : Nat => gridPoint? rank (exponentAbove rank - i)).getD ⟨0, 0⟩

/-- The shortest decimal that reads back as the magnitude of a double. -/
def shortest (x : Binary64) : Decimal :=
  if x.isZero then ⟨0, 0⟩ else shortestOfRank x.rank

end Binary64

end AttributeSchema
