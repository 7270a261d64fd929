import AttributeSchema.Binary64.Basic

/-!
# JSON values

A JSON value keeps the members of an object in the order in which they were written. `same` is the
equality of values: it ignores that order and the sign of zero, and never takes a whole number for a
double.
-/

namespace AttributeSchema

/-- A JSON number: a whole number or a double. -/
inductive Number where
  | integer (n : Int)
  | real (x : Binary64)
  deriving DecidableEq

/-- A JSON value. -/
inductive Json where
  | null
  | bool (b : Bool)
  | number (n : Number)
  | string (s : String)
  | array (items : List Json)
  | object (members : List (String × Json))
  deriving Inhabited

namespace Number

/-- Numeric equality within each of the two kinds. -/
def same : Number → Number → Bool
  | .integer m, .integer n => m == n
  | .real x, .real y => x.same y
  | _, _ => false

/-- The number as a signed word of 64 bits; a double never is one. -/
def toInt64? : Number → Option Int
  | .integer n => if -0x8000000000000000 ≤ n ∧ n < 0x8000000000000000 then some n else none
  | .real _ => none

/-- The number as an unsigned word of 64 bits; a double never is one. -/
def toUInt64? : Number → Option Nat
  | .integer n => if 0 ≤ n ∧ n < 0x10000000000000000 then some n.toNat else none
  | .real _ => none

/-- The double nearest to the number. -/
def toBinary64? : Number → Option Binary64
  | .integer n => Binary64.ofInt? n
  | .real x => some x

end Number

namespace Json

/-- A whole number as a value. -/
def ofInt (n : Int) : Json := .number (.integer n)

def isNull : Json → Bool
  | .null => true
  | _ => false

@[simp] theorem isNull_iff {v : Json} : v.isNull = true ↔ v = .null := by
  cases v <;> simp [isNull]

/-- The value as a signed word of 64 bits. -/
def toInt64? : Json → Option Int
  | .number n => n.toInt64?
  | _ => none

/-- The value as an unsigned word of 64 bits. -/
def toUInt64? : Json → Option Nat
  | .number n => n.toUInt64?
  | _ => none

mutual

/-- Equality of values, blind to the order of members and to the sign of zero. -/
def same : Json → Json → Bool
  | .null, .null => true
  | .bool a, .bool b => a == b
  | .number m, .number n => m.same n
  | .string s, .string t => s == t
  | .array xs, .array ys => sameItems xs ys
  | .object xs, .object ys => xs.length == ys.length && sameMembers xs ys
  | _, _ => false

/-- Equality of items, position by position. -/
def sameItems : List Json → List Json → Bool
  | [], [] => true
  | x :: xs, y :: ys => same x y && sameItems xs ys
  | _, _ => false

/-- Whether every member has an equal one under the same key in `ys`. -/
def sameMembers : List (String × Json) → List (String × Json) → Bool
  | [], _ => true
  | (k, x) :: xs, ys =>
    (match ys.lookup k with
      | some y => same x y
      | none => false) && sameMembers xs ys

end

instance : BEq Json := ⟨same⟩

theorem beq_def (v w : Json) : (v == w) = same v w := rfl

end Json

end AttributeSchema
