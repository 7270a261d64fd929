import AttributeSchema.Converter.Scalar
import AttributeSchema.Diagnostic

/-!
# Checks of numbers

Whole numbers, which may also be written as strings, within bounds that include their ends.
-/

namespace AttributeSchema.Check

/-- The whole number that a value stands for, if it fits a signed word of 64 bits. -/
def integer? : Json → Option Int
  | .number n => n.toInt64?
  | .string s => Convert.readInteger? s
  | _ => none

/-- A bound that a parameter gives: the least number first, then the greatest. -/
def bound? (param : Option Json) (index : Nat) : Option Int :=
  match param with
  | some (.array bounds) => bounds[index]?.bind Json.toInt64?
  | _ => none

/-- A whole number within the given bounds. -/
def range (param : Option Json) (v : Json) : Verdict :=
  match integer? v with
  | none => .error (.notInteger v)
  | some n =>
    match (bound? param 0).filter (n < ·), (bound? param 1).filter (· < n) with
    | some least, _ => .error (.tooSmall n least)
    | none, some most => .error (.tooLarge n most)
    | none, none => Verdict.pass

/-- A whole number that is not less than zero. -/
def nonNegative (v : Json) : Verdict :=
  match integer? v with
  | none => .error (.notInteger v)
  | some n => Verdict.require (0 ≤ n) (.negative v)

/-- A value that stands for a truth value. -/
def boolean (v : Json) : Verdict := Verdict.require (Convert.truth? v).isSome (.notBoolean v)

end AttributeSchema.Check
