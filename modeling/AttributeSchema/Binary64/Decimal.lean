import AttributeSchema.Binary64.Basic
import AttributeSchema.Text.Numeral

/-!
# Decimal text of doubles

Reading of a decimal with an optional sign, point and exponent, correctly rounded. At least one digit
stands before or after the point, and an exponent has at least one digit.
-/

namespace AttributeSchema.Binary64

/-- The decimal digits at the start of a text, and the rest of it. -/
def spanDigits (cs : List Char) : List Char × List Char := cs.span Char.isDigit

/-- Read an unsigned decimal as its digits and its exponent. -/
def readDecimal? (cs : List Char) : Option (Nat × Int) :=
  let (whole, rest) := spanDigits cs
  let (fraction, rest) := match rest with
    | '.' :: rest => spanDigits rest
    | rest => ([], rest)
  match Text.readNat? 10 (whole ++ fraction), Text.readExponent? rest with
  | some digits, some exponent => some (digits, exponent - fraction.length)
  | _, _ => none

/-- Whether a text has a minus sign, and what follows its sign. -/
def splitSign : List Char → Bool × List Char
  | '-' :: cs => (true, cs)
  | '+' :: cs => (false, cs)
  | cs => (false, cs)

/-- Read a decimal with an optional sign as the nearest double. A text beyond the range of doubles
is refused, as is the name of an infinity. -/
def read? (cs : List Char) : Option Binary64 :=
  let (negative, body) := splitSign cs
  match readDecimal? body with
  | some (digits, exponent) => ofDecimal? negative digits exponent
  | none => none

end AttributeSchema.Binary64
