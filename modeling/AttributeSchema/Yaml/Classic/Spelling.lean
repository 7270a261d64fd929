import AttributeSchema.Binary64.Decimal

/-!
# Spellings of the classic dialect

A plain text spells null, a truth value, a number, or itself. The case of letters counts, and a text of
digits with needless zeros in front is no number.
-/

namespace AttributeSchema.Yaml.Classic

/-- Whether a text that is not empty spells null. -/
def spellsNull (text : String) : Bool := ["null", "Null", "NULL", "~"].contains text

/-- The truth value that a text spells. -/
def flag? (text : String) : Option Bool :=
  if ["true", "True", "TRUE"].contains text then some true
  else if ["false", "False", "FALSE"].contains text then some false
  else none

/-- Whether a text without its sign is a number of digits with needless zeros in front. -/
def isPadded (body : List Char) : Bool :=
  body.head? == some '0' && 1 < body.length && body.all Char.isDigit

/-- Whether a whole number with the given sign fits a word of 128 bits. -/
def fits (negative : Bool) (n : Nat) : Bool := n < Nat.pow 2 128 && (!negative || n ≤ Nat.pow 2 127)

/-- Read an unsigned whole number in one of four radices. -/
def natural? : List Char → Option Nat
  | '0' :: 'x' :: cs => Text.readNat? 16 cs
  | '0' :: 'o' :: cs => Text.readNat? 8 cs
  | '0' :: 'b' :: cs => Text.readNat? 2 cs
  | cs => if isPadded cs then none else Text.readNat? 10 cs

/-- Whether a text spells a whole number. -/
def isWhole (text : String) : Bool :=
  let (negative, body) := Binary64.splitSign text.toList
  (natural? body).any (fits negative)

/-- Whether a text spells a number that need not be whole. -/
def isReal (text : String) : Bool :=
  let (negative, body) := Binary64.splitSign text.toList
  [".inf", ".Inf", ".INF"].contains (String.ofList body) || [".nan", ".NaN", ".NAN"].contains text
    || (Binary64.readDecimal? body).any fun (digits, exponent) =>
      (Binary64.ofDecimal? negative digits exponent).isSome

/-- Whether a text spells a number. -/
def isNumber (text : String) : Bool :=
  isWhole text || (!isPadded (Binary64.splitSign text.toList).2 && isReal text)

end AttributeSchema.Yaml.Classic
