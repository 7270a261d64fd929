import AttributeSchema.Binary64.Decimal
import AttributeSchema.Json.Basic
import AttributeSchema.Text.Base64
import AttributeSchema.Text.Blank
import AttributeSchema.Yaml.Node

/-!
# Scalars of the modern dialect

A plain scalar stands for null, a truth value, a number or a text, depending on its spelling; any other
scalar is a text. Where a flag or a text is expected, the spelling of a scalar counts and not what it
stands for. Main definitions: `Scalar.flag?`, `Scalar.text?` and `Scalar.value?`.
-/

namespace AttributeSchema.Yaml

namespace Spelling

/-- The spellings of null, in lower case. -/
def nulls : List String := ["", "~", "null"]

/-- The spellings of truth values, in lower case. -/
def trues : List String := ["true", "yes", "y", "on"]
def falses : List String := ["false", "no", "n", "off"]

/-- The truth value that a text spells. Blanks around it and the case of its letters do not count. -/
def flag? (text : String) : Option Bool :=
  let word := (String.ofList (Text.trim text.toList)).toLower
  if trues.contains word then some true
  else if falses.contains word then some false
  else none

/-- The radix that starts a number, and the digits after it. -/
def radixOf : List Char → Nat × List Char
  | '0' :: c :: cs =>
    match c.toLower with
    | 'x' => (16, cs)
    | 'o' => (8, cs)
    | 'b' => (2, cs)
    | _ => (10, '0' :: c :: cs)
  | cs => (10, cs)

/-- Read a whole number in one of four radices. Underscores between its digits do not count. -/
def integer? (cs : List Char) : Option Int :=
  let (negative, body) := Binary64.splitSign cs
  let (radix, digits) := radixOf body
  (Text.readNat? radix (digits.filter (· != '_'))).map fun n =>
    if negative then -(n : Int) else n

/-- The spellings of infinity and of what is no number, in lower case and without a sign. -/
def infinities : List String := [".inf", "inf", "infinity"]
def notNumbers : List String := [".nan", "nan"]

/-- Read a number that need not be whole. A double that is not finite becomes a text. -/
def real? (cs : List Char) : Option Json :=
  let (negative, body) := Binary64.splitSign cs
  let word := (String.ofList body).toLower
  let infinity := Json.string (if negative then "-.inf" else ".inf")
  if infinities.contains word then some infinity
  else if notNumbers.contains word then some (.string ".nan")
  else
    match Binary64.readDecimal? body with
    | none => none
    | some (digits, exponent) =>
      match Binary64.ofDecimal? negative digits exponent with
      | some x => some (.number (.real x))
      | none => some infinity

/-- Read a number: a whole one that fits a word of 64 bits, or a double. -/
def number? (text : String) : Option Json :=
  let cs := Text.trim text.toList
  match integer? cs with
  | some n => if Text.fitsInt64 n || Text.fitsUInt64 n then some (.ofInt n) else real? cs
  | none => real? cs

end Spelling

namespace Tag

/-- Whether a tag says that a scalar is something else than a text. -/
def isTyped : Tag → Bool
  | .bool | .int | .float | .timestamp | .sequence | .mapping => true
  | _ => false

end Tag

namespace Scalar

/-- Whether a plain scalar spells null. -/
def spellsNull (s : Scalar) : Bool :=
  s.style == .plain && Spelling.nulls.contains s.text.toLower

/-- Whether a scalar stands for null where something else than a text is expected. -/
def isNull (s : Scalar) : Bool :=
  s.tag? == some .null || (s.tag? != some .string && s.spellsNull)

/-- Whether a scalar says that something optional is not there. An empty block says so, too. -/
def isAbsent (s : Scalar) : Bool :=
  s.isNull || (s.tag? != some .string && s.style == .block && s.text.isEmpty)

/-- A scalar as a flag. -/
def flag? (s : Scalar) : Option Bool := Spelling.flag? s.text

/-- A scalar as a text. Blanks between the letters of binary data do not count. -/
def text? (s : Scalar) : Option String :=
  if s.isNull then none
  else match s.tag? with
    | some tag =>
      if tag == .binary then
        Text.Base64.decodeText? (s.text.toList.filter fun c => !Text.isBlank c)
      else if tag.isTyped then none
      else some s.text
    | none => some s.text

/-- What a plain scalar stands for. -/
def plainValue (s : Scalar) : Json :=
  if s.spellsNull then .null
  else match s.flag? with
    | some b => .bool b
    | none => (Spelling.number? s.text).getD (.string s.text)

/-- What a scalar stands for. -/
def value? (s : Scalar) : Option Json :=
  if s.tag? == some .null then some .null
  else if s.style == .plain && !s.tag?.any fun tag => tag == .binary || tag.isTyped then
    some s.plainValue
  else s.text?.map .string

end Scalar

end AttributeSchema.Yaml
