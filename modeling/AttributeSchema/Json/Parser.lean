import AttributeSchema.Json.Members
import AttributeSchema.Json.Written
import AttributeSchema.Text.Numeral

/-!
# Reading JSON values

A written value is read part by part; of a repeated key the first position and the last value count.
Main definitions: `Written.value?`, the value of a written one, and `parse?`, the value of a text.

A number without point and exponent is whole if it fits 64 bits. Any other number is a double: its
leading digits, as many as fit an unsigned word of 64 bits, are scaled by a power of ten, and each
step of that rounds.
-/

namespace AttributeSchema.Json

/-! ## Numbers -/

/-- Append a digit to a whole number if the result fits an unsigned word of 64 bits. -/
def pushDigit? (n : Nat) (c : Char) : Option Nat :=
  let m := 10 * n + (c.toNat - 48)
  if m < 0x10000000000000000 then some m else none

/-- Append digits as long as the result fits an unsigned word of 64 bits; the second part counts the
digits that were left out. -/
def pushDigits (n : Nat) : List Char → Nat × Nat
  | [] => (n, 0)
  | c :: cs =>
    match pushDigit? n c with
    | some m => pushDigits m cs
    | none => (n, (c :: cs).length)

/-- The exponent of the greatest power of ten that is a double. -/
def maxPower : Nat := 308

/-- The double nearest to a power of ten up to `maxPower`. -/
def powerOfTen (exponent : Nat) : Binary64 :=
  (Binary64.ofNat? false (Nat.pow 10 exponent)).getD (Binary64.zero false)

/-- The exponents by which a double is scaled down in turn: `maxPower` as long as more than that is
left, then the rest. After three full steps every double of 64 bits of digits is zero, so a greater
exponent than a thousand makes no difference. -/
def downSteps (exponent : Nat) : List Nat :=
  let exponent := min exponent 1000
  let full := (exponent - 1) / maxPower
  List.replicate full maxPower ++ [exponent - full * maxPower]

/-- Scale a double down by a power of ten, rounding after each step. -/
def scaleDown (x : Binary64) (exponent : Nat) : Option Binary64 :=
  (downSteps exponent).foldlM (fun x step => x.div? (powerOfTen step)) x

/-- The double of `digits * 10 ^ exponent`, rounded after each step. -/
def scaled? (negative : Bool) (digits : Nat) (exponent : Int) : Option Binary64 :=
  match Binary64.ofNat? negative digits with
  | none => none
  | some x =>
    if 0 ≤ exponent then
      if x.isZero then some x
      else if exponent ≤ maxPower then x.mul? (powerOfTen exponent.toNat)
      else none
    else scaleDown x (-exponent).toNat

/-- Read an unsigned number whose sign is given. -/
def readMagnitude? (negative : Bool) (cs : List Char) : Option Number :=
  let (whole, rest) := cs.span Char.isDigit
  let (digits, left) := pushDigits 0 whole
  if whole = [] ∨ (whole.head? = some '0' ∧ whole ≠ ['0']) then none
  else match rest with
    | [] =>
      if left ≠ 0 then (scaled? negative digits left).map .real
      else if ¬ negative then some (.integer digits)
      else if 0 < digits ∧ digits ≤ 0x8000000000000000 then some (.integer (-digits))
      else (Binary64.ofNat? true digits).map .real
    | '.' :: rest =>
      let (fraction, rest) := rest.span Char.isDigit
      if fraction = [] then none
      else
        let (digits, dropped) := pushDigits digits fraction
        let taken := fraction.length - dropped
        match Text.readExponent? rest with
        | some exponent => (scaled? negative digits (left - taken + exponent)).map .real
        | none => none
    | rest =>
      match Text.readExponent? rest with
      | some exponent => (scaled? negative digits (left + exponent)).map .real
      | none => none

/-- Read a number. -/
def readNumber? : List Char → Option Number
  | '-' :: cs => readMagnitude? true cs
  | cs => readMagnitude? false cs

/-- Read a word: one of the three names, or a number. -/
def readWord? (cs : List Char) : Option Json :=
  if cs = ['n', 'u', 'l', 'l'] then some .null
  else if cs = ['t', 'r', 'u', 'e'] then some (.bool true)
  else if cs = ['f', 'a', 'l', 's', 'e'] then some (.bool false)
  else (readNumber? cs).map .number

/-! ## Values -/

namespace Written

mutual

/-- The value that is written, if each of its words and strings stands for something. -/
def value? : Written → Option Json
  | .word cs => readWord? cs
  | .string cs => (text? cs).map .string
  | .array items => (values? items).map .array
  | .object ms => (members? ms).map fun ms => .object (Members.ofPairs ms)

/-- The values of items. -/
def values? : List Written → Option (List Json)
  | [] => some []
  | w :: ws =>
    match value? w, values? ws with
    | some v, some vs => some (v :: vs)
    | _, _ => none

/-- The members with their keys and values, repeated keys included. -/
def members? : List (List Char × Written) → Option (List (String × Json))
  | [] => some []
  | (key, w) :: ms =>
    match text? key, value? w, members? ms with
    | some key, some v, some vs => some ((key, v) :: vs)
    | _, _, _ => none

end

end Written

/-- Read a text as a value. -/
def parse? (text : String) : Option Json :=
  (Written.read? (some Written.maxDepth) text).bind Written.value?

end AttributeSchema.Json
