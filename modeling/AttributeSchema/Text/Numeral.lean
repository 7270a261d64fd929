/-!
# Numerals

Reading of unsigned and signed whole numbers in a radix up to sixteen. A numeral has at least one
digit and nothing but digits after its optional sign; digits above nine are written `a` to `f` in
either case.
-/

namespace AttributeSchema.Text

/-- The value of a digit in the given radix. -/
def digit? (radix : Nat) (c : Char) : Option Nat :=
  let n := c.toNat
  let value :=
    if 48 ≤ n ∧ n ≤ 57 then n - 48
    else if 97 ≤ n ∧ n ≤ 102 then n - 87
    else if 65 ≤ n ∧ n ≤ 70 then n - 55
    else 16
  if value < radix ∧ value < 16 then some value else none

/-- Read an unsigned numeral, most significant digit first. -/
def readNat? (radix : Nat) : List Char → Option Nat
  | [] => none
  | cs => cs.foldlM (fun n c => (digit? radix c).map (radix * n + ·)) 0

/-- Read an unsigned numeral that may carry a plus sign. -/
def readPlusNat? (radix : Nat) : List Char → Option Nat
  | '+' :: cs => readNat? radix cs
  | cs => readNat? radix cs

/-- Read a numeral that may carry a sign. -/
def readInt? (radix : Nat) : List Char → Option Int
  | '-' :: cs => (readNat? radix cs).map (fun n => -(n : Int))
  | '+' :: cs => (readNat? radix cs).map Int.ofNat
  | cs => (readNat? radix cs).map Int.ofNat

/-- Read what follows the digits of a decimal: nothing, or an exponent. -/
def readExponent? : List Char → Option Int
  | [] => some 0
  | c :: cs => if c = 'e' ∨ c = 'E' then readInt? 10 cs else none

/-- The character with a code point, if it is the code point of one. -/
def charOf? (n : Nat) : Option Char := if n.isValidChar then some (Char.ofNat n) else none

/-- The character with a code point in hexadecimal digits. -/
def charOfHex? (digits : List Char) : Option Char := (readNat? 16 digits).bind charOf?

/-- Whether a whole number fits a signed word of 64 bits. -/
def fitsInt64 (n : Int) : Bool := -0x8000000000000000 ≤ n && n < 0x8000000000000000

/-- Whether a whole number fits an unsigned word of 64 bits. -/
def fitsUInt64 (n : Int) : Bool := 0 ≤ n && n < 0x10000000000000000

/-- Read a decimal numeral that fits a signed word of 64 bits. -/
def readInt64? (cs : List Char) : Option Int := (readInt? 10 cs).filter fitsInt64

@[simp] theorem readNat?_nil (radix : Nat) : readNat? radix [] = none := rfl

theorem digit?_lt {radix n : Nat} {c : Char} (h : digit? radix c = some n) : n < radix := by
  simp only [digit?, Option.ite_none_right_eq_some, Option.some.injEq] at h
  exact h.2 ▸ h.1.1

theorem fitsInt64_of_readInt64? {cs : List Char} {n : Int} (h : readInt64? cs = some n) :
    fitsInt64 n = true :=
  (Option.filter_eq_some_iff.1 h).2

end AttributeSchema.Text
