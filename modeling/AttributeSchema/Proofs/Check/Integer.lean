import AttributeSchema.Check.Leaf
import AttributeSchema.Converter.Basic
import Mathlib.Data.List.Basic

/-!
# Whole numbers that were converted are checked

The conversion to whole numbers gives a whole number, and passes on one that needs 64 unsigned bits. The
checks read signed words of 64 bits. Within those the checks decide as the order of the whole numbers
does, with bounds that include their ends; beyond them each check says that the number is no integer.
Main statement: `LeafValidator.check_converted_integer`.
-/

namespace AttributeSchema

namespace Check

/-! ## Which value stands for which number -/

theorem integer?_ofInt (n : Int) :
    integer? (.ofInt n) = if Text.fitsInt64 n = true then some n else none := by
  simp [integer?, Json.ofInt, Number.toInt64?, Text.fitsInt64]

theorem integer?_ofInt_of_fits {n : Int} (h : Text.fitsInt64 n = true) :
    integer? (.ofInt n) = some n := by
  rw [integer?_ofInt, if_pos h]

/-- Every number that a check reads fits a signed word of 64 bits. -/
theorem fitsInt64_of_integer? {v : Json} {n : Int} (h : integer? v = some n) :
    Text.fitsInt64 n = true := by
  cases v with
  | number m =>
    cases m with
    | integer k =>
      change integer? (.ofInt k) = some n at h
      rw [integer?_ofInt, Option.ite_none_right_eq_some, Option.some.injEq] at h
      exact h.2 ▸ h.1
    | real x => simp [integer?, Number.toInt64?] at h
  | string s => exact Text.fitsInt64_of_readInt64? h
  | _ => simp [integer?] at h

/-! ## Bounds -/

/-- The number is not below a lower bound; null bounds nothing. -/
def NotBelow (bound : Json) (n : Int) : Prop := bound = .null ∨ ∃ m, bound = .ofInt m ∧ m ≤ n

/-- The number is not above an upper bound; null bounds nothing. -/
def NotAbove (bound : Json) (n : Int) : Prop := bound = .null ∨ ∃ m, bound = .ofInt m ∧ n ≤ m

theorem isBound_iff {bound : Json} :
    LeafValidator.isBound bound = true ↔
      bound = .null ∨ ∃ m, bound = .ofInt m ∧ Text.fitsInt64 m = true := by
  cases bound with
  | number m =>
    cases m <;> simp [LeafValidator.isBound, Json.isNull, Json.toInt64?, Number.toInt64?, Json.ofInt,
      Text.fitsInt64]
  | _ => simp [LeafValidator.isBound, Json.isNull, Json.toInt64?, Json.ofInt]

theorem toInt64?_ofInt {m : Int} (h : Text.fitsInt64 m = true) : (Json.ofInt m).toInt64? = some m :=
  integer?_ofInt_of_fits h

/-- Nothing speaks against a number that is not below a bound. -/
theorem filter_below_eq_none_iff {bound : Json} (h : LeafValidator.isBound bound = true) {n : Int} :
    bound.toInt64?.filter (n < ·) = none ↔ NotBelow bound n := by
  rcases isBound_iff.1 h with rfl | ⟨m, rfl, hm⟩
  · simp [NotBelow, Json.toInt64?]
  · rw [toInt64?_ofInt hm]
    simp [NotBelow, Json.ofInt]

theorem filter_above_eq_none_iff {bound : Json} (h : LeafValidator.isBound bound = true) {n : Int} :
    bound.toInt64?.filter (· < n) = none ↔ NotAbove bound n := by
  rcases isBound_iff.1 h with rfl | ⟨m, rfl, hm⟩
  · simp [NotAbove, Json.toInt64?]
  · rw [toInt64?_ofInt hm]
    simp [NotAbove, Json.ofInt]

/-- The parameters of a range. -/
theorem checkParam_range_eq_ok_iff {param : Option Json} :
    LeafValidator.range.checkParam param = .ok () ↔
      ∃ least most, param = some (.array [least, most]) ∧ LeafValidator.isBound least = true ∧
        LeafValidator.isBound most = true := by
  constructor
  · intro h
    rw [LeafValidator.checkParam.eq_def] at h
    dsimp only at h
    split at h
    case h_1 bounds =>
      split at h
      case isTrue hbounds =>
        obtain ⟨least, most, rfl⟩ := List.length_eq_two.1 hbounds.1
        exact ⟨least, most, rfl, by simpa using hbounds.2⟩
      case isFalse => simp at h
    case h_2 => simp at h
  · rintro ⟨least, most, rfl, hleast, hmost⟩
    simp [LeafValidator.checkParam, hleast, hmost]

/-! ## Verdicts -/

theorem exists_integer?_of_range {param : Option Json} {v : Json}
    (h : range param v = Verdict.pass) : ∃ n, integer? v = some n := by
  cases hv : integer? v with
  | none => simp [range, hv, Verdict.pass] at h
  | some n => exact ⟨n, rfl⟩

/-- What a range accepts. -/
theorem range_eq_pass_iff {least most v : Json} (hleast : LeafValidator.isBound least = true)
    (hmost : LeafValidator.isBound most = true) :
    range (some (.array [least, most])) v = Verdict.pass ↔
      ∃ n, integer? v = some n ∧ NotBelow least n ∧ NotAbove most n := by
  cases hv : integer? v with
  | none => simp [range, hv, Verdict.pass]
  | some n =>
    have hlower : bound? (some (.array [least, most])) 0 = least.toInt64? := rfl
    have hupper : bound? (some (.array [least, most])) 1 = most.toInt64? := rfl
    simp only [range, hv, hlower, hupper, Option.some.injEq, exists_eq_left',
      ← filter_below_eq_none_iff hleast, ← filter_above_eq_none_iff hmost]
    cases least.toInt64?.filter (n < ·) <;> cases most.toInt64?.filter (· < n) <;>
      simp [Verdict.pass]

theorem nonNegative_eq_pass_iff {v : Json} :
    nonNegative v = Verdict.pass ↔ ∃ n, integer? v = some n ∧ 0 ≤ n := by
  cases hv : integer? v with
  | none => simp [nonNegative, hv, Verdict.pass]
  | some n => by_cases hn : 0 ≤ n <;> simp [nonNegative, hv, hn, Verdict.require, Verdict.pass]

end Check

/-! ## Converted numbers -/

/-- The conversion gives a whole number. One that does not fit a signed word was given as it is. -/
theorem Convert.exists_of_toInteger {v w : Json} (h : toInteger v = .ok w) :
    ∃ n, w = .ofInt n ∧ (Text.fitsInt64 n = true ∨ v = w) := by
  rw [toInteger.eq_def] at h
  dsimp only at h
  split at h
  case h_2 => simp at h
  case h_1 n hn =>
    obtain rfl := Except.ok.inj h
    refine ⟨n, rfl, ?_⟩
    split at hn
    case h_1 m =>
      obtain rfl := Option.some.inj hn
      exact Or.inr rfl
    case h_2 x => exact Or.inl (Option.filter_eq_some_iff.1 hn).2
    case h_3 s => exact Or.inl (Text.fitsInt64_of_readInt64? hn)
    case h_4 => simp at hn

/-- **Converted numbers are checked by their order, as far as they fit.** A converted number that fits a
signed word of 64 bits is in a range exactly if it is neither below the lower bound nor above the upper
one, and it is not negative exactly if it is at least zero. A greater one, which can only have been
given as this number, is no integer to either check. -/
theorem LeafValidator.check_converted_integer {v w : Json}
    (h : BuiltinConverter.integer.apply v = .ok w) :
    ∃ n, w = .ofInt n ∧
      (Text.fitsInt64 n = true →
        (∀ param, LeafValidator.range.checkParam param = .ok () →
          ∃ least most, param = some (.array [least, most]) ∧ ∀ regex,
            (LeafValidator.range.check param regex w = Verdict.pass ↔
              Check.NotBelow least n ∧ Check.NotAbove most n)) ∧
        ∀ param regex, LeafValidator.nonNegative.check param regex w = Verdict.pass ↔ 0 ≤ n) ∧
      (Text.fitsInt64 n = false → v = w ∧ ∀ param regex,
        LeafValidator.range.check param regex w = .error (.notInteger w) ∧
          LeafValidator.nonNegative.check param regex w = .error (.notInteger w)) := by
  obtain ⟨n, rfl, horigin⟩ := Convert.exists_of_toInteger h
  refine ⟨n, rfl, ?fits, ?tooGreat⟩
  case fits =>
    intro hfits
    have hread : Check.integer? (.ofInt n) = some n := Check.integer?_ofInt_of_fits hfits
    refine ⟨fun param hparam => ?_, fun param regex => ?_⟩
    · obtain ⟨least, most, rfl, hleast, hmost⟩ := Check.checkParam_range_eq_ok_iff.1 hparam
      refine ⟨least, most, rfl, fun regex => ?_⟩
      show Check.range (some (.array [least, most])) (.ofInt n) = Verdict.pass ↔ _
      simp [Check.range_eq_pass_iff hleast hmost, hread]
    · show Check.nonNegative (.ofInt n) = Verdict.pass ↔ _
      simp [Check.nonNegative_eq_pass_iff, hread]
  case tooGreat =>
    intro hfits
    have hread : Check.integer? (.ofInt n) = none := by simp [Check.integer?_ofInt, hfits]
    refine ⟨horigin.resolve_left (by simp [hfits]), fun param regex => ⟨?_, ?_⟩⟩
    · show Check.range param (.ofInt n) = .error (.notInteger (.ofInt n))
      simp only [Check.range, hread]
    · show Check.nonNegative (.ofInt n) = .error (.notInteger (.ofInt n))
      simp only [Check.nonNegative, hread]

/-- The greatest signed word, written as a text, and the number after it. -/
theorem LeafValidator.check_converted_integer_limits :
    (BuiltinConverter.integer.apply (.string " +9223372036854775807") = .ok (.ofInt 0x7fffffffffffffff) ∧
      LeafValidator.range.checkParam (some (.array [.ofInt 1, .null])) = .ok () ∧
      LeafValidator.range.check (some (.array [.ofInt 1, .null])) none (.ofInt 0x7fffffffffffffff)
        = Verdict.pass) ∧
    BuiltinConverter.integer.apply (.ofInt 0x8000000000000000) = .ok (.ofInt 0x8000000000000000) ∧
    LeafValidator.nonNegative.check none none (.ofInt 0x8000000000000000)
      = .error (.notInteger (.ofInt 0x8000000000000000)) := by
  have hgreatest : BuiltinConverter.integer.apply (.string " +9223372036854775807")
      = .ok (.ofInt 0x7fffffffffffffff) := by rfl
  have hnext : BuiltinConverter.integer.apply (.ofInt 0x8000000000000000)
      = .ok (.ofInt 0x8000000000000000) := by rfl
  have hparam : LeafValidator.range.checkParam (some (.array [.ofInt 1, .null])) = .ok () := by rfl
  refine ⟨⟨hgreatest, hparam, ?_⟩, hnext, ?_⟩
  · obtain ⟨n, hn, hfits, -⟩ := LeafValidator.check_converted_integer hgreatest
    obtain rfl : 0x7fffffffffffffff = n := by simpa [Json.ofInt] using hn
    obtain ⟨least, most, hbounds, hrange⟩ := (hfits (by decide)).1 _ hparam
    obtain ⟨rfl, rfl⟩ : .ofInt 1 = least ∧ .null = most := by simpa using hbounds
    exact (hrange none).2 ⟨Or.inr ⟨1, rfl, by decide⟩, Or.inl rfl⟩
  · obtain ⟨n, hn, -, hgreat⟩ := LeafValidator.check_converted_integer hnext
    obtain rfl : 0x8000000000000000 = n := by simpa [Json.ofInt] using hn
    exact ((hgreat (by decide)).2 none none).2

/-- A converted number above the signed words is at least zero and above no bound, yet neither check
accepts it. -/
theorem LeafValidator.not_check_of_great_integer :
    BuiltinConverter.integer.apply (.ofInt 0x8000000000000000) = .ok (.ofInt 0x8000000000000000) ∧
      (0 : Int) ≤ 0x8000000000000000 ∧
      LeafValidator.nonNegative.check none none (.ofInt 0x8000000000000000) ≠ Verdict.pass ∧
      LeafValidator.range.checkParam (some (.array [.null, .null])) = .ok () ∧
      (Check.NotBelow .null 0x8000000000000000 ∧ Check.NotAbove .null 0x8000000000000000) ∧
      LeafValidator.range.check (some (.array [.null, .null])) none (.ofInt 0x8000000000000000)
        ≠ Verdict.pass := by
  have hread : Check.integer? (.ofInt 0x8000000000000000) = none := by rfl
  have hnull : LeafValidator.isBound .null = true := rfl
  refine ⟨rfl, by decide, ?_, rfl, ⟨Or.inl rfl, Or.inl rfl⟩, ?_⟩
  · show Check.nonNegative (.ofInt 0x8000000000000000) ≠ Verdict.pass
    simp [Check.nonNegative_eq_pass_iff, hread]
  · show Check.range (some (.array [.null, .null])) (.ofInt 0x8000000000000000) ≠ Verdict.pass
    simp [Check.range_eq_pass_iff hnull hnull, hread]

end AttributeSchema
