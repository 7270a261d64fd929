import AttributeSchema.Proofs.Text.Reading
import AttributeSchema.Uuid
import Mathlib.Data.List.SplitLengths

/-!
# The text of a UUID read back

The hyphenated text of a UUID is none of the other spellings, and its groups joined are the digits of
the number. So it reads back as the UUID. Main statement: `Uuid.read?_render`.
-/

namespace AttributeSchema.Uuid

open Text

theorem groups_eq_splitLengths (sizes : List Nat) (cs : List Char) :
    groups sizes cs = sizes.splitLengths cs := by
  induction sizes generalizing cs with
  | nil => rfl
  | cons size sizes ih => rw [groups, ih, List.splitLengths_cons]

/-! ## Digits -/

theorem length_padded {places n : Nat} (hplaces : 0 < places) (h : n < 16 ^ places) :
    (padded places n).length = places := by
  have hfits := (Nat.length_toDigits_le_iff (by decide) hplaces).2 h
  rw [padded, List.length_append, List.length_replicate]
  omega

theorem readNat?_padded (places n : Nat) : readNat? 16 (padded places n) = some n := by
  rw [padded, readNat?_replicate_append (by decide) (by decide) Nat.toDigits_ne_nil,
    readNat?_toDigits (by decide) (by decide)]

/-- The thirty-two digits of a UUID. -/
def digits (u : Uuid) : List Char := padded 32 u.value

theorem length_digits (u : Uuid) : u.digits.length = 32 :=
  length_padded (by decide) u.value_lt

/-- What is no digit does not occur among the digits. -/
theorem not_mem_digits {c : Char} (hdigit : digit? 16 c = none) (u : Uuid) : c ∉ u.digits := by
  intro hc
  have hnone := readNat?_eq_none_of_mem hdigit hc
  simp [digits, readNat?_padded] at hnone

theorem readDigits?_digits (u : Uuid) : readDigits? u.digits = some u := by
  rw [readDigits?, if_pos u.length_digits, digits, readNat?_padded, Option.bind_some, ofNat?,
    dif_pos u.value_lt]

/-! ## The hyphenated form -/

/-- The characters of the text. -/
def written (u : Uuid) : List Char := joinWith ['-'] (groups groupSizes u.digits)

theorem toList_render (u : Uuid) : u.render.toList = u.written := String.toList_ofList

theorem flatten_groups_digits (u : Uuid) : (groups groupSizes u.digits).flatten = u.digits := by
  rw [groups_eq_splitLengths]
  exact List.flatten_splitLengths _ _ (Nat.le_of_eq u.length_digits)

theorem map_length_groups_digits (u : Uuid) :
    (groups groupSizes u.digits).map List.length = groupSizes := by
  rw [groups_eq_splitLengths]
  exact List.map_splitLengths_length _ _ (Nat.le_of_eq u.length_digits.symm)

/-- No hyphen stands inside a group. -/
theorem splitOn_written (u : Uuid) : splitOn '-' u.written = groups groupSizes u.digits := by
  refine splitOn_joinWith (by simp [groups, groupSizes]) fun group hgroup hhyphen => ?_
  have hmem := List.mem_flatten_of_mem hgroup hhyphen
  rw [flatten_groups_digits] at hmem
  exact not_mem_digits (by decide) u hmem

theorem readHyphenated?_written (u : Uuid) : readHyphenated? u.written = some u := by
  rw [readHyphenated?, splitOn_written, if_pos u.map_length_groups_digits, flatten_groups_digits,
    readDigits?_digits]

/-- A hyphen follows the first eight digits. -/
theorem exists_written_eq_append (u : Uuid) :
    ∃ first rest, u.written = first ++ '-' :: rest ∧ first.length = 8 ∧ rest.length = 27 ∧
      ∀ c ∈ first, c ∈ u.digits := by
  have hlength := u.length_digits
  refine ⟨u.digits.take 8, joinWith ['-'] (groups [4, 4, 4, 12] (u.digits.drop 8)), ?_, ?_, ?_,
    fun c hc => List.mem_of_mem_take hc⟩
  · simp [written, groups, groupSizes, joinWith]
  · rw [List.length_take]
    omega
  · simp [groups, joinWith, hlength]

/-- The text is none of the other spellings. -/
theorem read?_written (u : Uuid) : read? u.written = readHyphenated? u.written := by
  obtain ⟨first, rest, htext, hfirst, hrest, hmem⟩ := u.exists_written_eq_append
  have hlong : u.written.length ≠ 32 := by
    simp [htext, hfirst, hrest]
  have hbrace : unbraced? u.written = none := by
    refine if_neg fun ⟨hopen, _⟩ => not_mem_digits (by decide) u (hmem '\x7b' ?_)
    obtain ⟨c, cs, rfl⟩ := List.exists_cons_of_length_eq_add_one hfirst
    rw [htext, List.cons_append, List.head?_cons, Option.some.injEq] at hopen
    rw [hopen]
    exact List.mem_cons_self
  have hurn : (u.written.take urnMark.length).map Char.toLower ≠ urnMark := by
    intro hmark
    have hlength : urnMark.length = first.length + 1 := by
      rw [hfirst]
      rfl
    rw [htext, hlength, List.take_length_add_append] at hmark
    simpa [urnMark] using congrArg List.getLast? hmark
  rw [read?, if_neg hlong, hbrace]
  exact if_neg hurn

/-- The text of a UUID reads back as the UUID. -/
theorem read?_render (u : Uuid) : read? u.render.toList = some u := by
  rw [toList_render, read?_written, readHyphenated?_written]

end AttributeSchema.Uuid
