import AttributeSchema.Proofs.Text.Reading
import AttributeSchema.Registry.Bundled
import Mathlib

/-!
# Domain names are accepted by their grammar

A name is a sequence of labels with dots between them and perhaps one after the last. The validators
cut a text at its dots, check the pieces one by one and look at the last of several; this accepts
exactly the names of the grammar, within the limit on their length in bytes. Main statements:
`Net.DomainName.fault?_eq_none_iff` and `Bundled.check_domainNames`.
-/

namespace AttributeSchema

namespace Net.DomainName

open Text

/-! ## The grammar -/

/-- Letters, digits and hyphens of ASCII, 1 to 63 of them, and no hyphen at either end. -/
structure IsLabel (label : List Char) : Prop where
  ne_nil : label ≠ []
  length_le : label.length ≤ 63
  chars : ∀ c ∈ label, c.isAlpha = true ∨ c.isDigit = true ∨ c = '-'
  head : label.head? ≠ some '-'
  last : label.getLast? ≠ some '-'

/-- One or more labels; the last of several is not all digits. -/
structure IsLabels (ls : List (List Char)) : Prop where
  ne_nil : ls ≠ []
  label : ∀ l ∈ ls, IsLabel l
  top : 2 ≤ ls.length → ∀ l, ls.getLast? = some l → ∃ c ∈ l, c.isDigit = false

/-- Labels with dots between them, and at most one dot after the last. -/
def IsName (name : List Char) : Prop :=
  ∃ ls, IsLabels ls ∧ (name = joinWith ['.'] ls ∨ name = joinWith ['.'] ls ++ ['.'])

/-! ## Labels -/

theorem isLabelChar_iff {c : Char} :
    isLabelChar c = true ↔ c.isAlpha = true ∨ c.isDigit = true ∨ c = '-' := by
  simp [isLabelChar, Char.isAlphanum, or_assoc]

theorem toNat_lt_of_isLabelChar {c : Char} (h : isLabelChar c = true) : c.toNat < 128 := by
  rw [isLabelChar_iff] at h
  simp only [Char.isAlpha, Char.isUpper, Char.isLower, Char.isDigit, Bool.or_eq_true,
    Bool.and_eq_true, decide_eq_true_eq, ge_iff_le, UInt32.le_iff_toNat_le] at h
  change ((65 ≤ c.toNat ∧ c.toNat ≤ 90) ∨ 97 ≤ c.toNat ∧ c.toNat ≤ 122) ∨
    (48 ≤ c.toNat ∧ c.toNat ≤ 57) ∨ c = '-' at h
  rcases h with (h | h) | h | rfl
  case inr.inr => decide
  all_goals omega

/-- In a label no character takes more than one byte. -/
theorem byteLength_of_labelChars {label : List Char} (h : label.all isLabelChar = true) :
    byteLength label = label.length :=
  byteLength_of_ascii fun _ hc => toNat_lt_of_isLabelChar (List.all_eq_true.1 h _ hc)

theorem labelFault?_eq_none_iff {label : List Char} : labelFault? label = none ↔ IsLabel label := by
  have hchars : label.all isLabelChar = true ↔
      ∀ c ∈ label, c.isAlpha = true ∨ c.isDigit = true ∨ c = '-' := by
    simp only [List.all_eq_true, isLabelChar_iff]
  constructor
  · intro h
    rw [labelFault?] at h
    split at h
    case isTrue => simp at h
    case isFalse hne =>
      split at h
      case isTrue => simp at h
      case isFalse hlong =>
        split at h
        case isTrue => simp at h
        case isFalse hedge =>
          split at h
          case isTrue hall =>
            rw [byteLength_of_labelChars hall, maxLabel, Nat.not_lt] at hlong
            exact ⟨hne, hlong, hchars.1 hall, fun e => hedge (Or.inl e), fun e => hedge (Or.inr e)⟩
          case isFalse => simp at h
  · rintro ⟨hne, hle, hall, hhead, hlast⟩
    have hbytes := byteLength_of_labelChars (hchars.2 hall)
    rw [labelFault?, if_neg hne, if_neg (by rw [hbytes, maxLabel]; omega),
      if_neg (not_or.2 ⟨hhead, hlast⟩), if_pos (hchars.2 hall)]

/-- No label holds a dot. -/
theorem IsLabel.dot_not_mem {label : List Char} (h : IsLabel label) : '.' ∉ label := fun hmem => by
  have hdot := h.chars '.' hmem
  revert hdot
  decide

theorem numericTop?_eq_none_iff {ls : List (List Char)} :
    numericTop? ls = none ↔
      (2 ≤ ls.length → ∀ l, ls.getLast? = some l → ∃ c ∈ l, c.isDigit = false) := by
  cases ls with
  | nil => simp [numericTop?]
  | cons l rest =>
    cases rest with
    | nil => simp [numericTop?]
    | cons next rest => simp [numericTop?, List.getLast?_cons_cons]

/-! ## Names -/

/-- The labels of a name, and the dot at its end if it has one, make up the name. -/
theorem joinWith_labels (name : List Char) :
    name = if isAbsolute name then joinWith ['.'] (labels name) ++ ['.']
      else joinWith ['.'] (labels name) := by
  rw [labels, joinWith_splitOn]
  split
  case isTrue habsolute =>
    rw [isAbsolute, beq_iff_eq] at habsolute
    exact (List.dropLast_append_getLast? _ habsolute).symm
  case isFalse => rfl

/-- What ends with the last of some labels does not end with a dot. -/
theorem isAbsolute_joinWith {ls : List (List Char)} (h : IsLabels ls) :
    isAbsolute (joinWith ['.'] ls) = false := by
  rw [isAbsolute, beq_eq_false_iff_ne]
  intro hlast
  -- A dot at the end would leave an empty piece, which is no label.
  have hpieces := splitOn_concat '.' (joinWith ['.'] ls).dropLast
  rw [List.dropLast_append_getLast? _ hlast,
    splitOn_joinWith h.ne_nil fun l hl => (h.label l hl).dot_not_mem] at hpieces
  have hnil : [] ∈ ls := by
    rw [hpieces]
    exact List.mem_append_right _ List.mem_cons_self
  exact (h.label [] hnil).ne_nil rfl

theorem labels_joinWith {ls : List (List Char)} (h : IsLabels ls) :
    labels (joinWith ['.'] ls) = ls ∧ labels (joinWith ['.'] ls ++ ['.']) = ls := by
  have hsplit : splitOn '.' (joinWith ['.'] ls) = ls :=
    splitOn_joinWith h.ne_nil fun l hl => (h.label l hl).dot_not_mem
  constructor
  · rw [labels, isAbsolute_joinWith h]
    exact hsplit
  · have habsolute : isAbsolute (joinWith ['.'] ls ++ ['.']) = true := by simp [isAbsolute]
    rw [labels, if_pos habsolute, List.dropLast_concat, hsplit]

/-- A text is a name exactly if its pieces are labels. -/
theorem isName_iff {name : List Char} : IsName name ↔ IsLabels (labels name) := by
  constructor
  · rintro ⟨ls, hls, rfl | rfl⟩
    · rwa [(labels_joinWith hls).1]
    · rwa [(labels_joinWith hls).2]
  · intro h
    refine ⟨labels name, h, ?_⟩
    have hname := joinWith_labels name
    split at hname
    · exact Or.inr hname
    · exact Or.inl hname

theorem isLabels_labels_iff {name : List Char} :
    IsLabels (labels name) ↔
      (labels name).findSome? labelFault? = none ∧ numericTop? (labels name) = none := by
  rw [List.findSome?_eq_none_iff, numericTop?_eq_none_iff]
  simp only [labelFault?_eq_none_iff]
  exact ⟨fun h => ⟨h.label, h.top⟩, fun h => ⟨splitOn_ne_nil _ _, h.1, h.2⟩⟩

/-- A name has no fault exactly if it is within the limit and of the grammar. -/
theorem fault?_eq_none_iff {limit : Nat} {name : List Char} :
    fault? limit name = none ↔ byteLength name ≤ limit ∧ IsName name := by
  rw [isName_iff, isLabels_labels_iff, fault?]
  split
  case isTrue hlong => simp [Nat.not_le.2 hlong]
  case isFalse hshort =>
    rw [Nat.not_lt] at hshort
    cases (labels name).findSome? labelFault? <;> simp [hshort]

theorem absoluteFault?_eq_none_iff {limit : Nat} {name : List Char} :
    absoluteFault? limit name = none ↔ fault? limit name = none ∧ name.getLast? = some '.' := by
  rw [absoluteFault?]
  cases fault? limit name <;> simp [isAbsolute]

end Net.DomainName

/-! ## The validators -/

namespace Check

theorem nameWith_eq_pass_iff {fault? : Nat → List Char → Option Net.DomainName.Fault}
    {param : Option Json} {s : String} :
    nameWith fault? param (.string s) = Verdict.pass ↔
      s = "" ∨ fault? (nameLimit param) s.toList = none := by
  rw [nameWith]
  split
  case isTrue h => simp [String.toList_eq_nil_iff.1 h]
  case isFalse h =>
    have hne : s ≠ "" := fun e => h (by simp [e])
    cases fault? (nameLimit param) s.toList <;> simp [hne, Verdict.pass]

end Check

/-- **The domain name validators accept exactly their grammar.** A host name is empty, or a name of at
most as many bytes as the parameter says, or 255 if it is no such number. A domain name is empty, or a
host name for the same parameter that ends with a dot. -/
theorem Bundled.check_domainNames (param : Option Json) (s : String) :
    (hostName.check (.string s) param = Verdict.pass ↔
      s = "" ∨ s.utf8ByteSize ≤ (param.bind Json.toUInt64?).getD 255 ∧
        Net.DomainName.IsName s.toList) ∧
    (domainName.check (.string s) param = Verdict.pass ↔
      s = "" ∨ hostName.check (.string s) param = Verdict.pass ∧ s.toList.getLast? = some '.') := by
  have hhost : hostName.check (.string s) param = Verdict.pass ↔
      s = "" ∨ Net.DomainName.fault? (Check.nameLimit param) s.toList = none :=
    Check.nameWith_eq_pass_iff
  have hdomain : domainName.check (.string s) param = Verdict.pass ↔
      s = "" ∨ Net.DomainName.absoluteFault? (Check.nameLimit param) s.toList = none :=
    Check.nameWith_eq_pass_iff
  constructor
  · rw [hhost, Net.DomainName.fault?_eq_none_iff, Text.byteLength_toList]
    rfl
  · rw [hdomain, hhost, Net.DomainName.absoluteFault?_eq_none_iff]
    constructor
    · exact Or.imp_right fun h => ⟨Or.inr h.1, h.2⟩
    · rintro (hempty | ⟨hempty | hname, hdot⟩)
      · exact Or.inl hempty
      · exact Or.inl hempty
      · exact Or.inr ⟨hname, hdot⟩

end AttributeSchema
