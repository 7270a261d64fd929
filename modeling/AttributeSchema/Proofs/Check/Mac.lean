import AttributeSchema.Check.Leaf
import AttributeSchema.Proofs.Text.Reading
import Mathlib.Data.List.Basic

/-!
# What is accepted as a MAC address

An address is six groups of two hexadecimal digits, not all of them zero, with colons or with dashes
between them. The reader of a group also takes a plus sign and one digit, since it reads signed
numerals. So exactly the addresses are accepted, and besides them the texts in which such groups occur.
Main statements: `Net.Mac.accepts_iff` and `LeafValidator.check_mac`.
-/

namespace AttributeSchema

/-! ## Hexadecimal digits -/

namespace Text

/-- A hexadecimal digit of ASCII, in either case. -/
def IsHexDigit (c : Char) : Prop :=
  ('0' ≤ c ∧ c ≤ '9') ∨ ('a' ≤ c ∧ c ≤ 'f') ∨ ('A' ≤ c ∧ c ≤ 'F')

theorem isHexDigit_iff {c : Char} :
    IsHexDigit c ↔ (48 ≤ c.toNat ∧ c.toNat ≤ 57) ∨ (97 ≤ c.toNat ∧ c.toNat ≤ 102) ∨
      (65 ≤ c.toNat ∧ c.toNat ≤ 70) := by
  simp only [IsHexDigit, Char.le_def, UInt32.le_iff_toNat_le]
  exact Iff.rfl

theorem exists_digit?_iff {c : Char} : (∃ d, digit? 16 c = some d) ↔ IsHexDigit c := by
  rw [isHexDigit_iff]
  simp only [digit?, Option.ite_none_right_eq_some, Option.some.injEq, exists_eq_right']
  split
  case isTrue => omega
  case isFalse =>
    split
    case isTrue => omega
    case isFalse => split <;> omega

theorem digit?_eq_zero_iff {c : Char} : digit? 16 c = some 0 ↔ c = '0' := by
  have hzero : c = '0' ↔ c.toNat = 48 := by
    rw [← Char.toNat_inj]
    exact Iff.rfl
  rw [hzero]
  simp only [digit?, Option.ite_none_right_eq_some, Option.some.injEq]
  split
  case isTrue => omega
  case isFalse =>
    split
    case isTrue => omega
    case isFalse => split <;> omega

theorem IsHexDigit.toNat_lt {c : Char} (h : IsHexDigit c) : c.toNat < 128 := by
  rw [isHexDigit_iff] at h
  omega

theorem readNat?_singleton (c : Char) : readNat? 16 [c] = digit? 16 c := by
  simp [readNat?]

theorem readNat?_pair_eq_some_iff {a b : Char} {n : Nat} :
    readNat? 16 [a, b] = some n ↔
      ∃ x y, digit? 16 a = some x ∧ digit? 16 b = some y ∧ 16 * x + y = n := by
  simp [readNat?, Option.bind_eq_some_iff]

/-- A numeral that may carry a plus sign is one without it, or has it in front of one. -/
theorem readPlusNat?_eq_some_iff {radix n : Nat} {cs : List Char} (hplus : digit? radix '+' = none) :
    readPlusNat? radix cs = some n ↔
      readNat? radix cs = some n ∨ ∃ ds, cs = '+' :: ds ∧ readNat? radix ds = some n := by
  rw [readPlusNat?.eq_def]
  split
  case h_1 ds => simp [readNat?_eq_none_of_mem hplus List.mem_cons_self]
  case h_2 hne => exact ⟨Or.inl, fun h => h.resolve_right fun ⟨ds, hcs, _⟩ => hne ds hcs⟩

end Text

namespace Net.Mac

open Text

/-! ## Groups -/

/-- Two hexadecimal digits. -/
def IsOctet (group : List Char) : Prop := ∃ a b, group = [a, b] ∧ IsHexDigit a ∧ IsHexDigit b

/-- A plus sign and a hexadecimal digit. -/
def IsSignedDigit (group : List Char) : Prop := ∃ b, group = ['+', b] ∧ IsHexDigit b

/-- Six groups of a kind with colons or with dashes between them, at least one of which is not zero. -/
def Spelled (group : List Char → Prop) (cs : List Char) : Prop :=
  ∃ sep groups, (sep = ':' ∨ sep = '-') ∧ cs = joinWith [sep] groups ∧ groups.length = 6 ∧
    (∀ g ∈ groups, group g) ∧ ∃ g ∈ groups, g ≠ ['0', '0'] ∧ g ≠ ['+', '0']

/-- What a group reads as: the number of two digits, or of the one after a plus sign. -/
theorem readOctet?_eq_some_iff {group : List Char} {n : Nat} :
    readOctet? group = some n ↔
      (∃ a b x y, group = [a, b] ∧ digit? 16 a = some x ∧ digit? 16 b = some y ∧ 16 * x + y = n) ∨
      ∃ b, group = ['+', b] ∧ digit? 16 b = some n := by
  have hascii : ∀ {c d}, digit? 16 c = some d → c.toNat < 128 := fun h =>
    (exists_digit?_iff.1 ⟨_, h⟩).toNat_lt
  have hnumeral : ∀ {cs m}, readNat? 16 cs = some m → ∀ c ∈ cs, c.toNat < 128 := fun h c hc => by
    obtain ⟨d, hd⟩ := Option.isSome_iff_exists.1 (isSome_digit?_of_readNat? h hc)
    exact hascii hd
  rw [readOctet?, Option.ite_none_right_eq_some, readPlusNat?_eq_some_iff (by decide)]
  constructor
  · rintro ⟨hbytes, hread | ⟨ds, rfl, hread⟩⟩
    · rw [byteLength_of_ascii (hnumeral hread)] at hbytes
      obtain ⟨a, b, rfl⟩ := List.length_eq_two.1 hbytes
      obtain ⟨x, y, hx, hy, rfl⟩ := readNat?_pair_eq_some_iff.1 hread
      exact Or.inl ⟨a, b, x, y, rfl, hx, hy, rfl⟩
    · rw [byteLength_of_ascii (List.forall_mem_cons.2 ⟨by decide, hnumeral hread⟩)] at hbytes
      obtain ⟨b, rfl⟩ := List.length_eq_one_iff.1 (Nat.succ.inj hbytes)
      rw [readNat?_singleton] at hread
      exact Or.inr ⟨b, rfl, hread⟩
  · rintro (⟨a, b, x, y, rfl, hx, hy, rfl⟩ | ⟨b, rfl, hb⟩)
    · refine ⟨?_, Or.inl (readNat?_pair_eq_some_iff.2 ⟨x, y, hx, hy, rfl⟩)⟩
      rw [byteLength_of_ascii (by simp [hascii hx, hascii hy])]
      rfl
    · refine ⟨?_, Or.inr ⟨[b], rfl, (readNat?_singleton b).trans hb⟩⟩
      rw [byteLength_of_ascii (by simp [hascii hb])]
      rfl

theorem exists_readOctet?_iff {group : List Char} :
    (∃ n, readOctet? group = some n) ↔ IsOctet group ∨ IsSignedDigit group := by
  simp only [readOctet?_eq_some_iff, IsOctet, IsSignedDigit, ← exists_digit?_iff]
  constructor
  · rintro ⟨n, ⟨a, b, x, y, hg, hx, hy, -⟩ | ⟨b, hg, hb⟩⟩
    · exact Or.inl ⟨a, b, hg, ⟨x, hx⟩, y, hy⟩
    · exact Or.inr ⟨b, hg, n, hb⟩
  · rintro (⟨a, b, hg, ⟨x, hx⟩, y, hy⟩ | ⟨b, hg, n, hb⟩)
    · exact ⟨_, Or.inl ⟨a, b, x, y, hg, hx, hy, rfl⟩⟩
    · exact ⟨n, Or.inr ⟨b, hg, hb⟩⟩

theorem readOctet?_eq_zero_iff {group : List Char} :
    readOctet? group = some 0 ↔ group = ['0', '0'] ∨ group = ['+', '0'] := by
  rw [readOctet?_eq_some_iff]
  constructor
  · rintro (⟨a, b, x, y, rfl, hx, hy, hsum⟩ | ⟨b, rfl, hb⟩)
    · obtain ⟨rfl, rfl⟩ : x = 0 ∧ y = 0 := by omega
      rw [digit?_eq_zero_iff] at hx hy
      exact Or.inl (by rw [hx, hy])
    · exact Or.inr (by rw [digit?_eq_zero_iff.1 hb])
  · rintro (rfl | rfl)
    · exact Or.inl ⟨_, _, 0, 0, rfl, by decide, by decide, rfl⟩
    · exact Or.inr ⟨_, rfl, by decide⟩

/-! ## Addresses -/

/-- The groups are those between the separators. -/
theorem accepts_iff_groups {cs : List Char} :
    accepts cs = true ↔ (splitOn (separator cs) cs).length = 6 ∧
      (∀ g ∈ splitOn (separator cs) cs, IsOctet g ∨ IsSignedDigit g) ∧
      ∃ g ∈ splitOn (separator cs) cs, g ≠ ['0', '0'] ∧ g ≠ ['+', '0'] := by
  have hoctets : accepts cs = true ↔ ∃ octets,
      (splitOn (separator cs) cs).mapM readOctet? = some octets ∧ octets.length = 6 ∧
        ∃ n ∈ octets, n ≠ 0 := by
    rw [accepts, read?]
    cases (splitOn (separator cs) cs).mapM readOctet? with
    | none => simp
    | some octets => by_cases h : octets.length = 6 <;> simp [h]
  rw [hoctets]
  constructor
  · rintro ⟨octets, hread, hcount, n, hn, hne⟩
    obtain ⟨g, hg, hgn⟩ := exists_mem_of_mem_mapM hread hn
    refine ⟨(length_eq_of_mapM hread).symm.trans hcount, fun g hg => ?_, g, hg, ?_⟩
    · obtain ⟨m, -, hm⟩ := exists_mem_of_mapM hread hg
      exact exists_readOctet?_iff.1 ⟨m, hm⟩
    · refine not_or.1 fun hzero => hne ?_
      simpa [readOctet?_eq_zero_iff.2 hzero] using hgn.symm
  · rintro ⟨hcount, hgroups, g, hg, hne⟩
    obtain ⟨octets, hread⟩ := exists_mapM_of_forall fun g hg => exists_readOctet?_iff.2 (hgroups g hg)
    obtain ⟨n, hn, hgn⟩ := exists_mem_of_mapM hread hg
    refine ⟨octets, hread, (length_eq_of_mapM hread).trans hcount, n, hn, ?_⟩
    rintro rfl
    exact not_or.2 hne (readOctet?_eq_zero_iff.1 hgn)

/-- Neither separator occurs in a group that can be read. -/
theorem not_mem_of_octet {group : List Char} (h : IsOctet group ∨ IsSignedDigit group) :
    ':' ∉ group ∧ '-' ∉ group := by
  have hdigit : ∀ {c}, IsHexDigit c → c ≠ ':' ∧ c ≠ '-' := by
    rintro c hc
    constructor
    all_goals
      rintro rfl
      exact absurd hc (by simp [isHexDigit_iff])
  rcases h with ⟨a, b, rfl, ha, hb⟩ | ⟨b, rfl, hb⟩
  · simp [(hdigit ha).1.symm, (hdigit hb).1.symm, (hdigit ha).2.symm, (hdigit hb).2.symm]
  · simp [(hdigit hb).1.symm, (hdigit hb).2.symm]

/-- The separator between six groups is found. -/
theorem separator_joinWith {sep : Char} {groups : List (List Char)} (hsep : sep = ':' ∨ sep = '-')
    (hcount : groups.length = 6) (h : ∀ g ∈ groups, IsOctet g ∨ IsSignedDigit g) :
    separator (joinWith [sep] groups) = sep := by
  match groups, hcount with
  | first :: second :: rest, _ =>
    rw [separator]
    rcases hsep with rfl | rfl
    · refine if_neg fun hdash => ?_
      rcases mem_of_mem_joinWith hdash with hdash | ⟨g, hg, hdash⟩
      · simp at hdash
      · exact (not_mem_of_octet (h g hg)).2 hdash
    · exact if_pos (by simp [joinWith_cons_cons])

/-- Six groups are accepted whether two digits or a plus sign and one digit stand in each. -/
theorem accepts_iff {cs : List Char} :
    accepts cs = true ↔ Spelled (fun g => IsOctet g ∨ IsSignedDigit g) cs := by
  rw [accepts_iff_groups]
  constructor
  · rintro ⟨hcount, hgroups, hne⟩
    have hsep : separator cs = ':' ∨ separator cs = '-' := by
      rw [separator]
      split <;> simp
    exact ⟨_, _, hsep, (joinWith_splitOn _ _).symm, hcount, hgroups, hne⟩
  · rintro ⟨sep, groups, hsep, rfl, hcount, hgroups, hne⟩
    have hsplit : splitOn (separator (joinWith [sep] groups)) (joinWith [sep] groups) = groups := by
      rw [separator_joinWith hsep hcount hgroups]
      refine splitOn_joinWith (List.ne_nil_of_length_eq_add_one hcount) fun g hg => ?_
      obtain ⟨hcolon, hdash⟩ := not_mem_of_octet (hgroups g hg)
      rcases hsep with rfl | rfl
      · exact hcolon
      · exact hdash
    rw [hsplit]
    exact ⟨hcount, hgroups, hne⟩

theorem Spelled.imp {p q : List Char → Prop} (h : ∀ g, p g → q g) {cs : List Char}
    (hcs : Spelled p cs) : Spelled q cs := by
  obtain ⟨sep, groups, hsep, htext, hcount, hgroups, hne⟩ := hcs
  exact ⟨sep, groups, hsep, htext, hcount, fun g hg => h g (hgroups g hg), hne⟩

/-- No plus sign occurs in an address. -/
theorem Spelled.plus_not_mem {cs : List Char} (h : Spelled IsOctet cs) : '+' ∉ cs := by
  obtain ⟨sep, groups, hsep, rfl, -, hgroups, -⟩ := h
  intro hplus
  rcases mem_of_mem_joinWith hplus with hplus | ⟨g, hg, hplus⟩
  · rcases hsep with rfl | rfl <;> simp at hplus
  · obtain ⟨a, b, rfl, ha, hb⟩ := hgroups g hg
    have hdigit : ¬ IsHexDigit '+' := by simp [isHexDigit_iff]
    simp only [List.mem_cons, List.not_mem_nil, or_false] at hplus
    rcases hplus with rfl | rfl
    · exact hdigit ha
    · exact hdigit hb

/-- Without a plus sign every group is two digits. -/
theorem Spelled.of_plus_not_mem {cs : List Char} (hplus : '+' ∉ cs)
    (h : Spelled (fun g => IsOctet g ∨ IsSignedDigit g) cs) : Spelled IsOctet cs := by
  obtain ⟨sep, groups, hsep, rfl, hcount, hgroups, hne⟩ := h
  refine ⟨sep, groups, hsep, rfl, hcount, fun g hg => ?_, hne⟩
  refine (hgroups g hg).resolve_right ?_
  rintro ⟨b, rfl, -⟩
  exact hplus (mem_joinWith hg List.mem_cons_self)

end Net.Mac

/-! ## The validator -/

theorem Check.mac_eq_pass_iff {v : Json} :
    mac v = Verdict.pass ↔ ∃ s : String, v = .string s ∧ Net.Mac.accepts s.toList = true := by
  cases v with
  | string s => cases h : Net.Mac.accepts s.toList <;> simp [mac, h, Verdict.require, Verdict.pass]
  | _ => simp [mac, Verdict.pass]

/-- **A MAC address is accepted, and so is a text with a plus sign for the first digit of a group.** A
value is accepted exactly if it is a text of six groups, not all of them zero, with colons or with
dashes between them, each of which is two hexadecimal digits or a plus sign and one. So the addresses
are exactly the accepted texts without a plus sign. -/
theorem LeafValidator.check_mac (param : Option Json) (regex : Option Regex) (v : Json) :
    (LeafValidator.mac.check param regex v = Verdict.pass ↔
      ∃ s : String, v = .string s ∧
        Net.Mac.Spelled (fun g => Net.Mac.IsOctet g ∨ Net.Mac.IsSignedDigit g) s.toList) ∧
    ((∃ s : String, v = .string s ∧ Net.Mac.Spelled Net.Mac.IsOctet s.toList) ↔
      LeafValidator.mac.check param regex v = Verdict.pass ∧
        ∃ s : String, v = .string s ∧ '+' ∉ s.toList) := by
  have haccepts : LeafValidator.mac.check param regex v = Verdict.pass ↔
      ∃ s : String, v = .string s ∧
        Net.Mac.Spelled (fun g => Net.Mac.IsOctet g ∨ Net.Mac.IsSignedDigit g) s.toList := by
    simp only [← Net.Mac.accepts_iff]
    exact Check.mac_eq_pass_iff
  refine ⟨haccepts, ?_⟩
  rw [haccepts]
  constructor
  · rintro ⟨s, rfl, hs⟩
    exact ⟨⟨s, rfl, hs.imp fun _ => Or.inl⟩, s, rfl, hs.plus_not_mem⟩
  · rintro ⟨⟨s, rfl, hs⟩, t, ht, hplus⟩
    obtain rfl := Json.string.inj ht
    exact ⟨s, rfl, hs.of_plus_not_mem hplus⟩

/-- A text with a plus sign in its first group is accepted, but it is no address. -/
theorem LeafValidator.check_mac_of_plus :
    LeafValidator.mac.check none none (.string "+1:02:03:04:05:06") = Verdict.pass ∧
      ¬ Net.Mac.Spelled Net.Mac.IsOctet "+1:02:03:04:05:06".toList :=
  ⟨rfl, fun h => h.plus_not_mem (by decide)⟩

end AttributeSchema
