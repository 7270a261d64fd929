import AttributeSchema.Check.Leaf
import AttributeSchema.Proofs.Converter.Idempotence

/-!
# Canonical spellings

An address of version 4 has one spelling only, since its octets are decimal without leading zeros.
One of version 6 has many, and the conversion writes the canonical one. So two texts are converted to
the same spelling exactly if they stand for the same address, and likewise for subnets, whose host
part and prefix length are kept. Main statements: `Net.Address.text_of_read?` and
`same_spelling_iff_same_meaning`.
-/

namespace AttributeSchema

/-! ## Decimal numerals without leading zeros -/

namespace Text

theorem digitChar_of_digit? {c : Char} {d : Nat} (h : digit? 10 c = some d) : d.digitChar = c := by
  have hcode := toNat_le_of_digit? (by simp [h] : (digit? 10 c).isSome)
  have hvalue : d = c.toNat - 48 := by
    simp only [digit?, hcode.1, hcode.2, and_self, if_true, Option.ite_none_right_eq_some,
      Option.some.injEq] at h
    exact h.2.symm
  have hsmall : d < 10 := digit?_lt h
  rw [← Char.toNat_inj, toNat_digitChar d (by omega), if_pos hsmall]
  omega

/-- A decimal numeral in which no zero stands before another digit is the one that is written for its
number. -/
theorem toDigits_of_readNat? {cs : List Char} {n : Nat} (h : readNat? 10 cs = some n)
    (hzero : cs.head? = some '0' → cs.length = 1) : Nat.toDigits 10 n = cs := by
  induction cs using List.reverseRecOn generalizing n with
  | nil => simp at h
  | append_singleton ds c ih =>
    by_cases hds : ds = []
    · subst hds
      obtain ⟨d, hd, rfl⟩ : ∃ d, digit? 10 c = some d ∧ d = n := by simpa [readNat?] using h
      rw [List.nil_append, Nat.toDigits_of_lt_base (digit?_lt hd), digitChar_of_digit? hd]
    · rw [readNat?_concat hds] at h
      obtain ⟨m, hm, h⟩ := Option.bind_eq_some_iff.1 h
      obtain ⟨d, hd, rfl⟩ := Option.map_eq_some_iff.1 h
      have hhead : ds.head? ≠ some '0' := by
        intro hhead
        have hlength := hzero (by rw [List.head?_append, hhead]; rfl)
        simp [hds] at hlength
      have hwritten := ih hm fun e => absurd e hhead
      have hpos : 0 < m := by
        rw [Nat.pos_iff_ne_zero]
        rintro rfl
        exact hhead (by rw [← hwritten]; rfl)
      rw [← Nat.toDigits_append_toDigits (by decide) hpos (digit?_lt hd), hwritten,
        Nat.toDigits_of_lt_base (digit?_lt hd), digitChar_of_digit? hd]

/-- What is read from the items in turn, item by item. -/
theorem forall₂_of_mapM {α β : Type} {read : α → Option β} {xs : List α} {ys : List β}
    (h : xs.mapM read = some ys) : List.Forall₂ (fun x y => read x = some y) xs ys := by
  rw [mapM_eq_some_iff, ← List.forall₂_eq_eq_eq] at h
  exact List.forall₂_map_right_iff.1 (List.forall₂_map_left_iff.1 h)

/-- A text is not cut if it does not hold the separator. -/
theorem splitOnce?_eq_none_iff {sep : Char} {cs : List Char} :
    splitOnce? sep cs = none ↔ sep ∉ cs := by
  induction cs with
  | nil => simp [splitOnce?]
  | cons c cs ih =>
    rw [splitOnce?, List.mem_cons, not_or]
    split
    case isTrue hc => simp [hc]
    case isFalse hc =>
      have hne : sep ≠ c := fun e => hc e.symm
      simp [ih, hne]

end Text

/-! ## Words -/

namespace Net

/-- What is added above the words that are taken does not change them. -/
theorem toWords_add_mul {base : Nat} (hbase : 0 < base) (count n k : Nat) :
    toWords base count (n + k * base.pow count) = toWords base count n := by
  induction count generalizing k with
  | zero => rfl
  | succ count ih =>
    have hshift : k * base.pow (count + 1) = k * base * base.pow count := by
      rw [pow_succ_eq]
      grind
    have hpos : 0 < base.pow count := Nat.pow_pos hbase
    rw [toWords, toWords, hshift, ih, Nat.add_mul_div_right _ _ hpos, Nat.add_mul_mod_self_right]

/-- The words of a number that was put together from words. -/
theorem toWords_ofWords {base : Nat} (hbase : 0 < base) {words : List Nat}
    (h : ∀ w ∈ words, w < base) :
    toWords base words.length (ofWords base words) = words := by
  induction words with
  | nil => rfl
  | cons w ws ih =>
    have hw : w < base := h w (by simp)
    have hws : ∀ x ∈ ws, x < base := fun x hx => h x (by simp [hx])
    have hlt := ofWords_lt hws
    have hvalue : ofWords base (w :: ws) = ofWords base ws + w * base.pow ws.length := by
      rw [ofWords, List.foldl_cons, foldl_words]
      grind
    have hfirst : ofWords base (w :: ws) / base.pow ws.length % base = w := by
      rw [hvalue, Nat.add_mul_div_right _ _ (Nat.zero_lt_of_lt hlt), Nat.div_eq_of_lt hlt,
        Nat.zero_add, Nat.mod_eq_of_lt hw]
    rw [List.length_cons, toWords, hfirst, hvalue, toWords_add_mul hbase, ih hws]

end Net

/-! ## Addresses -/

namespace Net.Address

open Text

theorem toDigits_of_readOctet? {cs : List Char} {n : Nat} (h : readOctet? cs = some n) :
    Nat.toDigits 10 n = cs := by
  rw [readOctet?] at h
  split at h
  case isTrue hshape =>
    obtain ⟨hread, -⟩ := Option.filter_eq_some_iff.1 h
    refine toDigits_of_readNat? hread fun hhead => ?_
    have hshort : ¬ 1 < cs.length := fun hlong => hshape.2 ⟨hhead, hlong⟩
    have hne : cs.length ≠ 0 := fun e => by simp [List.eq_nil_of_length_eq_zero e] at hhead
    omega
  case isFalse => simp at h

theorem lt_of_readOctet? {cs : List Char} {n : Nat} (h : readOctet? cs = some n) : n < 256 := by
  rw [readOctet?, Option.ite_none_right_eq_some] at h
  simpa using (Option.filter_eq_some_iff.1 h.2).2

/-- Version 4 text has one spelling only. -/
theorem dotted_of_readDotted? {cs : List Char} {n : Nat} (h : readDotted? cs = some n) :
    dotted n = cs := by
  rw [readDotted?] at h
  split at h
  case h_1 a b c d hread =>
    obtain rfl := Option.some.inj h
    have hpieces := (forall₂_of_mapM hread).flip
    have hsmall : ∀ w ∈ [a, b, c, d], w < 256 :=
      ((List.forall₂_and_left _ _).1 (hpieces.imp fun _ _ h => ⟨lt_of_readOctet? h, h⟩)).1
    have hwords : toWords 256 4 (ofWords 256 [a, b, c, d]) = [a, b, c, d] :=
      toWords_ofWords (by decide) hsmall
    have hwritten : [a, b, c, d].map (Nat.toDigits 10) = splitOn '.' cs := by
      rw [← List.forall₂_eq_eq_eq, List.forall₂_map_left_iff]
      exact hpieces.imp fun _ _ => toDigits_of_readOctet?
    rw [dotted, hwords, hwritten, joinWith_splitOn]
  case h_2 => simp at h

theorem eq_of_ofNat? {family : Family} {n : Nat} {a : Address} (h : ofNat? family n = some a) :
    a.family = family ∧ a.value = n := by
  rw [ofNat?] at h
  split at h
  · obtain rfl := Option.some.inj h
    exact ⟨rfl, rfl⟩
  · simp at h

/-- A version 4 address is read from no text but its canonical one. -/
theorem text_of_read? {cs : List Char} {a : Address} (h : read? cs = some a)
    (hfamily : a.family = .v4) : a.text = cs := by
  rw [read?] at h
  split at h
  case h_1 n hread =>
    obtain ⟨-, hvalue⟩ := eq_of_ofNat? h
    rw [text, hfamily, hvalue]
    exact dotted_of_readDotted? hread
  case h_2 =>
    obtain ⟨groups, -, h⟩ := Option.bind_eq_some_iff.1 h
    rw [(eq_of_ofNat? h).1] at hfamily
    simp at hfamily

theorem render_inj {a b : Address} : a.render = b.render ↔ a = b := by
  constructor
  · intro h
    have hread := read?_render a
    rw [h, read?_render] at hread
    exact (Option.some.inj hread).symm
  · rintro rfl
    rfl

end Net.Address

/-! ## Subnets -/

namespace Net.Subnet

/-- What a text says of a subnet: an address and a prefix length after a slash, or an address alone,
which stands for the subnet that holds nothing else. -/
inductive SpelledBy (cs : List Char) (s : Subnet) : Prop
  | slash {address length : List Char} (text : cs = address ++ '/' :: length)
      (first : '/' ∉ address) (reads : Address.read? address = some s.address)
      (bits : readLength? length = some s.length) : SpelledBy cs s
  | bare (whole : '/' ∉ cs) (reads : Address.read? cs = some s.address)
      (bits : s.length = s.address.family.width) : SpelledBy cs s

theorem read?_eq_some_iff {cs : List Char} {s : Subnet} : read? cs = some s ↔ SpelledBy cs s := by
  constructor
  · intro h
    rw [read?] at h
    split at h
    case h_1 address length hcut =>
      obtain ⟨htext, hfirst⟩ := Text.eq_append_of_splitOnce? hcut
      split at h
      case h_1 a n hread hbits =>
        split at h
        case isTrue hle =>
          obtain rfl := Option.some.inj h
          exact .slash htext hfirst hread hbits
        case isFalse => simp at h
      case h_2 => simp at h
    case h_2 hcut =>
      obtain ⟨a, hread, rfl⟩ := Option.map_eq_some_iff.1 h
      exact .bare (Text.splitOnce?_eq_none_iff.1 hcut) hread rfl
  · intro h
    obtain ⟨address, length, hle⟩ := s
    cases h with
    | slash text first reads bits =>
      rw [text, read?, Text.splitOnce?_append first]
      simp only [reads, bits]
      rw [dif_pos hle]
    | bare whole reads bits =>
      obtain rfl : length = address.family.width := bits
      rw [read?, Text.splitOnce?_eq_none_iff.2 whole, reads]
      rfl

theorem render_inj {s t : Subnet} : s.render = t.render ↔ s = t := by
  constructor
  · intro h
    have hread := read?_render s
    rw [h, read?_render] at hread
    exact (Option.some.inj hread).symm
  · rintro rfl
    rfl

end Net.Subnet

/-! ## Conversion -/

namespace Convert

theorem toCanonicalAddress_of_read? {s : String} {a : Net.Address}
    (h : Net.Address.read? s.toList = some a) :
    toCanonicalAddress (.string s) = .ok (.string a.render) := by
  rw [toCanonicalAddress]
  simp only [h]
  cases hfamily : a.family with
  | v4 =>
    -- The text is passed on as it is; but it was the canonical one already.
    rw [Net.Address.render, Net.Address.text_of_read? h hfamily, String.ofList_toList]
  | v6 => rfl

theorem toCanonicalSubnet_eq_ok_iff {s : String} {v : Json} :
    toCanonicalSubnet (.string s) = .ok v ↔
      ∃ n : Net.Subnet, Net.Subnet.read? s.toList = some n ∧ .string n.render = v := by
  rw [toCanonicalSubnet]
  cases Net.Subnet.read? s.toList <;> simp

end Convert

/-- The validator of addresses accepts the texts that can be read. -/
theorem LeafValidator.exists_read?_of_check_address {param : Option Json} {regex : Option Regex}
    {s : String} (h : LeafValidator.address.check param regex (.string s) = Verdict.pass) :
    ∃ a, Net.Address.read? s.toList = some a := by
  change Verdict.require (Net.Address.read? s.toList).isSome _ = Verdict.pass at h
  rw [← Option.isSome_iff_exists]
  cases hsome : (Net.Address.read? s.toList).isSome with
  | true => rfl
  | false => simp [hsome, Verdict.require, Verdict.pass] at h

/-- **Canonical spellings tell apart what is different, and nothing else.** Each address that is
accepted is converted to its canonical text, which reads back as the address; two accepted texts are
converted alike exactly if they stand for the same address of the same family. Two texts of subnets
are converted alike exactly if they stand for the same address with the same prefix length, and that
is what the result still stands for. -/
theorem same_spelling_iff_same_meaning :
    (∀ param regex (s : String),
      LeafValidator.address.check param regex (.string s) = Verdict.pass →
        ∃ a : Net.Address, Net.Address.read? s.toList = some a ∧
          BuiltinConverter.address.apply (.string s) = .ok (.string a.render) ∧
          Net.Address.read? a.render.toList = some a) ∧
    (∀ param regex (s t : String),
      LeafValidator.address.check param regex (.string s) = Verdict.pass →
      LeafValidator.address.check param regex (.string t) = Verdict.pass →
        (BuiltinConverter.address.apply (.string s) = BuiltinConverter.address.apply (.string t) ↔
          ∃ a, Net.Address.read? s.toList = some a ∧ Net.Address.read? t.toList = some a)) ∧
    (∀ (s t : String) (v w : Json), BuiltinConverter.subnet.apply (.string s) = .ok v →
      BuiltinConverter.subnet.apply (.string t) = .ok w →
        (v = w ↔ Net.Subnet.read? s.toList = Net.Subnet.read? t.toList)) ∧
    ∀ (s : String) (v : Json), BuiltinConverter.subnet.apply (.string s) = .ok v →
      ∃ n : Net.Subnet, n.SpelledBy s.toList ∧ v = .string n.render ∧
        Net.Subnet.read? n.render.toList = Net.Subnet.read? s.toList := by
  refine ⟨?address, ?addresses, ?subnets, ?subnet⟩
  case address =>
    intro param regex s hs
    obtain ⟨a, ha⟩ := LeafValidator.exists_read?_of_check_address hs
    exact ⟨a, ha, Convert.toCanonicalAddress_of_read? ha, a.read?_render⟩
  case addresses =>
    intro param regex s t hs ht
    obtain ⟨a, ha⟩ := LeafValidator.exists_read?_of_check_address hs
    obtain ⟨b, hb⟩ := LeafValidator.exists_read?_of_check_address ht
    have hsame : BuiltinConverter.address.apply (.string s)
        = BuiltinConverter.address.apply (.string t) ↔ a = b := by
      rw [BuiltinConverter.apply, Convert.toCanonicalAddress_of_read? ha,
        Convert.toCanonicalAddress_of_read? hb, Except.ok.injEq, Json.string.injEq,
        Net.Address.render_inj]
    rw [hsame, ha, hb]
    constructor
    · rintro rfl
      exact ⟨a, rfl, rfl⟩
    · rintro ⟨c, hac, hbc⟩
      exact (Option.some.inj hac).trans (Option.some.inj hbc).symm
  case subnets =>
    intro s t v w hv hw
    obtain ⟨n, hn, rfl⟩ := Convert.toCanonicalSubnet_eq_ok_iff.1 hv
    obtain ⟨m, hm, rfl⟩ := Convert.toCanonicalSubnet_eq_ok_iff.1 hw
    rw [hn, hm, Json.string.injEq, Net.Subnet.render_inj, Option.some.injEq]
  case subnet =>
    intro s v hv
    obtain ⟨n, hn, rfl⟩ := Convert.toCanonicalSubnet_eq_ok_iff.1 hv
    exact ⟨n, Net.Subnet.read?_eq_some_iff.1 hn, rfl, by rw [n.read?_render, hn]⟩

/-- A mapped address in two spellings, a subnet in two, and a bare address. -/
theorem same_spelling_iff_same_meaning_mapped :
    (LeafValidator.address.check none none (.string "::FFFF:1.2.3.4") = Verdict.pass ∧
      LeafValidator.address.check none none (.string "0:0::ffff:102:304") = Verdict.pass ∧
      BuiltinConverter.address.apply (.string "::FFFF:1.2.3.4")
        = BuiltinConverter.address.apply (.string "0:0::ffff:102:304")) ∧
    (BuiltinConverter.subnet.apply (.string "10.0.0.1/+032") = .ok (.string "10.0.0.1/32") ∧
      BuiltinConverter.subnet.apply (.string "10.0.0.1") = .ok (.string "10.0.0.1/32") ∧
      Net.Subnet.read? "10.0.0.1/+032".toList = Net.Subnet.read? "10.0.0.1".toList) ∧
    ∃ n : Net.Subnet, n.SpelledBy "10.0.0.1".toList ∧
      Json.string "10.0.0.1/32" = .string n.render ∧
      Net.Subnet.read? n.render.toList = Net.Subnet.read? "10.0.0.1".toList := by
  have hfirst : LeafValidator.address.check none none (.string "::FFFF:1.2.3.4")
      = Verdict.pass := by rfl
  have hsecond : LeafValidator.address.check none none (.string "0:0::ffff:102:304")
      = Verdict.pass := by rfl
  have hlong : BuiltinConverter.subnet.apply (.string "10.0.0.1/+032")
      = .ok (.string "10.0.0.1/32") := by rfl
  have hbare : BuiltinConverter.subnet.apply (.string "10.0.0.1")
      = .ok (.string "10.0.0.1/32") := by rfl
  obtain ⟨haddress, haddresses, hsubnets, hsubnet⟩ := same_spelling_iff_same_meaning
  obtain ⟨a, hread, -, -⟩ := haddress none none _ hfirst
  refine ⟨⟨hfirst, hsecond, (haddresses none none _ _ hfirst hsecond).2 ⟨a, hread, ?_⟩⟩,
    ⟨hlong, hbare, (hsubnets _ _ _ _ hlong hbare).1 rfl⟩, hsubnet _ _ hbare⟩
  rw [← hread]
  rfl

end AttributeSchema
