import AttributeSchema.Check.Leaf
import AttributeSchema.Proofs.Net.RoundTrip

/-!
# Subnets are judged by their bits

The bits of an address are counted from the most significant one. The mask of a prefix length has ones
at the positions below the length and nowhere else, for every length that the reader lets through, so
the network has the leading bits of the address and zeros after them. A text is a subnet exactly if the
address it names has no one after its prefix; otherwise the network is recommended, whose text is a
subnet again. Main statements: `Net.Subnet.bit_network` and `LeafValidator.check_subnet_by_bits`.
-/

namespace AttributeSchema

namespace Net

/-- The bit of an address at a position; the most significant bit is the first. -/
def Address.bit (a : Address) (i : Nat) : Bool := a.value.testBit (a.family.width - 1 - i)

/-- An address is determined by its family and its bits. -/
theorem Address.ext_bit {a b : Address} (hfamily : a.family = b.family)
    (hbits : ∀ i < a.family.width, a.bit i = b.bit i) : a = b := by
  obtain ⟨family, m, hm⟩ := a
  obtain ⟨family', n, hn⟩ := b
  obtain rfl : family = family' := hfamily
  suffices hvalue : m = n by
    subst hvalue
    rfl
  apply Nat.eq_of_testBit_eq
  intro j
  by_cases hj : j < family.width
  · have hbit := hbits (family.width - 1 - j) (show family.width - 1 - j < family.width by omega)
    have hback : family.width - 1 - (family.width - 1 - j) = j := by omega
    simpa only [bit, hback] using hbit
  · -- Beyond the width neither number has ones.
    have hpow : 2 ^ family.width ≤ 2 ^ j := Nat.pow_le_pow_right (by omega) (by omega)
    rw [Nat.testBit_lt_two_pow (Nat.lt_of_lt_of_le hm hpow),
      Nat.testBit_lt_two_pow (Nat.lt_of_lt_of_le hn hpow)]

/-! ## Masks -/

/-- There is a mask for the lengths up to the width, and for no others. -/
theorem Family.mask?_eq_none_iff {family : Family} {length : Nat} :
    family.mask? length = none ↔ family.width < length := by
  simp [mask?, remaining?]

/-- The mask has its ones where the shift has moved them. -/
theorem Family.testBit_of_mask? {family : Family} {length mask : Nat}
    (h : family.mask? length = some mask) (j : Nat) :
    mask.testBit j = (decide (j < family.width) && decide (family.width ≤ length + j)) := by
  have hlength : length ≤ family.width := by
    rw [← Nat.not_lt, ← mask?_eq_none_iff, h]
    simp
  rw [mask?, remaining?, if_pos hlength, Option.map_some, Option.some.injEq, shiftLeft?] at h
  subst h
  split
  case isTrue hamount =>
    show (((2 ^ family.width - 1) <<< (family.width - length)) % 2 ^ family.width).testBit j = _
    rw [Nat.testBit_mod_two_pow, Nat.testBit_shiftLeft, Nat.testBit_two_pow_sub_one]
    rw [Bool.eq_iff_iff]
    simp only [Bool.and_eq_true, decide_eq_true_eq]
    omega
  case isFalse hamount =>
    -- Only the length zero asks for a shift by the whole width.
    rw [Option.getD_none, Nat.zero_testBit, Bool.eq_iff_iff]
    simp only [Bool.false_eq_true, Bool.and_eq_true, decide_eq_true_eq, false_iff]
    omega

/-- The mask of a prefix length covers the positions below the length. -/
theorem Family.testBit_mask {family : Family} {length mask : Nat}
    (h : family.mask? length = some mask) {i : Nat} (hi : i < family.width) :
    mask.testBit (family.width - 1 - i) = decide (i < length) := by
  rw [testBit_of_mask? h, Bool.eq_iff_iff]
  simp only [Bool.and_eq_true, decide_eq_true_eq]
  omega

namespace Subnet

theorem mask?_eq_some (s : Subnet) : s.address.family.mask? s.length = some s.mask :=
  (Option.some_get _).symm

/-- The length zero covers nothing. -/
theorem mask_of_length_zero {s : Subnet} (h : s.length = 0) : s.mask = 0 := by
  apply Nat.eq_of_testBit_eq
  intro j
  rw [Family.testBit_of_mask? s.mask?_eq_some, Nat.zero_testBit, Bool.eq_iff_iff]
  simp only [Bool.and_eq_true, decide_eq_true_eq, Bool.false_eq_true, iff_false]
  omega

/-- **The network has the leading bits of the address, and zeros after them.** -/
theorem bit_network (s : Subnet) {i : Nat} (hi : i < s.address.family.width) :
    s.network.bit i = (s.address.bit i && decide (i < s.length)) := by
  show (s.address.value &&& s.mask).testBit (s.address.family.width - 1 - i) = _
  rw [Nat.testBit_and, Family.testBit_mask s.mask?_eq_some hi]
  rfl

/-- An address is the network of its subnet exactly if no bit after the prefix is set. -/
theorem network_eq_address_iff (s : Subnet) :
    s.network = s.address ↔
      ∀ i, s.length ≤ i → i < s.address.family.width → s.address.bit i = false := by
  constructor
  · intro h i hlength hi
    have hbit := s.bit_network hi
    rw [h] at hbit
    simpa [Nat.not_lt.2 hlength] using hbit
  · intro h
    refine Address.ext_bit (show s.network.family = s.address.family from rfl) fun i hi => ?_
    rw [s.bit_network hi]
    by_cases hlength : i < s.length
    · simp [hlength]
    · simp [hlength, h i (Nat.not_lt.1 hlength) hi]

/-- The subnet of the network with the same prefix length. -/
def recommended (s : Subnet) : Subnet := ⟨s.network, s.length, s.length_le⟩

theorem network_recommended (s : Subnet) : s.recommended.network = s.recommended.address := by
  rw [network_eq_address_iff]
  intro i hlength hi
  show s.network.bit i = false
  rw [s.bit_network hi]
  simp [Nat.not_lt.2 (show s.length ≤ i from hlength)]

theorem slash_mem_render (s : Subnet) : '/' ∈ s.render.toList := by
  rw [render, String.toList_ofList, text]
  simp

end Subnet

end Net

/-! ## The check -/

namespace Check

theorem subnet_of_read? {s : String} {net : Net.Subnet} (hslash : '/' ∈ s.toList)
    (hread : Net.Subnet.read? s.toList = some net) :
    subnet (.string s) = Verdict.require (net.network = net.address) (.hostPart s net) := by
  simp only [subnet, List.contains_iff_mem, hslash, if_true, hread]

/-- The texts that the check of subnets accepts. -/
theorem subnet_eq_pass_iff {s : String} :
    subnet (.string s) = Verdict.pass ↔
      '/' ∈ s.toList ∧ ∃ net, Net.Subnet.read? s.toList = some net ∧ net.network = net.address := by
  by_cases hslash : '/' ∈ s.toList
  · cases hread : Net.Subnet.read? s.toList with
    | none => simp [subnet, hslash, hread, Verdict.pass]
    | some net =>
      rw [subnet_of_read? hslash hread]
      by_cases hnet : net.network = net.address <;> simp [hslash, hnet, Verdict.require, Verdict.pass]
  · simp [subnet, hslash, Verdict.pass]

/-- The text of a subnet is accepted if it names the network. -/
theorem subnet_render {net : Net.Subnet} (h : net.network = net.address) :
    subnet (.string net.render) = Verdict.pass :=
  subnet_eq_pass_iff.2 ⟨net.slash_mem_render, net, net.read?_render, h⟩

/-- The check of subnets names the host part where there is one, and recommends the network. -/
theorem subnet_of_host {s : String} {net : Net.Subnet} (hslash : '/' ∈ s.toList)
    (hread : Net.Subnet.read? s.toList = some net) (hhost : net.network ≠ net.address) :
    subnet (.string s) = .error (.hostPart s net) := by
  rw [subnet_of_read? hslash hread]
  simp [Verdict.require, hhost]

end Check

theorem Diagnostic.message_hostPart (s : String) (net : Net.Subnet) :
    (Diagnostic.hostPart s net).message = "'" ++ s ++ "' isn't a recognized IP subnet cidr, '"
      ++ net.recommended.render ++ "' is recommended" := rfl

/-- **The check of subnets is exact, and so is its advice.** A text is accepted exactly if it has a
slash, names an address with a prefix length, and no bit of the address is set after the prefix. Where
such a bit is set, the rejection recommends a text that is accepted and names a subnet of the same
family and prefix length whose leading bits are those of the address. Whatever text was read, its prefix
length has a mask: the ones of the mask are the positions of the prefix, none of them for length zero and
all of them for the full length. -/
theorem LeafValidator.check_subnet_by_bits (param : Option Json) (regex : Option Regex) (s : String) :
    (LeafValidator.subnet.check param regex (.string s) = Verdict.pass ↔
      '/' ∈ s.toList ∧ ∃ net, Net.Subnet.read? s.toList = some net ∧
        ∀ i, net.length ≤ i → i < net.address.family.width → net.address.bit i = false) ∧
    (∀ net, '/' ∈ s.toList → Net.Subnet.read? s.toList = some net →
      (∃ i, net.length ≤ i ∧ i < net.address.family.width ∧ net.address.bit i = true) →
        ∃ reason r, LeafValidator.subnet.check param regex (.string s) = .error reason ∧
          reason.message = "'" ++ s ++ "' isn't a recognized IP subnet cidr, '" ++ r
            ++ "' is recommended" ∧
          LeafValidator.subnet.check param regex (.string r) = Verdict.pass ∧
          ∃ net', Net.Subnet.read? r.toList = some net' ∧ net'.length = net.length ∧
            net'.address.family = net.address.family ∧
            ∀ i < net.length, net'.address.bit i = net.address.bit i) ∧
    ∀ net, Net.Subnet.read? s.toList = some net →
      ∃ mask, net.address.family.mask? net.length = some mask ∧
        net.network.value = net.address.value &&& mask ∧
        (∀ i < net.address.family.width,
          mask.testBit (net.address.family.width - 1 - i) = decide (i < net.length)) ∧
        (net.length = 0 → net.network.value = 0) ∧
        (net.length = net.address.family.width → net.network = net.address) := by
  refine ⟨?accepts, ?advises, ?masks⟩
  case accepts =>
    show Check.subnet (.string s) = Verdict.pass ↔ _
    simp only [Check.subnet_eq_pass_iff, Net.Subnet.network_eq_address_iff]
  case advises =>
    rintro net hslash hread ⟨i, hlength, hi, hbit⟩
    have hhost : net.network ≠ net.address := by
      intro h
      rw [net.network_eq_address_iff.1 h i hlength hi] at hbit
      exact Bool.false_ne_true hbit
    refine ⟨_, net.recommended.render, Check.subnet_of_host hslash hread hhost,
      Diagnostic.message_hostPart s net, Check.subnet_render net.network_recommended,
      net.recommended, net.recommended.read?_render, rfl, rfl, fun j hj => ?_⟩
    show net.network.bit j = net.address.bit j
    rw [net.bit_network (Nat.lt_of_lt_of_le hj net.length_le)]
    simp [hj]
  case masks =>
    intro net _
    refine ⟨net.mask, net.mask?_eq_some, rfl,
      fun i hi => Net.Family.testBit_mask net.mask?_eq_some hi, ?_, ?_⟩
    · intro hzero
      show net.address.value &&& net.mask = 0
      rw [Net.Subnet.mask_of_length_zero hzero, Nat.and_zero]
    · intro hfull
      rw [net.network_eq_address_iff]
      intro i hlength hi
      omega

/-- A host in a network of 256 addresses, whose bit 29 is set. -/
theorem LeafValidator.check_subnet_by_bits_host :
    ∃ net : Net.Subnet, ('/' ∈ "10.0.0.5/24".toList ∧
      Net.Subnet.read? "10.0.0.5/24".toList = some net ∧ net.length ≤ 29 ∧
      29 < net.address.family.width ∧ net.address.bit 29 = true) ∧
    (∃ reason r, LeafValidator.subnet.check none none (.string "10.0.0.5/24") = .error reason ∧
      reason.message = "'" ++ "10.0.0.5/24" ++ "' isn't a recognized IP subnet cidr, '" ++ r
        ++ "' is recommended" ∧
      LeafValidator.subnet.check none none (.string r) = Verdict.pass ∧
      ∃ net', Net.Subnet.read? r.toList = some net' ∧ net'.length = net.length ∧
        net'.address.family = net.address.family ∧
        ∀ i < net.length, net'.address.bit i = net.address.bit i) ∧
    net.network.render = "10.0.0.0" := by
  obtain ⟨-, hadvises, -⟩ := LeafValidator.check_subnet_by_bits none none "10.0.0.5/24"
  have hread : Net.Subnet.read? "10.0.0.5/24".toList
      = some ⟨⟨.v4, 0x0a000005, by decide⟩, 24, by decide⟩ := by rfl
  exact ⟨_, ⟨by decide, hread, by decide, by decide, by decide⟩,
    hadvises _ (by decide) hread ⟨29, by decide, by decide, by decide⟩, by rfl⟩

end AttributeSchema
