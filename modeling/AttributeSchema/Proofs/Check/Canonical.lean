import AttributeSchema.Proofs.Check.Integer
import AttributeSchema.Proofs.Check.Subnet
import AttributeSchema.Proofs.Converter.Canonical

/-!
# Canonical values keep their verdict

A converter to a canonical form goes before the check of what it converts to. What the check accepts on
its own it accepts after the conversion, since both read the same number, truth value, address or subnet
from a value. For addresses, and for subnets with a prefix length, the verdict after the conversion is
the one before. Main statement: `LeafValidator.check_after_conversion`.
-/

namespace AttributeSchema

/-! ## Numbers and truth values -/

/-- What a check reads as a number is converted to that number. -/
theorem Convert.toInteger_of_integer? {v : Json} {n : Int} (h : Check.integer? v = some n) :
    toInteger v = .ok (.ofInt n) := by
  cases v with
  | number m =>
    cases m with
    | integer k =>
      change Check.integer? (.ofInt k) = some n at h
      rw [Check.integer?_ofInt, Option.ite_none_right_eq_some, Option.some.injEq] at h
      rw [← h.2]
      rfl
    | real x => simp [Check.integer?, Number.toInt64?] at h
  | string s =>
    have hread : readInteger? s = some n := h
    simp only [toInteger, hread]
  | _ => simp [Check.integer?] at h

namespace Check

/-- Two values that are read as the same number are in the same ranges. -/
theorem range_congr {v w : Json} {n : Int} (hv : integer? v = some n) (hw : integer? w = some n)
    (param : Option Json) : range param v = range param w := by
  simp only [range, hv, hw]

theorem boolean_eq_pass_iff {v : Json} :
    boolean v = Verdict.pass ↔ ∃ b, Convert.truth? v = some b := by
  cases hv : Convert.truth? v <;> simp [boolean, hv, Verdict.require, Verdict.pass]

/-! ## Addresses and subnets -/

theorem address_eq_pass_iff {s : String} :
    address (.string s) = Verdict.pass ↔ ∃ a, Net.Address.read? s.toList = some a := by
  cases hs : Net.Address.read? s.toList <;> simp [address, hs, Verdict.require, Verdict.pass]

/-- The conversion to a canonical address takes every value, and changes no verdict. -/
theorem exists_toCanonicalAddress (v : Json) :
    ∃ w, Convert.toCanonicalAddress v = .ok w ∧
      (address v = Verdict.pass ↔ address w = Verdict.pass) := by
  cases v with
  | string s =>
    cases hs : Net.Address.read? s.toList with
    | none => exact ⟨.string s, by simp only [Convert.toCanonicalAddress, hs], Iff.rfl⟩
    | some a =>
      refine ⟨_, Convert.toCanonicalAddress_of_read? hs, ?_⟩
      rw [address_eq_pass_iff, address_eq_pass_iff, hs, a.read?_render]
  | _ => exact ⟨_, rfl, Iff.rfl⟩

/-- The check of subnets says the same of a text with a slash and of the canonical text. -/
theorem subnet_canonical {s : String} {net : Net.Subnet} (hslash : '/' ∈ s.toList)
    (hread : Net.Subnet.read? s.toList = some net) :
    subnet (.string s) = Verdict.pass ∧ subnet (.string net.render) = Verdict.pass ∨
      subnet (.string s) = .error (.hostPart s net) ∧
        subnet (.string net.render) = .error (.hostPart net.render net) := by
  by_cases hhost : net.network = net.address
  · exact Or.inl ⟨subnet_eq_pass_iff.2 ⟨hslash, net, hread, hhost⟩, subnet_render hhost⟩
  · exact Or.inr ⟨subnet_of_host hslash hread hhost,
      subnet_of_host net.slash_mem_render net.read?_render hhost⟩

theorem exists_string_of_subnet {v : Json} (h : subnet v = Verdict.pass) : ∃ s, v = .string s := by
  cases v with
  | string s => exact ⟨s, rfl⟩
  | _ => simp [subnet, Verdict.pass] at h

end Check

/-- **A conversion to a canonical form takes no verdict back.** What a range, the check of numbers that
are not negative, or the check of truth values accepts, is converted to what it accepts. Every value is
converted to one of which the check of addresses says the same. What the check of subnets accepts is
converted to what it accepts, and of a text with a slash that can be converted it says the same as of the
result, with the same recommendation. -/
theorem LeafValidator.check_after_conversion (param : Option Json) (regex : Option Regex) :
    (∀ v, LeafValidator.range.check param regex v = Verdict.pass →
      ∃ w, BuiltinConverter.integer.apply v = .ok w ∧
        LeafValidator.range.check param regex w = Verdict.pass) ∧
    (∀ v, LeafValidator.nonNegative.check param regex v = Verdict.pass →
      ∃ w, BuiltinConverter.integer.apply v = .ok w ∧
        LeafValidator.nonNegative.check param regex w = Verdict.pass) ∧
    (∀ v, LeafValidator.boolean.check param regex v = Verdict.pass →
      ∃ w, BuiltinConverter.boolean.apply v = .ok w ∧
        LeafValidator.boolean.check param regex w = Verdict.pass) ∧
    (∀ v, ∃ w, BuiltinConverter.address.apply v = .ok w ∧
      (LeafValidator.address.check param regex v = Verdict.pass ↔
        LeafValidator.address.check param regex w = Verdict.pass)) ∧
    (∀ v, LeafValidator.subnet.check param regex v = Verdict.pass →
      ∃ w, BuiltinConverter.subnet.apply v = .ok w ∧
        LeafValidator.subnet.check param regex w = Verdict.pass) ∧
    ∀ (s : String) (w : Json), '/' ∈ s.toList → BuiltinConverter.subnet.apply (.string s) = .ok w →
      ∃ t net, w = .string t ∧
        (LeafValidator.subnet.check param regex (.string s) = Verdict.pass ∧
            LeafValidator.subnet.check param regex w = Verdict.pass ∨
          LeafValidator.subnet.check param regex (.string s) = .error (.hostPart s net) ∧
            LeafValidator.subnet.check param regex w = .error (.hostPart t net)) := by
  refine ⟨?range, ?nonNegative, ?boolean, Check.exists_toCanonicalAddress, ?subnet, ?sameSubnet⟩
  case range =>
    intro v hv
    obtain ⟨n, hn⟩ := Check.exists_integer?_of_range hv
    have hread := Check.integer?_ofInt_of_fits (Check.fitsInt64_of_integer? hn)
    refine ⟨.ofInt n, Convert.toInteger_of_integer? hn, ?_⟩
    show Check.range param (.ofInt n) = Verdict.pass
    rw [← Check.range_congr hn hread]
    exact hv
  case nonNegative =>
    intro v hv
    obtain ⟨n, hn, hnonneg⟩ := Check.nonNegative_eq_pass_iff.1 hv
    have hread := Check.integer?_ofInt_of_fits (Check.fitsInt64_of_integer? hn)
    refine ⟨.ofInt n, Convert.toInteger_of_integer? hn, ?_⟩
    show Check.nonNegative (.ofInt n) = Verdict.pass
    exact Check.nonNegative_eq_pass_iff.2 ⟨n, hread, hnonneg⟩
  case boolean =>
    intro v hv
    obtain ⟨b, hb⟩ := Check.boolean_eq_pass_iff.1 hv
    have hconverted : Convert.toBoolean v = .ok (.bool b) := by simp only [Convert.toBoolean, hb]
    refine ⟨.bool b, hconverted, ?_⟩
    show Check.boolean (.bool b) = Verdict.pass
    exact Check.boolean_eq_pass_iff.2 ⟨b, rfl⟩
  case subnet =>
    intro v hv
    obtain ⟨s, rfl⟩ := Check.exists_string_of_subnet hv
    obtain ⟨-, net, hread, hnet⟩ := Check.subnet_eq_pass_iff.1 hv
    exact ⟨_, Convert.toCanonicalSubnet_eq_ok_iff.2 ⟨net, hread, rfl⟩, Check.subnet_render hnet⟩
  case sameSubnet =>
    intro s w hslash hw
    obtain ⟨net, hread, rfl⟩ := Convert.toCanonicalSubnet_eq_ok_iff.1 hw
    exact ⟨net.render, net, rfl, Check.subnet_canonical hslash hread⟩

/-- Spellings that are accepted, and a host in a network whose text is not the canonical one. -/
theorem LeafValidator.check_after_conversion_host :
    (LeafValidator.range.check (some (.array [.ofInt 1, .ofInt 7])) none (.string " +07") = Verdict.pass ∧
      ∃ w, BuiltinConverter.integer.apply (.string " +07") = .ok w ∧
        LeafValidator.range.check (some (.array [.ofInt 1, .ofInt 7])) none w = Verdict.pass) ∧
    (LeafValidator.boolean.check none none (.string "Yes") = Verdict.pass ∧
      ∃ w, BuiltinConverter.boolean.apply (.string "Yes") = .ok w ∧
        LeafValidator.boolean.check none none w = Verdict.pass) ∧
    ('/' ∈ "2001:DB8::1/+064".toList ∧
      BuiltinConverter.subnet.apply (.string "2001:DB8::1/+064") = .ok (.string "2001:db8::1/64") ∧
      ∃ t net, Json.string "2001:db8::1/64" = .string t ∧
        (LeafValidator.subnet.check none none (.string "2001:DB8::1/+064") = Verdict.pass ∧
            LeafValidator.subnet.check none none (.string "2001:db8::1/64") = Verdict.pass ∨
          LeafValidator.subnet.check none none (.string "2001:DB8::1/+064")
              = .error (.hostPart "2001:DB8::1/+064" net) ∧
            LeafValidator.subnet.check none none (.string "2001:db8::1/64")
              = .error (.hostPart t net))) := by
  have hnumber : LeafValidator.range.check (some (.array [.ofInt 1, .ofInt 7])) none (.string " +07")
      = Verdict.pass := by rfl
  have htruth : LeafValidator.boolean.check none none (.string "Yes") = Verdict.pass := by rfl
  have hsubnet : BuiltinConverter.subnet.apply (.string "2001:DB8::1/+064")
      = .ok (.string "2001:db8::1/64") := by rfl
  have hslash : '/' ∈ "2001:DB8::1/+064".toList := by decide
  obtain ⟨hrange, -⟩ := LeafValidator.check_after_conversion (some (.array [.ofInt 1, .ofInt 7])) none
  obtain ⟨-, -, hboolean, -, -, hsame⟩ := LeafValidator.check_after_conversion none none
  exact ⟨⟨hnumber, hrange _ hnumber⟩, ⟨htruth, hboolean _ htruth⟩,
    hslash, hsubnet, hsame _ _ hslash hsubnet⟩

end AttributeSchema
