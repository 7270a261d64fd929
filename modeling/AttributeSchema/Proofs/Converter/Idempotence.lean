import AttributeSchema.Converter.Basic
import AttributeSchema.Proofs.Net.RoundTrip
import Mathlib

/-!
# Converters fix their results

Every built-in converter accepts its own results and leaves them as they are. For scalars the result
has a shape that the converter passes on; canonical addresses and subnets read back as what they
denote, so they are written the same way again. A converter whose result is an object or an array
keeps every object or array, so it also fixes a result whose members were changed afterwards. Main
statement: `builtin_conversion_idempotent`.
-/

namespace AttributeSchema

/-- Whether the value is neither an array nor an object. -/
def Json.isScalar : Json → Bool
  | .array _ | .object _ => false
  | _ => true

namespace Convert

/-- The conversion accepts each of its results and leaves it as it is. -/
def Idempotent (convert : Json → Converted) : Prop :=
  ∀ v w, convert v = .ok w → convert w = .ok w

/-! ## Booleans and numbers -/

theorem idempotent_toBoolean : Idempotent toBoolean := by
  intro v w h
  rw [toBoolean] at h
  split at h
  · obtain rfl := Except.ok.inj h
    rfl
  · simp at h

/-- A conversion that fixes its results does so when null is let through. -/
theorem Idempotent.orNull {convert : Json → Converted} (hconvert : Idempotent convert) :
    Idempotent (Convert.orNull convert) := by
  intro v w h
  have hnull : Convert.orNull convert .null = .ok .null := rfl
  by_cases hw : w = .null
  · rw [hw, hnull]
  · have hv : v ≠ .null := by
      rintro rfl
      rw [hnull] at h
      exact hw (Except.ok.inj h).symm
    rw [Convert.orNull] at h ⊢
    · exact hconvert v w h
    · exact hw
    · exact hv

theorem idempotent_toInteger : Idempotent toInteger := by
  intro v w h
  simp only [toInteger] at h
  split at h
  · obtain rfl := Except.ok.inj h
    rfl
  · simp at h

theorem idempotent_toNonNegativeDecimal : Idempotent toNonNegativeDecimal := by
  intro v w h
  rw [toNonNegativeDecimal.eq_def] at h
  split at h
  · obtain rfl := Except.ok.inj h
    rfl
  · split at h
    · simp at h
    · rename_i x _
      split at h
      · simp at h
      · rename_i hx
        obtain rfl := Except.ok.inj h
        simp [toNonNegativeDecimal, decimal?, Number.toBinary64?, hx]

/-! ## Protocols -/

theorem lowered_lowered (s : String) : lowered (lowered s) = lowered s := by
  simp [lowered, Function.comp_def]

/-- A decimal digit has no other case. -/
theorem toLower_of_digit? {c : Char} (h : (Text.digit? 10 c).isSome) : c.toLower = c := by
  apply Char.toLower_eq_of_not_isUpper
  have hcode := Text.toNat_le_of_digit? h
  simp only [Char.isUpper, decide_eq_true_eq, UInt32.le_iff_toNat_le]
  intro hupper
  have hlow : 65 ≤ c.toNat := hupper.1
  omega

/-- The decimal text of a whole number that is not negative. -/
theorem toList_toString {n : Int} (h : 0 ≤ n) : (toString n).toList = Nat.toDigits 10 n.toNat := by
  obtain ⟨k, rfl⟩ := Int.eq_ofNat_of_zero_le h
  exact Nat.toList_repr

/-- The number of a protocol is written with digits only. -/
theorem isSome_digit?_of_mem_toString {n : Int} (h : 0 ≤ n) :
    ∀ c ∈ (toString n).toList, (Text.digit? 10 c).isSome := by
  intro c hc
  rw [toList_toString h] at hc
  exact Text.isSome_digit?_of_readNat? (Text.readNat?_toDigits (by decide) (by decide) _) hc

theorem lowered_toString {n : Int} (h : 0 ≤ n) : lowered (toString n) = toString n := by
  have hmap : (toString n).toList.map Char.toLower = (toString n).toList := by
    conv_rhs => rw [← List.map_id (toString n).toList]
    exact List.map_congr_left fun c hc => toLower_of_digit? (isSome_digit?_of_mem_toString h c hc)
  rw [lowered, hmap, String.ofList_toList]

/-- The decimal text of a number reads back as the number, if it fits 64 bits. -/
theorem readInteger?_toString {n : Int} (h : 0 ≤ n) (hfits : Text.fitsInt64 n = true) :
    readInteger? (toString n) = some n := by
  have hblank : Text.trim (toString n).toList = (toString n).toList :=
    Text.trim_of_all fun c hc => Text.isBlank_of_digit? (isSome_digit?_of_mem_toString h c hc)
  have hread : Text.readInt? 10 (Nat.toDigits 10 n.toNat) = some (n.toNat : Int) :=
    Text.readInt?_of_readNat? (by decide) (by decide)
      (Text.readNat?_toDigits (by decide) (by decide) _)
  rw [readInteger?, hblank, toList_toString h, Text.readInt64?, hread, Int.toNat_of_nonneg h]
  simp [hfits]

theorem toProtocol_lowered {s : String} (h : protocolNames.contains (lowered s) = true) :
    toProtocol (.string (lowered s)) = .ok (.string (lowered s)) := by
  simp only [toProtocol, lowered_lowered, h, if_true]

theorem toProtocol_toString {n : Int} (h : isProtocolNumber n = true) :
    toProtocol (.string (toString n)) = .ok (.string (toString n)) := by
  have hbounds : 0 ≤ n ∧ n ≤ 255 := by simpa [isProtocolNumber] using h
  have hfits : Text.fitsInt64 n = true := by
    simp [Text.fitsInt64]
    omega
  simp only [toProtocol, lowered_toString hbounds.1, readInteger?_toString hbounds.1 hfits, h,
    if_true]
  -- A text of digits is no name, but both branches give the text anyway.
  split <;> rfl

theorem idempotent_toProtocol : Idempotent toProtocol := by
  intro v w h
  rw [toProtocol.eq_def] at h
  split at h
  case h_1 =>
    obtain rfl := Except.ok.inj h
    rfl
  case h_2 s =>
    split at h
    case isTrue hname =>
      obtain rfl := Except.ok.inj h
      exact toProtocol_lowered hname
    case isFalse =>
      split at h
      case h_1 n _ =>
        split at h
        case isTrue hn =>
          obtain rfl := Except.ok.inj h
          exact toProtocol_toString hn
        case isFalse => simp at h
      case h_2 => simp at h
  case h_3 n =>
    split at h
    case isTrue hn =>
      obtain rfl := Except.ok.inj h
      simp [toProtocol, hn]
    case isFalse => simp at h
  case h_4 => simp at h

/-! ## Addresses -/

theorem toCanonicalAddress_render {a : Net.Address} (h : a.family = .v6) :
    toCanonicalAddress (.string a.render) = .ok (.string a.render) := by
  simp only [toCanonicalAddress, a.read?_render, h]

theorem idempotent_toCanonicalAddress : Idempotent toCanonicalAddress := by
  intro v w h
  rw [toCanonicalAddress.eq_def] at h
  split at h
  case h_1 s =>
    split at h
    case h_1 a ha =>
      split at h
      case h_1 hfamily =>
        obtain rfl := Except.ok.inj h
        exact toCanonicalAddress_render hfamily
      case h_2 hfamily =>
        obtain rfl := Except.ok.inj h
        simp only [toCanonicalAddress, ha, hfamily]
    case h_2 hnone =>
      obtain rfl := Except.ok.inj h
      simp only [toCanonicalAddress, hnone]
  case h_2 hother =>
    obtain rfl := Except.ok.inj h
    rw [toCanonicalAddress]
    exact hother

theorem toCanonicalSubnet_render (s : Net.Subnet) :
    toCanonicalSubnet (.string s.render) = .ok (.string s.render) := by
  simp only [toCanonicalSubnet, s.read?_render]

theorem idempotent_toCanonicalSubnet : Idempotent toCanonicalSubnet := by
  intro v w h
  rw [toCanonicalSubnet.eq_def] at h
  split at h
  · split at h
    · obtain rfl := Except.ok.inj h
      exact toCanonicalSubnet_render _
    · simp at h
  · simp at h

/-! ## Sequences -/

theorem idempotent_toSequence : Idempotent toSequence := by
  intro v w h
  obtain rfl := Except.ok.inj h
  rfl

theorem idempotent_nullToArray : Idempotent nullToArray := by
  intro v w h
  obtain rfl := Except.ok.inj h
  cases v <;> rfl

theorem idempotent_nullToObject : Idempotent nullToObject := by
  intro v w h
  obtain rfl := Except.ok.inj h
  cases v <;> rfl

/-- Collapsing pairs gives an object. -/
theorem exists_object_of_collapsePairs {xs : List Json} {w : Json} (h : collapsePairs xs = .ok w) :
    ∃ members, w = .object members := by
  rw [collapsePairs] at h
  split at h
  · exact ⟨[], (Except.ok.inj h).symm⟩
  · split at h
    · exact ⟨_, (Except.ok.inj h).symm⟩
    · simp at h

/-! ## Scalar results

The conversions to booleans, numbers, protocols and subnets only give scalars. -/

/-- The results of the conversion are neither arrays nor objects. -/
def ToScalar (convert : Json → Converted) : Prop :=
  ∀ v w, convert v = .ok w → w.isScalar = true

theorem toScalar_toBoolean : ToScalar toBoolean := by
  intro v w h
  rw [toBoolean] at h
  split at h
  · obtain rfl := Except.ok.inj h
    rfl
  · simp at h

theorem ToScalar.orNull {convert : Json → Converted} (hconvert : ToScalar convert) :
    ToScalar (Convert.orNull convert) := by
  intro v w h
  rw [Convert.orNull.eq_def] at h
  split at h
  · obtain rfl := Except.ok.inj h
    rfl
  · exact hconvert v w h

theorem toScalar_toInteger : ToScalar toInteger := by
  intro v w h
  simp only [toInteger] at h
  split at h
  · obtain rfl := Except.ok.inj h
    rfl
  · simp at h

theorem toScalar_toNonNegativeDecimal : ToScalar toNonNegativeDecimal := by
  intro v w h
  rw [toNonNegativeDecimal.eq_def] at h
  repeat' split at h
  all_goals cases h <;> rfl

theorem toScalar_toProtocol : ToScalar toProtocol := by
  intro v w h
  rw [toProtocol.eq_def] at h
  repeat' split at h
  all_goals cases h <;> rfl

theorem toScalar_toCanonicalSubnet : ToScalar toCanonicalSubnet := by
  intro v w h
  rw [toCanonicalSubnet.eq_def] at h
  repeat' split at h
  all_goals cases h <;> rfl

end Convert

/-! ## Built-in converters -/

namespace BuiltinConverter

theorem idempotent_apply (c : BuiltinConverter) : Convert.Idempotent c.apply := by
  cases c with
  | boolean => exact Convert.idempotent_toBoolean
  | booleanOrNull => exact Convert.idempotent_toBoolean.orNull
  | integer => exact Convert.idempotent_toInteger
  | nonNegativeDecimal => exact Convert.idempotent_toNonNegativeDecimal
  | nullToArray => exact Convert.idempotent_nullToArray
  | nullToObject => exact Convert.idempotent_nullToObject
  | sequence => exact Convert.idempotent_toSequence
  | address => exact Convert.idempotent_toCanonicalAddress
  | subnet => exact Convert.idempotent_toCanonicalSubnet
  | protocol => exact Convert.idempotent_toProtocol

/-- A converter gives only scalars, or only arrays and keeps them all, or keeps both arrays and
objects. -/
theorem keeps_containers (c : BuiltinConverter) :
    Convert.ToScalar c.apply ∨
      (∀ items, c.apply (.array items) = .ok (.array items)) ∧
        ((∀ v ms, c.apply v ≠ .ok (.object ms)) ∨
          ∀ ms, c.apply (.object ms) = .ok (.object ms)) := by
  cases c with
  | boolean => exact Or.inl Convert.toScalar_toBoolean
  | booleanOrNull => exact Or.inl Convert.toScalar_toBoolean.orNull
  | integer => exact Or.inl Convert.toScalar_toInteger
  | nonNegativeDecimal => exact Or.inl Convert.toScalar_toNonNegativeDecimal
  | nullToArray => exact Or.inr ⟨fun _ => rfl, Or.inr fun _ => rfl⟩
  | nullToObject => exact Or.inr ⟨fun _ => rfl, Or.inr fun _ => rfl⟩
  | sequence => exact Or.inr ⟨fun _ => rfl, Or.inl fun v ms => by simp [apply, Convert.toSequence]⟩
  | address => exact Or.inr ⟨fun _ => rfl, Or.inr fun _ => rfl⟩
  | subnet => exact Or.inl Convert.toScalar_toCanonicalSubnet
  | protocol => exact Or.inl Convert.toScalar_toProtocol

/-- A converter that gives an array keeps every array. -/
theorem apply_array {c : BuiltinConverter} {v : Json} {items : List Json}
    (h : c.apply v = .ok (.array items)) (items' : List Json) :
    c.apply (.array items') = .ok (.array items') := by
  rcases c.keeps_containers with hscalar | ⟨harray, -⟩
  · exact absurd (hscalar v _ h) (by simp [Json.isScalar])
  · exact harray items'

/-- A converter that gives an object keeps every object. -/
theorem apply_object {c : BuiltinConverter} {v : Json} {ms : List (String × Json)}
    (h : c.apply v = .ok (.object ms)) (ms' : List (String × Json)) :
    c.apply (.object ms') = .ok (.object ms') := by
  rcases c.keeps_containers with hscalar | ⟨-, hnever | hkeeps⟩
  · exact absurd (hscalar v _ h) (by simp [Json.isScalar])
  · exact absurd h (hnever v ms)
  · exact hkeeps ms'

/-- Only null is converted to null. -/
theorem eq_null_of_apply {c : BuiltinConverter} {v : Json} (h : c.apply v = .ok .null) :
    v = .null := by
  cases c with
  | boolean =>
    simp only [apply, Convert.toBoolean] at h
    split at h <;> simp at h
  | booleanOrNull =>
    simp only [apply, Convert.orNull, Convert.toBoolean] at h
    split at h
    · rfl
    · split at h <;> simp at h
  | integer =>
    simp only [apply, Convert.toInteger, Json.ofInt] at h
    split at h <;> simp at h
  | nonNegativeDecimal =>
    simp only [apply, Convert.toNonNegativeDecimal] at h
    split at h
    · rfl
    · repeat' split at h
      all_goals simp at h
  | nullToArray => cases v <;> simp [apply, Convert.nullToArray, Json.isNull] at h
  | nullToObject => cases v <;> simp [apply, Convert.nullToObject, Json.isNull] at h
  | sequence => simp [apply, Convert.toSequence] at h
  | address =>
    simp only [apply, Convert.toCanonicalAddress] at h
    repeat' split at h
    all_goals cases h <;> rfl
  | subnet =>
    simp only [apply, Convert.toCanonicalSubnet] at h
    repeat' split at h
    all_goals simp at h
  | protocol =>
    simp only [apply, Convert.toProtocol] at h
    split at h
    · rfl
    all_goals
      repeat' split at h
      all_goals simp at h

end BuiltinConverter

namespace ListConverter

/-- The built-in list converter gives an object. -/
theorem exists_object_of_pairs {v w : Json} (h : pairs.apply v = .ok w) :
    ∃ members, w = .object members := by
  cases v with
  | object members => exact ⟨members, (Except.ok.inj h).symm⟩
  | _ => exact Convert.exists_object_of_collapsePairs h

theorem idempotent_pairs : Convert.Idempotent pairs.apply := by
  intro v w h
  obtain ⟨members, rfl⟩ := exists_object_of_pairs h
  rfl

end ListConverter

/-- **Built-in conversion is idempotent.** What a built-in converter gives, it gives again. -/
theorem builtin_conversion_idempotent :
    (∀ (c : BuiltinConverter) (v w : Json), c.apply v = .ok w → c.apply w = .ok w) ∧
      ∀ v w : Json, ListConverter.pairs.apply v = .ok w → ListConverter.pairs.apply w = .ok w :=
  ⟨fun c v w h => c.idempotent_apply v w h, fun v w h => ListConverter.idempotent_pairs v w h⟩

/-- A subnet of mapped addresses in another spelling, and pairs with repetitions. -/
theorem builtin_conversion_idempotent_mapped :
    (BuiltinConverter.subnet.apply (.string "0::FFFF:A00:1/+96")
          = .ok (.string "::ffff:10.0.0.1/96") ∧
        BuiltinConverter.subnet.apply (.string "::ffff:10.0.0.1/96")
          = .ok (.string "::ffff:10.0.0.1/96")) ∧
      ListConverter.pairs.apply (.array [.string "b=2", .string "a=", .string "b=1", .string "b=2"])
          = .ok (.object [("a", .array [.string ""]), ("b", .array [.string "1", .string "2"])]) ∧
        ListConverter.pairs.apply
            (.object [("a", .array [.string ""]), ("b", .array [.string "1", .string "2"])])
          = .ok (.object [("a", .array [.string ""]), ("b", .array [.string "1", .string "2"])]) := by
  have hsubnet : BuiltinConverter.subnet.apply (.string "0::FFFF:A00:1/+96")
      = .ok (.string "::ffff:10.0.0.1/96") := by rfl
  have hpairs : ListConverter.pairs.apply
        (.array [.string "b=2", .string "a=", .string "b=1", .string "b=2"])
      = .ok (.object [("a", .array [.string ""]), ("b", .array [.string "1", .string "2"])]) := by
    rfl
  exact ⟨⟨hsubnet, builtin_conversion_idempotent.1 _ _ _ hsubnet⟩, hpairs,
    builtin_conversion_idempotent.2 _ _ hpairs⟩

end AttributeSchema
