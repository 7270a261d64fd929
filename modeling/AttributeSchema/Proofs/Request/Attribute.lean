import AttributeSchema.Proofs.Request.Stages
import AttributeSchema.Proofs.Spec.Population

/-!
# One attribute from stage to stage

What a creation and a conversion make of the state of the one attribute that they treat: which
values survive, when the attribute is supplied afterwards, and that a second pass changes nothing.
Main statements: `Request.createAttribute_of_converted` and `Request.convertAttribute_of_converted`.
-/

namespace AttributeSchema

namespace Body

variable {b : Body} {key : String} {spec : Spec}

theorem fillDefault_of_none (h : spec.defaultOver? (b.slot key) = none) :
    b.fillDefault key spec = b := by
  unfold fillDefault
  rw [h]

theorem fillDefault_of_some {s : Slot} (h : spec.defaultOver? (b.slot key) = some s) :
    b.fillDefault key spec = b.insert key s := by
  unfold fillDefault
  rw [h]

/-- A default that was filled in is not filled in again. -/
theorem fillDefault_fillDefault (b : Body) (key : String) (spec : Spec) :
    (b.fillDefault key spec).fillDefault key spec = b.fillDefault key spec := by
  cases hfirst : spec.defaultOver? (b.slot key) with
  | none => rw [fillDefault_of_none hfirst, fillDefault_of_none hfirst]
  | some s =>
    rw [fillDefault_of_some hfirst]
    cases hagain : spec.defaultOver? (Body.slot (b.insert key s) key) with
    | none => exact fillDefault_of_none hagain
    | some t =>
      obtain ⟨d, hd, rfl⟩ := SpecOf.exists_of_defaultOver? hfirst
      obtain ⟨d', hd', rfl⟩ := SpecOf.exists_of_defaultOver? hagain
      obtain rfl : d = d' := Option.some.inj (hd.symm.trans hd')
      rw [fillDefault_of_some hagain]
      exact Dict.insert_of_get? (Dict.get?_insert_self b key d.slot)

/-- Where a default has nothing to put in place, something is supplied. -/
theorem isSupplied_of_defaultOver? {d : Default} (h : spec.default? = some d)
    (hover : spec.defaultOver? (b.slot key) = none) : b.isSupplied key = true := by
  unfold isSupplied
  cases hslot : b.slot key with
  | unspecified => simp [SpecOf.defaultOver?, h, hslot] at hover
  | _ => rfl

theorem isSupplied_fillDefault_of_value {v : Json} (h : spec.default? = some (.value v)) :
    (b.fillDefault key spec).isSupplied key = true := by
  cases hover : spec.defaultOver? (b.slot key) with
  | some s =>
    obtain ⟨d, hd, rfl⟩ := SpecOf.exists_of_defaultOver? hover
    obtain rfl : Default.value v = d := Option.some.inj (h.symm.trans hd)
    rw [fillDefault_of_some hover]
    simp [isSupplied, Default.slot]
  | none =>
    rw [fillDefault_of_none hover]
    exact isSupplied_of_defaultOver? h hover

/-- An attribute with a default is present once the default was filled in. -/
theorem contains_fillDefault {d : Default} (h : spec.default? = some d) :
    (b.fillDefault key spec).contains key = true := by
  cases hover : spec.defaultOver? (b.slot key) with
  | some s =>
    rw [fillDefault_of_some hover, Dict.contains_eq, Dict.get?_insert_self]
    rfl
  | none =>
    rw [fillDefault_of_none hover]
    exact contains_of_isSupplied (isSupplied_of_defaultOver? h hover)

theorem Proper.fillDefault (h : b.Proper) (key : String) (spec : Spec) :
    (b.fillDefault key spec).Proper := by
  cases hover : spec.defaultOver? (b.slot key) with
  | none =>
    rw [fillDefault_of_none hover]
    exact h
  | some s =>
    obtain ⟨d, -, rfl⟩ := SpecOf.exists_of_defaultOver? hover
    rw [fillDefault_of_some hover]
    exact h.insert d.proper_slot key

end Body

namespace Request

variable {checkAllowPost : Bool} {name : String} {spec : Spec} {b f : Body} {v : Json}

/-! ## Creation -/

theorem toJson?_populateNested (hv : (b.slot name).toJson? = some v)
    (hobject : ∀ ms, v ≠ .object ms) :
    ((populateNested name spec b).slot name).toJson? = some v := by
  unfold populateNested
  rw [SpecOf.populate_eq_self hv hobject]
  split
  · split
    case h_1 w hw =>
      rw [Body.slot_insert_self, Slot.toJson?_ofJson, ← hv, hw]
      rfl
    case h_2 => exact hv
  · exact hv

/-- A creation changes no value but an object, and null only where the default overrides it. -/
theorem toJson?_createAttribute (hv : (b.slot name).toJson? = some v)
    (hobject : ∀ ms, v ≠ .object ms) (hnull : v = .null → spec.defaultOverridesNull = false) :
    ((createAttribute checkAllowPost name spec b).body.slot name).toJson? = some v := by
  have hpopulated : ((populateNested name spec b).slot name).toJson? = some v :=
    toJson?_populateNested hv hobject
  unfold createAttribute
  split
  · rw [fillAttribute_body]
    split
    · exact hpopulated
    · rw [Body.fillDefault_of_none (SpecOf.defaultOver?_eq_none hpopulated hnull)]
      exact hpopulated
  · split
    · exact hv
    · exact hv

/-- An attribute that may be given on creation is supplied afterwards, unless its default is the
mark that nothing was specified. -/
theorem isSupplied_of_createAttribute (hpost : spec.allowPost = true)
    (hdefault : spec.default? ≠ some .unspecified)
    (h : createAttribute checkAllowPost name spec b = .done f) : f.isSupplied name = true := by
  obtain ⟨hrequired, rfl⟩ := (createAttribute_of_allowPost hpost).1 h
  cases hd : spec.default? with
  | none =>
    have hnone : spec.defaultOver? ((populateNested name spec b).slot name) = none := by
      simp [SpecOf.defaultOver?, hd]
    rw [Body.fillDefault_of_none hnone]
    exact hrequired hd
  | some d =>
    cases d with
    | value v => exact Body.isSupplied_fillDefault_of_value hd
    | unspecified => exact absurd hd hdefault

/-- An attribute that may be given on creation is present afterwards. -/
theorem contains_of_createAttribute (hpost : spec.allowPost = true)
    (h : createAttribute checkAllowPost name spec b = .done f) : f.contains name = true := by
  cases hd : spec.default? with
  | none => exact Body.contains_of_isSupplied (isSupplied_of_createAttribute hpost (by simp [hd]) h)
  | some d =>
    obtain ⟨-, rfl⟩ := (createAttribute_of_allowPost hpost).1 h
    exact Body.contains_fillDefault hd

/-! ## Conversion -/

theorem isSupplied_of_convertAttribute (h : convertAttribute name spec b = .done f) :
    f.isSupplied name = b.isSupplied name := by
  rcases convertAttribute_eq_done_iff.1 h with ⟨-, rfl⟩ | ⟨raw, v, hraw, -, -, rfl⟩
  · rfl
  · rw [Body.isSupplied_set_self, Body.isSupplied_iff_toJson?.2 ⟨raw, hraw⟩]

/-- A conversion that succeeds supplies what was supplied before, and nothing else. -/
theorem isSupplied_of_convertValues {schema : Schema} (h : convertValues schema b = .done f)
    (name : String) :
    f.isSupplied name = b.isSupplied name := by
  have hslots := convertValues_eq_done_iff.1 h
  cases hspec : schema.spec? name with
  | none => exact Body.isSupplied_congr (hslots.undeclared hspec)
  | some spec =>
    obtain ⟨f', hf', hsame⟩ := hslots.declared hspec
    rw [Body.isSupplied_congr hsame, isSupplied_of_convertAttribute hf']

theorem contains_of_convertAttribute (h : convertAttribute name spec b = .done f)
    (hb : b.contains name = true) : f.contains name = true := by
  rcases convertAttribute_eq_done_iff.1 h with ⟨-, rfl⟩ | ⟨raw, v, hraw, -, -, rfl⟩
  · exact hb
  · exact Body.contains_of_isSupplied (Body.isSupplied_set_self b name v)

theorem eq_of_convertAttribute_of_not_isSupplied (hnot : b.isSupplied name = false)
    (h : convertAttribute name spec b = .done f) : f = b := by
  rcases convertAttribute_eq_done_iff.1 h with ⟨-, rfl⟩ | ⟨raw, v, hraw, -, -, -⟩
  · rfl
  · simp [Body.toJson?_eq_none_iff.2 hnot] at hraw

/-- A value is stored as it was converted, and passes the rules. -/
theorem exists_of_convertAttribute {raw : Json} (hraw : (b.slot name).toJson? = some raw)
    (h : convertAttribute name spec b = .done f) :
    ∃ v, spec.convert raw = .ok v ∧ f.get? name = some (.ofJson v) ∧
      spec.check v = Verdict.pass := by
  rcases convertAttribute_eq_done_iff.1 h with ⟨hnot, -⟩ | ⟨raw', v, hraw', hconvert, hcheck, rfl⟩
  · simp [Body.toJson?_eq_none_iff.2 hnot] at hraw
  · obtain rfl : raw' = raw := Option.some.inj (hraw'.symm.trans hraw)
    exact ⟨v, hconvert, Dict.get?_insert_self b name _, hcheck⟩

/-- The value that is stored passes the rules. -/
theorem check_of_convertAttribute (h : convertAttribute name spec b = .done f)
    (hv : (f.slot name).toJson? = some v) : spec.check v = Verdict.pass := by
  rcases convertAttribute_eq_done_iff.1 h with ⟨hnot, rfl⟩ | ⟨raw, w, -, -, hcheck, rfl⟩
  · simp [Body.toJson?_eq_none_iff.2 hnot] at hv
  · rw [Body.toJson?_set_self] at hv
    rw [← Option.some.inj hv]
    exact hcheck

/-- A specification without converters and structured rules leaves every value alone. -/
theorem convertAttribute_eq_self (hto : spec.convertTo = none) (hlist : spec.convertListTo = none)
    (hmembers : spec.structuredMembers = []) (hproper : (b.slot name).Proper)
    (h : convertAttribute name spec b = .done f) : f = b := by
  rcases convertAttribute_eq_done_iff.1 h with ⟨-, rfl⟩ | ⟨raw, w, hraw, hconvert, -, rfl⟩
  · rfl
  · have hw : Conversion.convert spec raw = .ok raw := by
      rw [Conversion.convert_of_no_converter hto hlist]
      exact Conversion.convertByRules_of_nil hmembers raw
    obtain rfl : raw = w := Except.ok.inj (hw.symm.trans hconvert)
    exact Body.set_eq_self hproper hraw

/-- A specification without converters leaves a scalar alone. -/
theorem toJson?_convertAttribute (hto : spec.convertTo = none) (hlist : spec.convertListTo = none)
    (hv : (b.slot name).toJson? = some v) (hscalar : v.isScalar = true)
    (h : convertAttribute name spec b = .done f) : (f.slot name).toJson? = some v := by
  rcases convertAttribute_eq_done_iff.1 h with ⟨-, rfl⟩ | ⟨raw, w, hraw, hconvert, -, rfl⟩
  · exact hv
  · obtain rfl : raw = v := Option.some.inj (hraw.symm.trans hv)
    have hw : Conversion.convert spec raw = .ok raw := by
      rw [Conversion.convert_of_no_converter hto hlist]
      exact Conversion.convertByRules_of_isScalar hscalar spec.rules
    obtain rfl : raw = w := Except.ok.inj (hw.symm.trans hconvert)
    exact Body.toJson?_set_self b name raw

/-! ## A second pass -/

/-- A converted value is converted to itself and accepted again. -/
theorem convertAttribute_of_converted (hidempotent : Convert.Idempotent spec.convert)
    (h : convertAttribute name spec b = .done f) : convertAttribute name spec f = .done f := by
  rcases convertAttribute_eq_done_iff.1 h with ⟨-, rfl⟩ | ⟨raw, w, -, hconvert, hcheck, rfl⟩
  · exact h
  · have hagain : spec.convert w = .ok w := hidempotent raw w hconvert
    have hset : (b.set name w).set name w = b.set name w :=
      Dict.insert_of_get? (Dict.get?_insert_self b name _)
    exact convertAttribute_eq_done_iff.2
      (Or.inr ⟨w, w, Body.toJson?_set_self b name w, hagain, hcheck, hset⟩)

/-- Where only null is converted to null, a conversion keeps the body or stores another value. -/
theorem eq_or_isSet_of_convertAttribute (hnull : ∀ v, spec.convert v = .ok .null → v = .null)
    (hproper : (b.slot name).Proper) (h : convertAttribute name spec b = .done f) :
    f = b ∨ ∃ w, f.slot name = .value w := by
  rcases convertAttribute_eq_done_iff.1 h with ⟨-, rfl⟩ | ⟨raw, w, hraw, hconvert, -, rfl⟩
  · exact Or.inl rfl
  · cases w with
    | null =>
      obtain rfl := hnull raw hconvert
      exact Or.inl (Body.set_eq_self hproper hraw)
    | _ => exact Or.inr ⟨_, by rw [Body.slot_set, if_pos rfl]; rfl⟩

/-- **A conversion leaves nothing to fill in.** After an attribute was treated on creation and its
value was converted, it is treated on creation again without effect. -/
theorem createAttribute_of_converted {filled : Body} (hpopulate : spec.populateMembers = false)
    (hnull : ∀ v, spec.convert v = .ok .null → v = .null) (hproper : b.Proper)
    (hcreate : createAttribute checkAllowPost name spec b = .done filled)
    (hconvert : convertAttribute name spec filled = .done f) :
    createAttribute checkAllowPost name spec f = .done f := by
  have hnested : ∀ c : Body, populateNested name spec c = c := by
    intro c
    simp [populateNested, hpopulate]
  have hsupplied := isSupplied_of_convertAttribute hconvert
  cases hpost : spec.allowPost with
  | false =>
    obtain ⟨hforbidden, rfl⟩ := (createAttribute_of_not_allowPost hpost).1 hcreate
    refine (createAttribute_of_not_allowPost hpost).2 ⟨fun hcheck => ?_, rfl⟩
    rw [hsupplied]
    exact hforbidden hcheck
  | true =>
    have hfilled := (createAttribute_of_allowPost hpost).1 hcreate
    rw [hnested] at hfilled
    obtain ⟨hrequired, rfl⟩ := hfilled
    refine (createAttribute_of_allowPost hpost).2 ?_
    rw [hnested]
    constructor
    · intro hdefault
      exact hsupplied.trans (isSupplied_of_createAttribute hpost (by simp [hdefault]) hcreate)
    · -- The conversion kept what was filled in, or it put a value where no default applies.
      have hslot := hproper.fillDefault name spec name
      rcases eq_or_isSet_of_convertAttribute hnull hslot hconvert with rfl | ⟨w, hw⟩
      · exact Body.fillDefault_fillDefault b name spec
      · apply Body.fillDefault_of_none
        rw [hw]
        unfold SpecOf.defaultOver?
        split <;> rfl

end Request

end AttributeSchema
