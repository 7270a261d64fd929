import AttributeSchema.Proofs.Request.Attribute

/-!
# What a creation guarantees

A body that was prepared for a creation has every attribute that may be given, either as it was sent
or from its default, holds values that pass all rules after their conversion, and mentions nothing
that the schema does not declare. Main statement: `Request.created_of_prepare`.
-/

namespace AttributeSchema.Request

/-- A body that was prepared for a creation. -/
structure Created (schema : Schema) (config : Config) (b : Body) : Prop where
  /-- What may be given is supplied, if no default or the value of a default is declared. -/
  supplied : ∀ name spec, schema.spec? name = some spec → spec.allowPost = true →
    (spec.default? = none ∨ ∃ v, spec.default? = some (.value v)) → b.isSupplied name = true
  /-- What may be given and is unspecified by default is present. -/
  present : ∀ name spec, schema.spec? name = some spec → spec.allowPost = true →
    spec.default? = some .unspecified → b.contains name = true
  /-- What may not be given is not supplied, if that is checked. -/
  forbidden : ∀ name spec, schema.spec? name = some spec → spec.allowPost = false →
    config.checkAllowPost = true → b.isSupplied name = false
  /-- The stored value passes every rule, and its parts pass the nested rules that judge them. -/
  accepted : ∀ name spec, schema.spec? name = some spec → ∀ v, (b.slot name).toJson? = some v →
    ∀ r ∈ spec.rules, ∀ r' part, Rule.Reaches r v r' part → r'.check part = Verdict.pass
  /-- Nothing else is mentioned, if that is checked. -/
  declared : config.verifyAttributes = true → ∀ key ∈ b.keys, schema.declares key = true

/-- **The guarantees of a creation.** Each stage keeps what the stages before it established. -/
theorem created_of_prepare (schema : Schema) (config : Config) (caller : Caller) (b f : Body)
    (h : prepare schema config caller .create b = .done f) : Created schema config f := by
  obtain ⟨settled, filled, -, hfill, hconvert, hverify⟩ := prepare_create_eq_done_iff.1 h
  have heach : ∀ name spec, schema.spec? name = some spec →
      ∃ c f', createAttribute config.checkAllowPost name spec settled = .done c ∧
        convertAttribute name spec c = .done f' ∧ f.get? name = f'.get? name := by
    intro name spec hspec
    obtain ⟨c, f', hc, -, hf', hsame⟩ := (fillDefaults_eq_done_iff.1 hfill).exists_of_then
      actsAt_convertAttribute (convertValues_eq_done_iff.1 hconvert) hspec
    exact ⟨c, f', hc, hf', hsame⟩
  constructor
  case supplied =>
    intro name spec hspec hpost hdefault
    obtain ⟨c, f', hc, hf', hsame⟩ := heach name spec hspec
    have hnot : spec.default? ≠ some .unspecified := by
      rcases hdefault with hnone | ⟨v, hv⟩
      · simp [hnone]
      · simp [hv]
    rw [Body.isSupplied_congr hsame, isSupplied_of_convertAttribute hf']
    exact isSupplied_of_createAttribute hpost hnot hc
  case present =>
    intro name spec hspec hpost _
    obtain ⟨c, f', hc, hf', hsame⟩ := heach name spec hspec
    rw [Dict.contains_eq, hsame, ← Dict.contains_eq]
    exact contains_of_convertAttribute hf' (contains_of_createAttribute hpost hc)
  case forbidden =>
    intro name spec hspec hpost hcheck
    obtain ⟨c, f', hc, hf', hsame⟩ := heach name spec hspec
    obtain ⟨hforbidden, rfl⟩ := (createAttribute_of_not_allowPost hpost).1 hc
    rw [Body.isSupplied_congr hsame, isSupplied_of_convertAttribute hf']
    exact hforbidden hcheck
  case accepted =>
    intro name spec hspec v hv r hr r' part hreaches
    obtain ⟨c, f', -, hf', hsame⟩ := heach name spec hspec
    rw [Body.slot_congr hsame] at hv
    have hcheck : spec.check v = Verdict.pass := check_of_convertAttribute hf' hv
    exact Rule.check_of_reaches hreaches (Rule.checkAll_eq_pass_iff.1 hcheck r hr)
  case declared => exact hverify

/-- A member is converted, a default is filled in, and the mark stays where nothing is specified. -/
theorem created_of_prepare_port :
    Created
      ⟨"ports", Dict.ofPairs
        [("id", {}),
          ("options", { allowPost := true, rules := [.structured (.builtin .object) [("mtu",
            { convertTo := some [.builtin .integer], rules := [.ofLeaf .nonNegative none] })]] }),
          ("size", { allowPost := true, default? := some .unspecified }),
          ("up", { allowPost := true, default? := some (.value (.bool true)) })]⟩
      {}
      (Dict.ofPairs
        [("options", .value (.object [("mtu", .ofInt 1500)])), ("size", .unspecified),
          ("up", .value (.bool true))]) :=
  created_of_prepare _ {} .anonymous
    (Body.ofObject [("options", .object [("mtu", .string "1500")])]) _ (by cbv)

end AttributeSchema.Request
