import AttributeSchema.Proofs.Request.Attribute
import AttributeSchema.Proofs.Request.Settlement
import AttributeSchema.Proofs.Spec.Defaults

/-!
# What an update does

An update changes what was sent in two ways: the owner is settled, and the values of declared
attributes are converted. Everything else is left alone, and no default plays a part. Main statement:
`Request.updated_of_prepare`.
-/

namespace AttributeSchema

/-! ## Stages without defaults -/

namespace Request

variable {schema : Schema} {config : Config} {caller : Caller} {b f : Body}

theorem convertAttribute_withoutDefaults (name : String) (spec : Spec) :
    convertAttribute name spec.withoutDefaults = convertAttribute name spec := by
  funext b
  simp only [convertAttribute, SpecOf.convert_withoutDefaults, SpecOf.check_withoutDefaults]

theorem convertAll_withoutDefaults (es : List (String × Spec)) :
    convertAll (es.map fun e => (e.1, e.2.withoutDefaults)) = convertAll es := by
  induction es with
  | nil => rfl
  | cons e es ih =>
    funext b
    rw [List.map_cons, convertAll, convertAll, convertAttribute_withoutDefaults, ih]

theorem checkUpdatable_withoutDefaults (schema : Schema) (b : Body) :
    checkUpdatable schema.withoutDefaults b = checkUpdatable schema b := by
  have hfind : (schema.withoutDefaults.attributes.entries.find? fun e =>
        !e.2.allowPut && b.isSupplied e.1) =
      (schema.attributes.entries.find? fun e => !e.2.allowPut && b.isSupplied e.1).map
        fun e => (e.1, e.2.withoutDefaults) := by
    rw [Schema.withoutDefaults, Dict.map, List.find?_map]
    simp only [Function.comp_def, SpecOf.allowPut_withoutDefaults]
  rw [checkUpdatable, checkUpdatable, hfind]
  cases schema.attributes.entries.find? fun e => !e.2.allowPut && b.isSupplied e.1 <;> rfl

/-- **An update does not look at defaults.** Its outcome, be it success or failure, is the same when
no specification declares a default at any depth. Only a validator that was registered may look at what
was declared, to judge by it. -/
theorem prepare_update_withoutDefaults (schema : Schema) (config : Config) (caller : Caller)
    (b : Body) :
    prepare schema.withoutDefaults config caller .update b =
      prepare schema config caller .update b := by
  -- Each stage of an update is the same function for both schemas.
  have hsettle := Ownership.settle_congr (fun key _ => schema.declares_withoutDefaults key) caller
    (decide (Action.update = .create)) b
  have hcheck : checkUpdatable schema.withoutDefaults = checkUpdatable schema :=
    funext (checkUpdatable_withoutDefaults schema)
  have hconvert : convertValues schema.withoutDefaults = convertValues schema :=
    convertAll_withoutDefaults schema.attributes.entries
  have hverify : verifyAttributes schema.withoutDefaults = verifyAttributes schema := by
    funext b
    simp only [verifyAttributes, Schema.declares_withoutDefaults]
  simp only [prepare, hsettle, hcheck, hconvert, hverify]

/-! ## One attribute on an update -/

/-- A converted attribute holds the result of its conversion, which passes the rules. -/
theorem exists_of_convertValues (h : convertValues schema b = .done f) {name : String} {spec : Spec}
    (hspec : schema.spec? name = some spec) {raw : Json} (hraw : (b.slot name).toJson? = some raw) :
    ∃ v, spec.convert raw = .ok v ∧ f.get? name = some (.ofJson v) ∧
      spec.check v = Verdict.pass := by
  obtain ⟨f', hf', hsame⟩ := (convertValues_eq_done_iff.1 h).declared hspec
  obtain ⟨v, hconvert, hv, hcheck⟩ := exists_of_convertAttribute hraw hf'
  exact ⟨v, hconvert, hsame.trans hv, hcheck⟩

/-- An attribute that is not declared or not supplied is not converted. -/
theorem get?_of_convertValues (h : convertValues schema b = .done f) {key : String}
    (hkey : schema.spec? key = none ∨ b.isSupplied key = false) : f.get? key = b.get? key := by
  have hslots := convertValues_eq_done_iff.1 h
  cases hspec : schema.spec? key with
  | none => exact hslots.undeclared hspec
  | some spec =>
    have hnot : b.isSupplied key = false := by
      rcases hkey with hnone | hnot
      · simp [hspec] at hnone
      · exact hnot
    obtain ⟨f', hf', hsame⟩ := hslots.declared hspec
    rw [hsame, eq_of_convertAttribute_of_not_isSupplied hnot hf']

/-- A conversion mentions the same attributes. -/
theorem contains_of_convertValues (h : convertValues schema b = .done f) (key : String) :
    f.contains key = b.contains key := by
  cases hsupplied : b.isSupplied key with
  | true =>
    have hf : f.isSupplied key = true := (isSupplied_of_convertValues h key).trans hsupplied
    rw [Body.contains_of_isSupplied hsupplied, Body.contains_of_isSupplied hf]
  | false =>
    rw [Dict.contains_eq, Dict.contains_eq, get?_of_convertValues h (Or.inr hsupplied)]

/-! ## The whole update -/

/-- What an update makes of the body that was sent. -/
structure Updated (schema : Schema) (config : Config) (caller : Caller) (sent prepared : Body) :
    Prop where
  /-- Every declared attribute that is supplied may be updated. -/
  updatable : ∀ name spec, schema.spec? name = some spec → prepared.isSupplied name = true →
    spec.allowPut = true
  /-- Apart from the spellings of the owner, the attributes that were mentioned still are, and no
  others. -/
  mentioned : ∀ key ∉ Ownership.keys, prepared.contains key = sent.contains key
  /-- What was sent for a declared attribute was converted by its specification, and every rule
  accepts the result. -/
  converted : ∀ name ∉ Ownership.keys, ∀ spec, schema.spec? name = some spec →
    ∀ raw, (sent.slot name).toJson? = some raw → ∃ v, spec.convert raw = .ok v ∧
      prepared.get? name = some (.ofJson v) ∧ ∀ r ∈ spec.rules, r.check v = Verdict.pass
  /-- Any other attribute is in the state in which it was sent. -/
  kept : ∀ key ∉ Ownership.keys, schema.spec? key = none ∨ sent.isSupplied key = false →
    prepared.get? key = sent.get? key
  /-- A spelling of the owner is supplied only if one of the two was. -/
  owner : ∀ key ∈ Ownership.keys, prepared.isSupplied key = true →
    ∃ k ∈ Ownership.keys, sent.isSupplied k = true
  /-- No default was filled in at any depth: without all of them the result is the same, if the
  validators that were registered are still shown what was declared. -/
  undefaulted : prepare schema.withoutDefaults config caller .update sent = .done prepared

/-- **The effect of an update.** -/
theorem updated_of_prepare (schema : Schema) (config : Config) (caller : Caller) (b f : Body)
    (h : prepare schema config caller .update b = .done f) :
    Updated schema config caller b f := by
  obtain ⟨settled, hsettle, hcheck, hconvert, -⟩ := prepare_update_eq_done_iff.1 h
  -- Before the conversion only the spellings of the owner may differ from what was sent.
  have hsent : ∀ key ∉ Ownership.keys, settled.get? key = b.get? key := fun key hkey =>
    Ownership.get?_settle_of_not_mem hsettle hkey
  constructor
  case updatable =>
    intro name spec hspec hsupplied
    rw [isSupplied_of_convertValues hconvert] at hsupplied
    exact (checkUpdatable_eq_done_iff.1 hcheck).1 name spec hspec hsupplied
  case mentioned =>
    intro key hkey
    rw [contains_of_convertValues hconvert, Dict.contains_eq, Dict.contains_eq, hsent key hkey]
  case converted =>
    intro name hname spec hspec raw hraw
    rw [← Body.slot_congr (hsent name hname)] at hraw
    obtain ⟨v, hv, hstored, hpass⟩ := exists_of_convertValues hconvert hspec hraw
    exact ⟨v, hv, hstored, Rule.checkAll_eq_pass_iff.1 hpass⟩
  case kept =>
    intro key hkey hother
    rw [← Body.isSupplied_congr (hsent key hkey)] at hother
    rw [get?_of_convertValues hconvert hother, hsent key hkey]
  case owner =>
    intro key hkey hsupplied
    rw [isSupplied_of_convertValues hconvert] at hsupplied
    obtain ⟨a, halign, -, ⟨rfl, -⟩ | ⟨project, hcreating, -⟩⟩ := Ownership.cases_of_settle hsettle
    · have hone := Ownership.exists_isSupplied_of_align halign hkey hsupplied
      simpa [Ownership.keys] using hone
    · simp at hcreating
  case undefaulted =>
    rw [prepare_update_withoutDefaults]
    exact h

/-- An update converts what it names, inside an object too, and fills in neither the default beside
it nor the one in the object. The owner moves to the spelling that is declared. -/
theorem updated_of_prepare_port :
    let options : Spec :=
      { allowPut := true, populateMembers := true
        rules := [.structured (.builtin .object) [
          ("mtu", { convertTo := some [.builtin .integer], rules := [.ofLeaf .nonNegative none] }),
          ("vlan", { default? := some (.value (.ofInt 1)) })]] }
    let schema : Schema := ⟨"ports", Dict.ofPairs
      [("options", options), ("tenant_id", { allowPut := true }),
        ("up", { allowPut := true, default? := some (.value (.bool true)) })]⟩
    Updated schema {} ⟨.zero, some "p1", [], false, []⟩
      (Body.ofObject [("options", .object [("mtu", .string "1500")]), ("project_id", .string "p1")])
      (Body.ofObject [("options", .object [("mtu", .ofInt 1500)]), ("tenant_id", .string "p1")]) :=
  updated_of_prepare _ {} _ _ _ (by cbv)

end Request

end AttributeSchema
