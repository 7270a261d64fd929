import AttributeSchema.Proofs.Request.Null
import AttributeSchema.Proofs.Request.OwnerDecision

/-!
# Preparation is a projection

A prepared body is prepared again without a change: the owner is settled, the defaults are filled
in, and the values convert to themselves. This takes specifications that convert by at most one
built-in step, and an owner that is neither converted nor filled in by its specification. Main
statement: `Request.prepare_prepared`.
-/

namespace AttributeSchema

/-- What a schema has to declare for a preparation to be a projection. -/
structure Schema.Projecting (schema : Schema) (action : Action) : Prop where
  /-- Each specification, at every depth, converts by at most one built-in step and has at most one
  structured rule. -/
  once : ∀ name spec, schema.spec? name = some spec →
    spec.Everywhere fun s => s.ConvertsOnce ∧ s.OrderedMembers
  /-- The owner has no converter, no default and no structured rule. -/
  owner : ∀ key ∈ Ownership.keys, ∀ spec, schema.spec? key = some spec →
    spec.convertTo = none ∧ spec.convertListTo = none ∧ spec.default? = none ∧
      spec.structuredMembers = []
  /-- On creation no attribute asks for the defaults of its members. -/
  plain : action = .create → ∀ name spec, schema.spec? name = some spec →
    spec.populateMembers = false

namespace Schema.Projecting

variable {schema : Schema} {action : Action} {name : String} {spec : Spec}

theorem idempotent_convert (h : schema.Projecting action) (hspec : schema.spec? name = some spec) :
    Convert.Idempotent spec.convert := Conversion.idempotent_convert (h.once name spec hspec)

theorem eq_null_of_convert (h : schema.Projecting action) (hspec : schema.spec? name = some spec)
    (v : Json) (hv : spec.convert v = .ok .null) : v = .null :=
  Conversion.eq_null_of_convert (h.once name spec hspec).here.1 hv

end Schema.Projecting

namespace Request

open Ownership

variable {schema : Schema} {config : Config} {caller : Caller} {action : Action} {b filled f : Body}

/-- Converted values are converted to themselves. -/
theorem convertValues_of_converted (hschema : schema.Projecting action)
    (h : convertValues schema b = .done f) : convertValues schema f = .done f := by
  have hslots := convertValues_eq_done_iff.1 h
  refine convertValues_eq_done_iff.2 (slotWise_self fun name spec hspec => ?_)
  obtain ⟨f', hf', hsame⟩ := hslots.declared hspec
  exact (actsAt_convertAttribute name spec).fix
    (convertAttribute_of_converted (hschema.idempotent_convert hspec) hf') hsame

/-- Where the values were converted there is no default left to fill in. -/
theorem fillDefaults_of_converted {checkAllowPost : Bool} (hschema : schema.Projecting .create)
    (hb : b.Proper) (hfill : fillDefaults schema checkAllowPost b = .done filled)
    (hconvert : convertValues schema filled = .done f) :
    fillDefaults schema checkAllowPost f = .done f := by
  refine fillDefaults_eq_done_iff.2 (slotWise_self fun name spec hspec => ?_)
  obtain ⟨c, f', hc, -, hf', hsame⟩ := (fillDefaults_eq_done_iff.1 hfill).exists_of_then
    actsAt_convertAttribute (convertValues_eq_done_iff.1 hconvert) hspec
  exact (actsAt_createAttribute checkAllowPost name spec).fix
    (createAttribute_of_converted (hschema.plain rfl name spec hspec)
      (hschema.eq_null_of_convert hspec) hb hc hf') hsame

/-- An update that was let through is let through again after the conversion. -/
theorem checkUpdatable_of_converted (hcheck : checkUpdatable schema b = .done b)
    (hconvert : convertValues schema b = .done f) : checkUpdatable schema f = .done f := by
  obtain ⟨hput, -⟩ := checkUpdatable_eq_done_iff.1 hcheck
  refine checkUpdatable_eq_done_iff.2 ⟨fun name spec hspec hsupplied => ?_, rfl⟩
  rw [isSupplied_of_convertValues hconvert] at hsupplied
  exact hput name spec hspec hsupplied

/-! ## The owner is out of reach -/

theorem get?_owner_of_fillDefaults {checkAllowPost : Bool} (hschema : schema.Projecting action)
    (h : fillDefaults schema checkAllowPost b = .done f) :
    ∀ key ∈ keys, f.get? key = b.get? key := by
  have hslots := fillDefaults_eq_done_iff.1 h
  intro key hkey
  cases hspec : schema.spec? key with
  | none => exact hslots.undeclared hspec
  | some spec =>
    obtain ⟨-, -, hdefault, hmembers⟩ := hschema.owner key hkey spec hspec
    obtain ⟨f', hf', hsame⟩ := hslots.declared hspec
    rw [hsame]
    cases hpost : spec.allowPost with
    | false =>
      obtain ⟨-, rfl⟩ := (createAttribute_of_not_allowPost hpost).1 hf'
      rfl
    | true =>
      obtain ⟨-, rfl⟩ := (createAttribute_of_allowPost hpost).1 hf'
      have hnested : populateNested key spec b = b := by
        simp [populateNested, SpecOf.isStructured, hmembers]
      have hnone : spec.defaultOver? (b.slot key) = none := by
        simp [SpecOf.defaultOver?, hdefault]
      rw [hnested, Body.fillDefault_of_none hnone]

theorem get?_owner_of_convertValues (hschema : schema.Projecting action) (hb : b.Proper)
    (h : convertValues schema b = .done f) : ∀ key ∈ keys, f.get? key = b.get? key := by
  have hslots := convertValues_eq_done_iff.1 h
  intro key hkey
  cases hspec : schema.spec? key with
  | none => exact hslots.undeclared hspec
  | some spec =>
    obtain ⟨hto, hlist, -, hmembers⟩ := hschema.owner key hkey spec hspec
    obtain ⟨f', hf', hsame⟩ := hslots.declared hspec
    rw [hsame, convertAttribute_eq_self hto hlist hmembers (hb key) hf']

/-- Settling the owner again changes nothing after stages that left the owner alone. -/
theorem settle_of_owner_eq {settled : Body} {creating : Bool} {members : List (String × Json)}
    (hmembers : ∀ m ∈ members, m.2.WellFormed)
    (hsettle : settle schema caller creating (.ofObject members) = .done settled)
    (howner : ∀ key ∈ keys, f.get? key = settled.get? key) :
    settle schema caller creating f = .done f := by
  have hrefl : ∀ key ∈ keys,
      ((Body.ofObject members).slot key == (Body.ofObject members).slot key) = true :=
    fun key _ => (Body.wellFormed_ofObject hmembers).beq_slot_self key
  exact settle_of_settled ((settled_of_settle hsettle).congr howner)
    ((agree_of_settle hsettle hrefl).congr howner)

/-- **A preparation is a projection.** A body that was prepared from an object is prepared again
without any change. No object in the values repeats a key, as in every map from keys. -/
theorem prepare_prepared (schema : Schema) (config : Config) (caller : Caller) (action : Action)
    (members : List (String × Json)) (f : Body) (hschema : schema.Projecting action)
    (hmembers : ∀ m ∈ members, m.2.WellFormed)
    (h : prepare schema config caller action (.ofObject members) = .done f) :
    prepare schema config caller action f = .done f := by
  have hsent : (Body.ofObject members).Proper := Body.proper_ofObject members
  cases action with
  | create =>
    obtain ⟨settled, filled, hsettle, hfill, hconvert, hverify⟩ := prepare_create_eq_done_iff.1 h
    have hproper : settled.Proper := proper_settle hsettle hsent
    -- No stage after the settlement touches the owner, so a settlement finds it settled.
    have howner : ∀ key ∈ keys, f.get? key = settled.get? key := by
      intro key hkey
      rw [get?_owner_of_convertValues hschema (proper_fillDefaults hproper hfill) hconvert key hkey,
        get?_owner_of_fillDefaults hschema hfill key hkey]
    exact prepare_create_eq_done_iff.2 ⟨f, f, settle_of_owner_eq hmembers hsettle howner,
      fillDefaults_of_converted hschema hproper hfill hconvert,
      convertValues_of_converted hschema hconvert, hverify⟩
  | update =>
    obtain ⟨settled, hsettle, hcheck, hconvert, hverify⟩ := prepare_update_eq_done_iff.1 h
    have hproper : settled.Proper := proper_settle hsettle hsent
    have howner := get?_owner_of_convertValues hschema hproper hconvert
    exact prepare_update_eq_done_iff.2 ⟨f, settle_of_owner_eq hmembers hsettle howner,
      checkUpdatable_of_converted hcheck hconvert, convertValues_of_converted hschema hconvert,
      hverify⟩

/-- A creation that takes an owner, converts a member and fills in a default does so once. -/
theorem prepare_prepared_port :
    prepare
      ⟨"ports", Dict.ofPairs
        [("options", { allowPost := true, rules := [.structured (.builtin .object) [("mtu",
            { convertTo := some [.builtin .integer], rules := [.ofLeaf .nonNegative none] })]] }),
          ("tenant_id", { allowPost := true }),
          ("up", { allowPost := true, default? := some (.value (.bool true)) })]⟩
      {} ⟨.zero, some "p1", [], false, []⟩ .create
      (Dict.ofPairs
        [("options", .value (.object [("mtu", .ofInt 1500)])), ("tenant_id", .value (.string "p1")),
          ("up", .value (.bool true))]) =
    .done (Dict.ofPairs
        [("options", .value (.object [("mtu", .ofInt 1500)])), ("tenant_id", .value (.string "p1")),
          ("up", .value (.bool true))]) := by
  refine prepare_prepared _ {} _ .create [("options", .object [("mtu", .string "1500")])] _
    ⟨?_, ?_, ?_⟩ ?_ (by cbv)
  · intro name spec hspec
    have hmem := Dict.mem_of_get?_ofPairs hspec
    simp only [List.mem_cons, Prod.mk.injEq, List.not_mem_nil, or_false] at hmem
    rcases hmem with ⟨-, rfl⟩ | ⟨-, rfl⟩ | ⟨-, rfl⟩
    · refine .intro ⟨⟨by simp, by simp, by decide⟩, ?_⟩ ?_
      · intro members hmembers
        obtain rfl : members = _ := List.mem_singleton.1 hmembers
        exact List.pairwise_singleton _ _
      · -- The one member has no structured rule of its own.
        intro members hmembers m hm
        obtain rfl : members = _ := List.mem_singleton.1 hmembers
        obtain rfl : m = _ := List.mem_singleton.1 hm
        exact .of_leaf ⟨⟨by simp, by simp, by decide⟩, .of_leaf rfl⟩ rfl
    · exact .of_leaf ⟨⟨by simp, by simp, by decide⟩, .of_leaf rfl⟩ rfl
    · exact .of_leaf ⟨⟨by simp, by simp, by decide⟩, .of_leaf rfl⟩ rfl
  · intro key hkey spec hspec
    have hmem := Dict.mem_of_get?_ofPairs hspec
    simp only [List.mem_cons, Prod.mk.injEq, List.not_mem_nil, or_false] at hmem
    rcases hmem with ⟨rfl, -⟩ | ⟨rfl, rfl⟩ | ⟨rfl, -⟩
    · exact absurd hkey (by decide)
    · exact ⟨rfl, rfl, rfl, rfl⟩
    · exact absurd hkey (by decide)
  · intro _ name spec hspec
    have hmem := Dict.mem_of_get?_ofPairs hspec
    simp only [List.mem_cons, Prod.mk.injEq, List.not_mem_nil, or_false] at hmem
    rcases hmem with ⟨-, rfl⟩ | ⟨-, rfl⟩ | ⟨-, rfl⟩ <;> rfl
  · intro m hm
    obtain rfl : m = _ := List.mem_singleton.1 hm
    exact .object (List.pairwise_singleton _ _) fun m hm => by
      obtain rfl : m = _ := List.mem_singleton.1 hm
      exact .string "1500"

end Request

end AttributeSchema
