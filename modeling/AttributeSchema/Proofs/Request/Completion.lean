import AttributeSchema.Proofs.Request.Filling
import AttributeSchema.Proofs.Spec.SelfSufficiency

/-!
# The body that filling in defaults leaves

Filling in defaults goes on after a failure, so the body that it leaves depends on no verdict: each
attribute that may be given on creation is completed, and the others are left alone. Whether it fails
is a matter of each attribute by itself in the body that was sent, and the first failure in order is
the one that is reported. Main statement: `Request.fillDefaults_completion`.
-/

namespace AttributeSchema

/-- A value other than null is kept as a value. -/
theorem Body.get?_eq_some_value {b : Body} {key : String} {v : Json}
    (hv : (b.slot key).toJson? = some v) (hnull : v ≠ .null) : b.get? key = some (.value v) := by
  rw [Body.get?_eq_some_slot (Body.isSupplied_iff_toJson?.2 ⟨v, hv⟩)]
  cases hslot : b.slot key with
  | value w =>
    rw [hslot] at hv
    rw [Option.some.inj hv]
  | null =>
    rw [hslot] at hv
    exact absurd (Option.some.inj hv).symm hnull
  | unspecified => simp [hslot, Slot.toJson?] at hv

namespace Request

variable {schema : Schema} {checkAllowPost : Bool} {name : String} {spec : Spec} {b : Body}

/-! ## Completion without verdicts -/

/-- Complete an attribute, whether or not something is missing. -/
def completeAttribute (name : String) (spec : Spec) (b : Body) : Body :=
  if spec.allowPost then (populateNested name spec b).fillDefault name spec else b

/-- Complete all attributes of a body in turn. -/
def completed (schema : Schema) (b : Body) : Body :=
  schema.attributes.entries.foldl (fun b (name, spec) => completeAttribute name spec b) b

theorem body_createAttribute (checkAllowPost : Bool) (name : String) (spec : Spec) (b : Body) :
    (createAttribute checkAllowPost name spec b).body = completeAttribute name spec b := by
  unfold createAttribute completeAttribute
  split
  · rw [fillAttribute_body]
    split
    case isTrue hmissing =>
      -- What is missing has no default that could have been filled in.
      have hnone : spec.default? = none :=
        Option.isNone_iff_eq_none.1 (Bool.and_eq_true_iff.1 hmissing).1
      rw [Body.fillDefault_of_none (by rw [SpecOf.defaultOver?, hnone])]
    case isFalse => rfl
  · split <;> rfl

theorem body_fillAll (checkAllowPost : Bool) (es : List (String × Spec)) (b : Body) :
    (fillAll checkAllowPost es b).body =
      es.foldl (fun b (name, spec) => completeAttribute name spec b) b := by
  induction es generalizing b with
  | nil => rfl
  | cons e es ih =>
    calc
      (fillAll checkAllowPost es (createAttribute checkAllowPost e.1 e.2 b).body).body
      _ = (fillAll checkAllowPost es (completeAttribute e.1 e.2 b)).body := by
        rw [body_createAttribute]
      _ = es.foldl (fun b (name, spec) => completeAttribute name spec b)
            (completeAttribute e.1 e.2 b) := ih _

theorem body_fillDefaults (schema : Schema) (checkAllowPost : Bool) (b : Body) :
    (fillDefaults schema checkAllowPost b).body = completed schema b :=
  body_fillAll checkAllowPost schema.attributes.entries b

theorem get?_completed (hspec : schema.spec? name = some spec) :
    (completed schema b).get? name = (completeAttribute name spec b).get? name := by
  rw [← body_fillDefaults schema false, get?_fillDefaults hspec, body_createAttribute]

/-- What is not declared, or may not be given on creation, is left alone. -/
theorem get?_completed_of_untouched
    (h : ∀ spec, schema.spec? name = some spec → spec.allowPost = false) :
    (completed schema b).get? name = b.get? name := by
  cases hspec : schema.spec? name with
  | none => rw [← body_fillDefaults schema false, get?_fillDefaults_of_undeclared hspec]
  | some spec =>
    have hnot : ¬ spec.allowPost = true := by simp [h spec hspec]
    rw [get?_completed hspec, completeAttribute, if_neg hnot]

theorem get?_completeAttribute_of_value {v : Json} (hv : (b.slot name).toJson? = some v)
    (hnull : v ≠ .null) (hobject : ∀ ms, v ≠ .object ms) :
    (completeAttribute name spec b).get? name = b.get? name := by
  have hkept : ((completeAttribute name spec b).slot name).toJson? = some v := by
    rw [← body_createAttribute false]
    exact toJson?_createAttribute hv hobject fun heq => absurd heq hnull
  rw [Body.get?_eq_some_value hkept hnull, Body.get?_eq_some_value hv hnull]

/-- A value that is neither null nor an object is left alone, be it declared or not. -/
theorem get?_completed_of_value {v : Json} (hv : (b.slot name).toJson? = some v)
    (hnull : v ≠ .null) (hobject : ∀ ms, v ≠ .object ms) :
    (completed schema b).get? name = b.get? name := by
  cases hspec : schema.spec? name with
  | none => exact get?_completed_of_untouched (by simp [hspec])
  | some spec => rw [get?_completed hspec, get?_completeAttribute_of_value hv hnull hobject]

/-! ## Which attributes are refused -/

/-- Why an attribute is refused on creation: it is missing and nothing makes up for it, or it may not
be given and that is checked. -/
inductive Refused (checkAllowPost : Bool) (b : Body) (name : String) (spec : Spec) :
    RequestError → Prop
  | missing (post : spec.allowPost = true) (nothing : spec.default? = none)
      (absent : b.isSupplied name = false) (plain : ¬ spec.FillsInside) :
      Refused checkAllowPost b name spec (.missing name)
  | forbidden (closed : spec.allowPost = false) (checked : checkAllowPost = true)
      (supplied : b.isSupplied name = true) : Refused checkAllowPost b name spec (.notOnCreate name)

/-- Filling in what is nested supplies an attribute that is structured and asks for it. -/
theorem isSupplied_populateNested (name : String) (spec : Spec) (b : Body) :
    (populateNested name spec b).isSupplied name =
      (b.isSupplied name || (spec.populateMembers && spec.isStructured)) := by
  unfold populateNested
  split
  case isTrue hfills =>
    rw [hfills, Bool.or_true, SpecOf.populate_eq_onMembers (Bool.and_eq_true_iff.1 hfills).1]
    unfold Body.isSupplied
    -- Null stays as it is, and so does a value that is not an object.
    rcases hslot : b.slot name with (_ | _ | _ | _ | _ | _) | _ | _ <;>
      simp [Slot.onMembers, Slot.isSupplied, Slot.ofJson, hslot]
  case isFalse hplain => simp [hplain]

theorem error?_fillAttribute_eq_some_iff {e : RequestError} :
    (fillAttribute name spec b).error? = some e ↔
      e = .missing name ∧ spec.default? = none ∧ b.isSupplied name = false ∧
        ¬ spec.FillsInside := by
  have hplain : (spec.populateMembers && spec.isStructured) = false ↔ ¬ spec.FillsInside := by
    rw [SpecOf.FillsInside, ← Bool.and_eq_true, Bool.not_eq_true]
  rw [fillAttribute_error?, isSupplied_populateNested]
  simp only [Option.ite_none_right_eq_some, Option.some.injEq, Bool.and_eq_true,
    Option.isNone_iff_eq_none, Bool.not_eq_true', Bool.or_eq_false_iff, hplain]
  constructor
  · rintro ⟨⟨hnone, hnot, hplain⟩, rfl⟩
    exact ⟨rfl, hnone, hnot, hplain⟩
  · rintro ⟨rfl, hnone, hnot, hplain⟩
    exact ⟨⟨hnone, hnot, hplain⟩, rfl⟩

/-- Treating an attribute fails exactly for the reasons to refuse it. -/
theorem error?_createAttribute_eq_some_iff {e : RequestError} :
    (createAttribute checkAllowPost name spec b).error? = some e ↔
      Refused checkAllowPost b name spec e := by
  cases hpost : spec.allowPost with
  | true =>
    rw [createAttribute, if_pos hpost, error?_fillAttribute_eq_some_iff]
    constructor
    · rintro ⟨rfl, hnone, hnot, hplain⟩
      exact .missing hpost hnone hnot hplain
    · intro h
      cases h with
      | missing _ nothing absent plain => exact ⟨rfl, nothing, absent, plain⟩
      | forbidden closed _ _ => simp [hpost] at closed
  | false =>
    have hnot : ¬ spec.allowPost = true := by simp [hpost]
    rw [createAttribute, if_neg hnot]
    constructor
    · intro h
      split at h
      case isTrue hforbidden =>
        obtain ⟨hchecked, hsupplied⟩ := Bool.and_eq_true_iff.1 hforbidden
        obtain rfl := Option.some.inj h
        exact .forbidden hpost hchecked hsupplied
      case isFalse => simp [Outcome.done] at h
    · intro h
      cases h with
      | missing post _ _ _ => simp [hpost] at post
      | forbidden _ checked supplied =>
        rw [checked, supplied]
        rfl

/-- An attribute that is refused, with the reason. -/
def RefusedFor (schema : Schema) (checkAllowPost : Bool) (b : Body) (name : String)
    (e : RequestError) : Prop :=
  ∃ spec, schema.spec? name = some spec ∧ Refused checkAllowPost b name spec e

theorem not_refusedFor_iff (hspec : schema.spec? name = some spec) :
    (∀ e, ¬ RefusedFor schema checkAllowPost b name e) ↔
      (createAttribute checkAllowPost name spec b).error? = none := by
  rw [Option.eq_none_iff_forall_ne_some]
  refine forall_congr' fun e => not_congr ?_
  rw [error?_createAttribute_eq_some_iff]
  constructor
  · rintro ⟨spec', hspec', h⟩
    obtain rfl : spec = spec' := Option.some.inj (hspec.symm.trans hspec')
    exact h
  · intro h
    exact ⟨spec, hspec, h⟩

theorem error?_fillDefaults_eq_some_iff {e : RequestError} :
    (fillDefaults schema checkAllowPost b).error? = some e ↔
      ∃ name, RefusedFor schema checkAllowPost b name e ∧
        ∀ name' < name, ∀ e', ¬ RefusedFor schema checkAllowPost b name' e' := by
  rw [error?_fillDefaults, schema.attributes.ascending.findSome?_eq_some_iff]
  constructor
  · rintro ⟨⟨name, spec⟩, hmem, he, hfirst⟩
    have hrefused : Refused checkAllowPost b name spec e := error?_createAttribute_eq_some_iff.1 he
    refine ⟨name, ⟨spec, Dict.mem_entries_iff.1 hmem, hrefused⟩, fun name' hlt => ?_⟩
    rintro e' ⟨spec', hspec', hrefused'⟩
    exact (not_refusedFor_iff hspec').2 (hfirst _ (Dict.mem_entries_iff.2 hspec') hlt) e'
      ⟨spec', hspec', hrefused'⟩
  · rintro ⟨name, ⟨spec, hspec, hrefused⟩, hfirst⟩
    refine ⟨(name, spec), Dict.mem_entries_iff.2 hspec, error?_createAttribute_eq_some_iff.2 hrefused,
      fun e' he' hlt => ?_⟩
    exact (not_refusedFor_iff (Dict.mem_entries_iff.1 he')).1 (hfirst _ hlt)

/-- Filling in defaults fails if and only if some attribute is refused. -/
theorem error?_fillDefaults_eq_none_iff :
    (fillDefaults schema checkAllowPost b).error? = none ↔
      ∀ name e, ¬ RefusedFor schema checkAllowPost b name e := by
  rw [error?_fillDefaults, List.findSome?_eq_none_iff]
  constructor
  · rintro h name e ⟨spec, hspec, hrefused⟩
    exact (not_refusedFor_iff hspec).2 (h _ (Dict.mem_entries_iff.2 hspec)) e
      ⟨spec, hspec, hrefused⟩
  · intro h e he
    exact (not_refusedFor_iff (Dict.mem_entries_iff.1 he)).1 (h e.1)

/-! ## The whole body -/

/-- What filling in defaults makes of a body, and when it fails. -/
structure Completion (schema : Schema) (checkAllowPost : Bool) (b : Body) (o : Outcome) : Prop where
  /-- The body depends neither on the check nor on whether something fails. -/
  body : o.body = completed schema b
  untouched : ∀ {name}, (∀ spec, schema.spec? name = some spec → spec.allowPost = false) →
    o.body.get? name = b.get? name
  kept : ∀ {name v}, (b.slot name).toJson? = some v → v ≠ .null → (∀ ms, v ≠ .object ms) →
    o.body.get? name = b.get? name
  supplied : ∀ {name spec v}, schema.spec? name = some spec → spec.allowPost = true →
    spec.default? = some (.value v) → o.body.isSupplied name = true
  present : ∀ {name spec d}, schema.spec? name = some spec → spec.allowPost = true →
    spec.default? = some d → o.body.contains name = true
  fails_iff : o.error? ≠ none ↔ ∃ name e, RefusedFor schema checkAllowPost b name e
  /-- The error is that of the first attribute that is refused. -/
  first_iff : ∀ {e}, o.error? = some e ↔ ∃ name, RefusedFor schema checkAllowPost b name e ∧
    ∀ name' < name, ∀ e', ¬ RefusedFor schema checkAllowPost b name' e'

/-- **Filling in defaults.** Every attribute is completed, whatever fails, and the first attribute
that is refused is reported. Nothing is refused in the empty body if every attribute that may be
given on creation has a default. -/
theorem fillDefaults_completion (schema : Schema) (checkAllowPost : Bool) :
    (∀ b, Completion schema checkAllowPost b (fillDefaults schema checkAllowPost b)) ∧
    ((∀ name spec, schema.spec? name = some spec → spec.allowPost = true →
        ∃ d, spec.default? = some d) →
      (fillDefaults schema checkAllowPost ∅).error? = none) := by
  constructor
  · intro b
    constructor
    case body => exact body_fillDefaults schema checkAllowPost b
    case untouched =>
      intro name h
      rw [body_fillDefaults, get?_completed_of_untouched h]
    case kept =>
      intro name v hv hnull hobject
      rw [body_fillDefaults, get?_completed_of_value hv hnull hobject]
    case supplied =>
      intro name spec v hspec hpost hdefault
      rw [body_fillDefaults, Body.isSupplied_congr (get?_completed hspec), completeAttribute,
        if_pos hpost]
      exact Body.isSupplied_fillDefault_of_value hdefault
    case present =>
      intro name spec d hspec hpost hdefault
      rw [body_fillDefaults, Dict.contains_eq, get?_completed hspec, completeAttribute,
        if_pos hpost]
      exact Body.contains_fillDefault hdefault
    case fails_iff =>
      rw [Ne, error?_fillDefaults_eq_none_iff]
      simp only [not_forall, not_not]
    case first_iff => exact error?_fillDefaults_eq_some_iff
  · intro hdefaults
    rw [error?_fillDefaults_eq_none_iff]
    rintro name e ⟨spec, hspec, hrefused⟩
    cases hrefused with
    | missing post nothing _ _ =>
      obtain ⟨d, hd⟩ := hdefaults name spec hspec post
      simp [nothing] at hd
    | forbidden _ _ supplied => simp [Body.isSupplied, Body.slot, Slot.isSupplied] at supplied

/-- A port without a name is completed all the same, and its status, which may not be given either, is
not what is reported. With nothing but defaults the empty body is complete. -/
theorem fillDefaults_completion_port :
    let mtu : Spec := { allowPost := true, default? := some (.value (.ofInt 1500)) }
    let schema : Schema := ⟨"ports", Dict.ofPairs
      [("mtu", mtu), ("name", { allowPost := true }), ("status", {})]⟩
    let sent := Body.ofObject [("status", .string "up")]
    let filled := Body.ofObject [("mtu", .ofInt 1500), ("status", .string "up")]
    Completion schema true sent ⟨filled, some (.missing "name")⟩ ∧
      (fillDefaults ⟨"ports", Dict.ofPairs [("mtu", mtu)]⟩ true ∅).error? = none := by
  intro mtu schema sent filled
  constructor
  · have hfill : fillDefaults schema true sent = ⟨filled, some (.missing "name")⟩ := by
      subst schema mtu sent filled
      cbv
    rw [← hfill]
    exact (fillDefaults_completion schema true).1 sent
  · refine (fillDefaults_completion _ true).2 fun name spec hspec _ => ?_
    have hmem : (name, spec) ∈ [("mtu", mtu)] := Dict.mem_of_get?_ofPairs hspec
    obtain ⟨rfl, rfl⟩ := Prod.mk.inj (List.mem_singleton.1 hmem)
    exact ⟨_, rfl⟩

end Request

end AttributeSchema
