import AttributeSchema.Proofs.Request.Settlement
import AttributeSchema.Proofs.Request.Stages
import AttributeSchema.Proofs.Traversal
import AttributeSchema.Segment
import Mathlib

/-!
# Segments are prepared like creations

A segment goes through the stages in another order than a creation: attributes that are not declared
are looked for first instead of last, and nobody owns it. Where the schema declares no owner this
makes no difference to what is accepted, nor to the body that results. Main statement:
`Segment.prepare_like_creations`.
-/

namespace AttributeSchema

namespace Ownership

open Schema (tenantKey projectKey)

variable {schema : Schema} {caller : Caller} {creating : Bool} {b f : Body}

theorem assign_of_unscoped (h : schema.isProjectScoped = false) (project : String) :
    assign schema project b = b := by
  ext key
  rw [get?_assign, if_neg]
  rintro ⟨hkey, hdeclared⟩
  simp [isProjectScoped_of_declares hkey hdeclared] at h

/-- Where no owner is declared, settling it changes nothing. -/
theorem eq_of_settle_of_unscoped (hscope : schema.isProjectScoped = false)
    (h : settle schema caller creating b = .done f) : f = b := by
  obtain ⟨a, halign, -, hcases⟩ := cases_of_settle h
  obtain ⟨-, ha⟩ := align_eq_done_iff.1 halign
  obtain rfl : b = a := by simpa [hscope] using ha
  rcases hcases with ⟨rfl, -⟩ | ⟨project, -, -, -, rfl⟩
  · rfl
  · exact assign_of_unscoped hscope project

/-- Where no owner is declared and none is supplied, settling it succeeds. -/
theorem settle_of_unscoped (hscope : schema.isProjectScoped = false)
    (hnone : ∀ key ∈ keys, b.isSupplied key = false) :
    settle schema caller creating b = .done b := by
  have halign : align schema b = .done b := by
    rw [align_eq_done_iff, hscope]
    exact ⟨fun htenant => by simp [hnone _ tenantKey_mem] at htenant, rfl⟩
  have hforeign : namesForeign caller b = false := by
    rw [namesForeign_eq_false_iff]
    intro key hkey v hv
    rw [Body.toJson?_eq_none_iff.2 (hnone key hkey)] at hv
    simp at hv
  refine settle_eq_done_iff.2 ⟨b, halign, by simp [hforeign], ?_⟩
  split
  case isTrue =>
    refine assignOwn_eq_done_iff.2 (Or.inr ⟨hnone, ?_⟩)
    cases hproject : caller.project? with
    | some project => exact Or.inl ⟨project, rfl, assign_of_unscoped hscope project⟩
    | none => exact Or.inr ⟨rfl, hscope, rfl⟩
  case isFalse => rfl

end Ownership

namespace Segment

variable {schema : Schema} {config : Config} {caller : Caller} {v : Json} {b f : Body}

/-! ## One segment -/

theorem prepareOne_eq_ok_iff :
    prepareOne schema v = .ok f ↔
      ∃ members, v = .object members ∧
        (∀ key ∈ (Body.ofObject members).keys, schema.declares key = true) ∧
        ∃ filled, Request.fillDefaults schema true (Body.ofObject members) = .done filled ∧
          Request.convertValues schema filled = .done f := by
  cases v with
  | object members =>
    have hok : prepareOne schema (.object members) = .ok f ↔
        ((Request.verifyAttributes schema (Body.ofObject members)).andThen
          (Request.fillDefaults schema true)).andThen (Request.convertValues schema)
            = .done f := by
      rw [prepareOne, Outcome.eq_done_iff]
      split <;> simp_all
    rw [hok]
    simp only [Outcome.andThen_eq_done_iff, Request.verifyAttributes_eq_done_iff, Json.object.injEq,
      exists_eq_left']
    constructor
    · rintro ⟨filled, ⟨-, ⟨hdeclared, rfl⟩, hfill⟩, hconvert⟩
      exact ⟨hdeclared, filled, hfill, hconvert⟩
    · rintro ⟨hdeclared, filled, hfill, hconvert⟩
      exact ⟨filled, ⟨_, ⟨hdeclared, rfl⟩, hfill⟩, hconvert⟩
  | _ => simp [prepareOne]

/-- Filling in defaults and converting neither add nor drop what is not declared. -/
theorem declared_iff_of_stages {checkAllowPost : Bool} {filled : Body}
    (hfill : Request.fillDefaults schema checkAllowPost b = .done filled)
    (hconvert : Request.convertValues schema filled = .done f) :
    (∀ key ∈ f.keys, schema.declares key = true) ↔
      ∀ key ∈ b.keys, schema.declares key = true := by
  have hsame : ∀ key, schema.declares key = false → (key ∈ f.keys ↔ key ∈ b.keys) := by
    intro key hkey
    have hspec : schema.spec? key = none := by
      simpa [Schema.declares, Dict.contains_eq, Schema.spec?] using hkey
    rw [Dict.mem_keys_iff, Dict.mem_keys_iff, Dict.contains_eq, Dict.contains_eq,
      (Request.convertValues_eq_done_iff.1 hconvert).undeclared hspec,
      (Request.fillDefaults_eq_done_iff.1 hfill).undeclared hspec]
  constructor
  all_goals
    intro hall key hmem
    by_contra hnot
    rw [Bool.not_eq_true] at hnot
    have hdeclared := hall key (by simpa only [hsame key hnot] using hmem)
    simp [hnot] at hdeclared

/-- The segment is an object that can be created under the schema, and this is what is prepared. -/
def Created (schema : Schema) (config : Config) (caller : Caller) (v : Json) (b : Body) : Prop :=
  ∃ members, v = .object members ∧
    Request.prepare schema config caller .create (.ofObject members) = .done b

section Unscoped

variable (caller : Caller) (hscope : schema.isProjectScoped = false)
  (hpost : config.checkAllowPost = true) (hverify : config.verifyAttributes = true)

include hscope hpost hverify

theorem prepareOne_eq_ok_iff_created :
    prepareOne schema v = .ok f ↔ Created schema config caller v f := by
  rw [prepareOne_eq_ok_iff, Created]
  refine exists_congr fun members => and_congr_right fun _ => ?_
  rw [Request.prepare_create_eq_done_iff, hpost]
  constructor
  · rintro ⟨hdeclared, filled, hfill, hconvert⟩
    -- A spelling of the owner is not declared, so the body does not mention it.
    have hnone : ∀ key ∈ Ownership.keys, (Body.ofObject members).isSupplied key = false := by
      intro key hkey
      by_contra hsupplied
      rw [Bool.not_eq_false] at hsupplied
      have hmem := Dict.mem_keys_iff.2 (Body.contains_of_isSupplied hsupplied)
      simp [Ownership.isProjectScoped_of_declares hkey (hdeclared key hmem)] at hscope
    exact ⟨_, filled, Ownership.settle_of_unscoped hscope hnone, hfill, hconvert,
      fun _ => (declared_iff_of_stages hfill hconvert).2 hdeclared⟩
  · rintro ⟨settled, filled, hsettle, hfill, hconvert, hdeclared⟩
    obtain rfl := Ownership.eq_of_settle_of_unscoped hscope hsettle
    exact ⟨(declared_iff_of_stages hfill hconvert).1 (hdeclared hverify), filled, hfill, hconvert⟩

/-! ## All segments -/

variable {segments : List Json}

theorem prepare_eq_ok_iff_created {bodies : List Body} :
    prepare schema segments = .ok bodies ↔
      List.Forall₂ (Created schema config caller) segments bodies := by
  rw [prepare, Traversal.mapM_eq_ok_iff]
  simp only [prepareOne_eq_ok_iff_created caller hscope hpost hverify]

theorem exists_prepare_iff_created :
    (∃ bodies, prepare schema segments = .ok bodies) ↔
      ∀ v ∈ segments, ∃ b, Created schema config caller v b := by
  simp only [prepare, Traversal.exists_mapM_eq_ok_iff,
    prepareOne_eq_ok_iff_created caller hscope hpost hverify]

/-- Segments are refused for the first one that cannot be created. -/
theorem prepare_eq_error_iff_created {e : RequestError} :
    prepare schema segments = .error e ↔
      ∃ pre v post, segments = pre ++ v :: post ∧
        (∀ u ∈ pre, ∃ b, Created schema config caller u b) ∧
        (¬ ∃ b, Created schema config caller v b) ∧ prepareOne schema v = .error e := by
  have hfirst : ∀ v, prepareOne schema v = .error e ↔
      (¬ ∃ b, Created schema config caller v b) ∧ prepareOne schema v = .error e := by
    intro v
    simp only [← prepareOne_eq_ok_iff_created caller hscope hpost hverify]
    cases prepareOne schema v <;> simp
  rw [prepare, Traversal.mapM_eq_error_iff]
  simp only [prepareOne_eq_ok_iff_created caller hscope hpost hverify, ← hfirst]

end Unscoped

/-- What refuses a segment refuses it whatever follows. -/
theorem prepare_eq_error_of_first {pre : List Json} {e : RequestError}
    (hpre : ∀ u ∈ pre, ∃ b, prepareOne schema u = .ok b) (hv : prepareOne schema v = .error e)
    (later : List Json) : prepare schema (pre ++ v :: later) = .error e :=
  Traversal.mapM_eq_error_iff.2 ⟨pre, v, later, rfl, hpre, hv⟩

/-- **Segments are prepared like creations.** Under a schema that declares no owner, segments are
accepted if each of them is an object that can be created, by whichever caller, and the bodies are
those of the creations, one for each segment. Otherwise the error is that of the first segment that
cannot be created, and what follows that segment does not matter. -/
theorem prepare_like_creations (schema : Schema) (config : Config) (caller : Caller)
    (segments : List Json) (htenant : schema.declares Schema.tenantKey = false)
    (hproject : schema.declares Schema.projectKey = false)
    (hpost : config.checkAllowPost = true) (hverify : config.verifyAttributes = true) :
    (∀ bodies, prepare schema segments = .ok bodies ↔
        List.Forall₂ (Created schema config caller) segments bodies) ∧
      ((∃ bodies, prepare schema segments = .ok bodies) ↔
        ∀ v ∈ segments, ∃ b, Created schema config caller v b) ∧
      ∀ e, prepare schema segments = .error e ↔
        ∃ pre v post, segments = pre ++ v :: post ∧
          (∀ u ∈ pre, ∃ b, Created schema config caller u b) ∧
          (¬ ∃ b, Created schema config caller v b) ∧ prepareOne schema v = .error e ∧
          ∀ later, prepare schema (pre ++ v :: later) = .error e := by
  have hscope : schema.isProjectScoped = false := by
    simp [Schema.isProjectScoped, htenant, hproject]
  refine ⟨fun bodies => prepare_eq_ok_iff_created caller hscope hpost hverify,
    exists_prepare_iff_created caller hscope hpost hverify, fun e => ?_⟩
  rw [prepare_eq_error_iff_created caller hscope hpost hverify]
  constructor
  · rintro ⟨pre, v, post, hsplit, hpre, hrefused, hv⟩
    refine ⟨pre, v, post, hsplit, hpre, hrefused, hv, prepare_eq_error_of_first ?_ hv⟩
    simpa only [prepareOne_eq_ok_iff_created caller hscope hpost hverify] using hpre
  · rintro ⟨pre, v, post, hsplit, hpre, hrefused, hv, -⟩
    exact ⟨pre, v, post, hsplit, hpre, hrefused, hv⟩

/-- A segment with a number that is sent as a text, and one without a number. -/
theorem prepare_like_creations_networks :
    let vlan := Json.object
      [("provider:network_type", .string "vlan"), ("provider:segmentation_id", .string "101")]
    let flat := Json.object
      [("provider:network_type", .string "flat"), ("provider:segmentation_id", .null)]
    List.Forall₂ (Created Segment.schema {} .anonymous) [vlan, flat]
      [Dict.ofPairs
        [("provider:network_type", .value (.string "vlan")),
          ("provider:physical_network", .unspecified),
          ("provider:segmentation_id", .value (.ofInt 101))],
        Dict.ofPairs
        [("provider:network_type", .value (.string "flat")),
          ("provider:physical_network", .unspecified),
          ("provider:segmentation_id", .unspecified)]] := by
  intro vlan flat
  have hall := prepare_like_creations Segment.schema {} .anonymous [vlan, flat] (by cbv) (by cbv)
    rfl rfl
  exact (hall.1 _).1 (by cbv)

end Segment

end AttributeSchema
