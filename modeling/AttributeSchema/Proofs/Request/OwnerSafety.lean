import AttributeSchema.Proofs.Request.Attribute
import AttributeSchema.Proofs.Request.Settlement

/-!
# Safety of ownership

A caller without privileges never obtains a prepared body that names a foreign project. The
settlement lets only the own project of the caller through, and the later stages can neither rewrite
it nor bring in another one, as long as the specifications of the owner convert nothing and keep
null. Main statement: `Request.names_own_of_prepare`.
-/

namespace AttributeSchema

/-- The caller is neither an administrator nor a trusted service. -/
structure Caller.Unprivileged (caller : Caller) : Prop where
  flag : caller.adminFlag = false
  admin : Caller.adminRole ∉ caller.roles
  service : ∀ role ∈ caller.roles, role ∉ caller.serviceRoles

theorem Caller.Unprivileged.mayActForOthers {caller : Caller} (h : caller.Unprivileged) :
    caller.mayActForOthers = false := by
  have hadmin : caller.isAdmin = false := by
    simp [isAdmin, hasRole, h.flag, h.admin]
  have hservice : caller.isService = false := by
    rw [isService, List.any_eq_false]
    intro role hrole hhas
    exact h.service role (by simpa [hasRole] using hhas) hrole
  simp [Caller.mayActForOthers, hadmin, hservice]

/-- The specifications of the owner that the schema declares convert nothing and keep null. -/
def Schema.KeepsOwner (schema : Schema) : Prop :=
  ∀ key ∈ Ownership.keys, ∀ spec, schema.spec? key = some spec →
    spec.convertTo = none ∧ spec.convertListTo = none ∧ spec.defaultOverridesNull = false

namespace Ownership

variable {schema : Schema} {caller : Caller} {b f : Body}

/-- The spellings that are supplied name the project of the caller. -/
def NamesOwn (caller : Caller) (b : Body) : Prop :=
  ∀ key ∈ keys, b.isSupplied key = false ∨ (b.slot key).toJson? = some (own caller)

theorem isScalar_own (caller : Caller) : (own caller).isScalar = true := by
  unfold own
  split <;> rfl

theorem own_ne_object (caller : Caller) (ms : List (String × Json)) : own caller ≠ .object ms := by
  unfold own
  split <;> simp

theorem namesOwn_of_settled {creating : Bool} (h : Settled schema caller creating b)
    (hcaller : caller.Unprivileged) : NamesOwn caller b := by
  have hforeign : namesForeign caller b = false := by
    cases hnames : namesForeign caller b with
    | false => rfl
    | true =>
      have hmay := h.allowed hnames
      simp [hcaller.mayActForOthers] at hmay
  intro key hkey
  cases hv : (b.slot key).toJson? with
  | none => exact Or.inl (Body.toJson?_eq_none_iff.1 hv)
  | some v => exact Or.inr (by rw [namesForeign_eq_false_iff.1 hforeign key hkey v hv])

end Ownership

namespace Request

open Ownership

variable {schema : Schema} {config : Config} {caller : Caller} {action : Action} {b f : Body}

/-- Filling in defaults keeps the owner that the settlement put in place. -/
theorem namesOwn_of_fillDefaults {checkAllowPost : Bool} (hkeeps : schema.KeepsOwner)
    (hsettled : Settled schema caller true b) (hb : NamesOwn caller b)
    (h : fillDefaults schema checkAllowPost b = .done f) : NamesOwn caller f := by
  have hslots := fillDefaults_eq_done_iff.1 h
  intro key hkey
  cases hspec : schema.spec? key with
  | none =>
    have hsame := hslots.undeclared hspec
    rw [Body.isSupplied_congr hsame, Body.slot_congr hsame]
    exact hb key hkey
  | some spec =>
    obtain ⟨b', hb', hsame⟩ := hslots.declared hspec
    obtain ⟨-, -, hnull⟩ := hkeeps key hkey spec hspec
    have hdeclared : schema.declares key = true := by
      rw [Schema.declares, Dict.contains_eq]
      exact Option.isSome_iff_exists.2 ⟨spec, hspec⟩
    -- A declared spelling is supplied on creation, so its default has nothing to fill in.
    have hown : (b.slot key).toJson? = some (own caller) := by
      rcases hb key hkey with hnot | hown
      · simp [hsettled.isSupplied hkey hdeclared] at hnot
      · exact hown
    have hkept : ((createAttribute checkAllowPost key spec b).body.slot key).toJson?
        = some (own caller) := toJson?_createAttribute hown (own_ne_object caller) fun _ => hnull
    rw [hb'] at hkept
    rw [Body.slot_congr hsame]
    exact Or.inr hkept

/-- Converting the values keeps the owner. -/
theorem namesOwn_of_convertValues (hkeeps : schema.KeepsOwner) (hb : NamesOwn caller b)
    (h : convertValues schema b = .done f) : NamesOwn caller f := by
  have hslots := convertValues_eq_done_iff.1 h
  intro key hkey
  cases hspec : schema.spec? key with
  | none =>
    have hsame := hslots.undeclared hspec
    rw [Body.isSupplied_congr hsame, Body.slot_congr hsame]
    exact hb key hkey
  | some spec =>
    obtain ⟨b', hb', hsame⟩ := hslots.declared hspec
    obtain ⟨hto, hlist, -⟩ := hkeeps key hkey spec hspec
    rw [Body.isSupplied_congr hsame, Body.slot_congr hsame]
    rcases hb key hkey with hnot | hown
    · left
      rw [isSupplied_of_convertAttribute hb', hnot]
    · right
      exact toJson?_convertAttribute hto hlist hown (isScalar_own caller) hb'

/-- **Safety of ownership.** Whatever an unprivileged caller sends, a prepared body names no project
but the own one of the caller, and null where the caller has no project. -/
theorem names_own_of_prepare (schema : Schema) (config : Config) (caller : Caller) (action : Action)
    (b f : Body) (hkeeps : schema.KeepsOwner) (hcaller : caller.Unprivileged)
    (h : prepare schema config caller action b = .done f) :
    ∀ key ∈ Ownership.keys, f.isSupplied key = false ∨
      (f.slot key).toJson? =
        some (match caller.project? with
          | some project => Json.string project
          | none => Json.null) := by
  cases action with
  | create =>
    obtain ⟨settled, filled, hsettle, hfill, hconvert, -⟩ := prepare_create_eq_done_iff.1 h
    have hsettled := settled_of_settle hsettle
    have hfilled : NamesOwn caller filled :=
      namesOwn_of_fillDefaults hkeeps hsettled (namesOwn_of_settled hsettled hcaller) hfill
    exact namesOwn_of_convertValues hkeeps hfilled hconvert
  | update =>
    obtain ⟨settled, hsettle, -, hconvert, -⟩ := prepare_update_eq_done_iff.1 h
    have hsettled := settled_of_settle hsettle
    exact namesOwn_of_convertValues hkeeps (namesOwn_of_settled hsettled hcaller) hconvert

/-- A member of a project who names the own project under one spelling gets it under both. -/
theorem names_own_of_prepare_member :
    let spec : Spec := { allowPost := true }
    let schema : Schema := ⟨"ports", Dict.ofPairs [("tenant_id", spec), ("project_id", spec)]⟩
    let caller : Caller := ⟨.zero, some "p1", ["member"], false, Caller.defaultServiceRoles⟩
    let sent := Body.ofObject [("project_id", .string "p1")]
    let prepared := Body.ofObject [("tenant_id", .string "p1"), ("project_id", .string "p1")]
    schema.KeepsOwner ∧ caller.Unprivileged ∧
      prepare schema {} caller .create sent = .done prepared ∧
      ∀ key ∈ Ownership.keys, prepared.isSupplied key = false ∨
        (prepared.slot key).toJson? = some (.string "p1") := by
  intro spec schema caller sent prepared
  have hkeeps : schema.KeepsOwner := by
    intro key hkey s hs
    rcases mem_keys_iff.1 hkey with rfl | rfl
    · obtain rfl : spec = s := Option.some.inj hs
      exact ⟨rfl, rfl, rfl⟩
    · obtain rfl : spec = s := Option.some.inj hs
      exact ⟨rfl, rfl, rfl⟩
  have hcaller : caller.Unprivileged := ⟨rfl, by decide, by decide⟩
  have hprepare : prepare schema {} caller .create sent = .done prepared := by cbv
  exact ⟨hkeeps, hcaller, hprepare,
    names_own_of_prepare schema {} caller .create sent prepared hkeeps hcaller hprepare⟩

end Request

end AttributeSchema
