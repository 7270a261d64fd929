import AttributeSchema.Proofs.Json.Equality
import AttributeSchema.Proofs.Request.Settlement

/-!
# Who settles, who is refused

A settlement is refused for one of three reasons, looked for in this order: the two spellings name
different projects, a foreign project is named without privilege, or something that belongs to a
project is created and nobody names one. In all other cases it succeeds, and what it leaves of the two
spellings depends on what was sent under them and on the caller alone. Main statements:
`Ownership.error?_settle_eq_some_iff` and `Ownership.settlement_of_settle`.
-/

namespace AttributeSchema

theorem Slot.beq_eq_of_toJson? {s t : Slot} (hs : s.Proper) (ht : t.Proper) {v w : Json}
    (hv : s.toJson? = some v) (hw : t.toJson? = some w) : (s == t) = (v == w) := by
  rw [← ofJson_of_toJson? hs hv, ← ofJson_of_toJson? ht hw]
  cases v <;> cases w <;> rfl

namespace Body

/-- The body holds values as they are decoded: null in a state of its own, and no object that repeats
a key. -/
structure WellFormed (b : Body) : Prop where
  proper : b.Proper
  values : ∀ {key v}, (b.slot key).toJson? = some v → v.WellFormed

theorem wellFormed_ofObject {members : List (String × Json)} (h : ∀ m ∈ members, m.2.WellFormed) :
    (ofObject members).WellFormed where
  proper := proper_ofObject members
  values {key v} hv := by
    rcases slot_ofObject members key with hnone | ⟨w, hmem, hw⟩
    · simp [hnone, Slot.toJson?] at hv
    · rw [hw, Slot.toJson?_ofJson] at hv
      rw [← Option.some.inj hv]
      exact h _ hmem

/-- The state of an attribute is equal to itself. -/
theorem WellFormed.beq_slot_self {b : Body} (h : b.WellFormed) (key : String) :
    (b.slot key == b.slot key) = true := by
  cases hv : (b.slot key).toJson? with
  | some v =>
    rw [Slot.beq_eq_of_toJson? (h.proper key) (h.proper key) hv hv]
    exact Json.beq_self (h.values hv)
  | none =>
    cases hslot : b.slot key with
    | unspecified => rfl
    | _ => simp [hslot, Slot.toJson?] at hv

end Body

namespace Ownership

open Schema (tenantKey projectKey)

variable {schema : Schema} {caller : Caller} {creating : Bool} {b a f : Body} {key : String}

/-! ## What a body names -/

/-- Both spellings are supplied, with values that differ. -/
def Contradicts (b : Body) : Prop :=
  ∃ v w, (b.slot tenantKey).toJson? = some v ∧ (b.slot projectKey).toJson? = some w ∧
    (v == w) = false

/-- A project is named that is not the one of the caller, who may not act for others. -/
def Trespasses (caller : Caller) (b : Body) : Prop :=
  caller.mayActForOthers = false ∧
    ∃ key ∈ keys, ∃ v, (b.slot key).toJson? = some v ∧ v ≠ own caller

/-- Something that belongs to a project is created, and neither the body nor the caller names one. -/
def Ownerless (schema : Schema) (caller : Caller) (creating : Bool) (b : Body) : Prop :=
  creating = true ∧ (∀ key ∈ keys, b.isSupplied key = false) ∧
    (∃ key ∈ keys, schema.declares key = true) ∧ caller.project? = none

theorem not_contradicts_iff (hb : b.WellFormed) : ¬ Contradicts b ↔ Agree b := by
  have hbeq : ∀ {v w}, (b.slot tenantKey).toJson? = some v → (b.slot projectKey).toJson? = some w →
      (b.slot tenantKey == b.slot projectKey) = (v == w) :=
    Slot.beq_eq_of_toJson? (hb.proper tenantKey) (hb.proper projectKey)
  constructor
  · intro hnot htenant hproject
    obtain ⟨v, hv⟩ := Body.isSupplied_iff_toJson?.1 htenant
    obtain ⟨w, hw⟩ := Body.isSupplied_iff_toJson?.1 hproject
    rw [hbeq hv hw]
    cases heq : v == w with
    | true => rfl
    | false => exact absurd ⟨v, w, hv, hw, heq⟩ hnot
  · rintro hagree ⟨v, w, hv, hw, hne⟩
    have heq := hagree (Body.isSupplied_iff_toJson?.2 ⟨v, hv⟩)
      (Body.isSupplied_iff_toJson?.2 ⟨w, hw⟩)
    rw [hbeq hv hw, hne] at heq
    simp at heq

/-- Where the spellings agree, whatever they name is equal. -/
theorem beq_of_agree (hb : b.WellFormed) (hagree : Agree b) {j k : String} (hj : j ∈ keys)
    (hk : k ∈ keys) {v w : Json} (hv : (b.slot j).toJson? = some v)
    (hw : (b.slot k).toJson? = some w) : (v == w) = true := by
  have hsame : ∀ {v w}, (b.slot tenantKey).toJson? = some v →
      (b.slot projectKey).toJson? = some w → (v == w) = true := by
    intro v w hv hw
    rw [← Slot.beq_eq_of_toJson? (hb.proper tenantKey) (hb.proper projectKey) hv hw]
    exact hagree (Body.isSupplied_iff_toJson?.2 ⟨v, hv⟩) (Body.isSupplied_iff_toJson?.2 ⟨w, hw⟩)
  rcases mem_keys_iff.1 hj with rfl | rfl <;> rcases mem_keys_iff.1 hk with rfl | rfl
  · obtain rfl : v = w := Option.some.inj (hv.symm.trans hw)
    exact Json.beq_self (hb.values hv)
  · exact hsame hv hw
  · exact Json.beq_symm (hb.values hw) (hsame hw hv)
  · obtain rfl : v = w := Option.some.inj (hv.symm.trans hw)
    exact Json.beq_self (hb.values hv)

theorem isProjectScoped_iff :
    schema.isProjectScoped = true ↔ ∃ key ∈ keys, schema.declares key = true := by
  simp [Schema.isProjectScoped, keys]

theorem wellFormed_own (caller : Caller) : (own caller).WellFormed := by
  unfold own
  split
  · exact .string _
  · exact .null

/-! ## What the alignment keeps -/

/-- Each declared spelling holds, after the alignment, a value equal to each one that was sent. -/
theorem exists_beq_of_align (hb : b.WellFormed) (halign : align schema b = .done a)
    (hkey : key ∈ keys) (hdeclared : schema.declares key = true) {k : String} (hk : k ∈ keys)
    {v : Json} (hv : (b.slot k).toJson? = some v) :
    ∃ w, (a.slot key).toJson? = some w ∧ (w == v) = true := by
  have hsupplied : a.isSupplied key = true := by
    have hsent : b.isSupplied k = true := Body.isSupplied_iff_toJson?.2 ⟨v, hv⟩
    rw [isSupplied_of_align halign hkey hdeclared]
    rcases mem_keys_iff.1 hk with rfl | rfl <;> simp [hsent]
  obtain ⟨j, hj, -, hslot⟩ := exists_slot_of_align halign hkey hsupplied
  obtain ⟨w, hw⟩ := Body.isSupplied_iff_toJson?.1 hsupplied
  exact ⟨w, hw, beq_of_agree hb (align_eq_done_iff.1 halign).1 hj hk (hslot ▸ hw) hv⟩

/-- The alignment brings in no foreign project and drops none. -/
theorem namesForeign_of_align (hb : b.WellFormed) (halign : align schema b = .done a) :
    namesForeign caller a = namesForeign caller b := by
  have hiff : namesForeign caller a = false ↔ namesForeign caller b = false := by
    rw [namesForeign_eq_false_iff, namesForeign_eq_false_iff]
    constructor
    · intro ha k hk v hv
      by_cases hscoped : schema.isProjectScoped = true
      · obtain ⟨key, hkey, hdeclared⟩ := isProjectScoped_iff.1 hscoped
        obtain ⟨w, hw, heq⟩ := exists_beq_of_align hb halign hkey hdeclared hk hv
        obtain rfl := ha key hkey w hw
        exact beq_own_iff.1 (Json.beq_symm (wellFormed_own caller) heq)
      · obtain ⟨-, rfl⟩ := align_eq_done_iff.1 halign
        rw [if_neg hscoped] at ha
        exact ha k hk v hv
    · intro hsent key hkey v hv
      obtain ⟨k, hk, -, hslot⟩ :=
        exists_slot_of_align halign hkey (Body.isSupplied_iff_toJson?.2 ⟨v, hv⟩)
      exact hsent k hk v (hslot ▸ hv)
  cases ha : namesForeign caller a <;> cases hsent : namesForeign caller b <;> simp_all

/-! ## Refusals -/

/-- Why a settlement is refused. A contradiction comes before a trespass, and that before the want
of an owner. -/
inductive Refused (schema : Schema) (caller : Caller) (creating : Bool) (b : Body) :
    RequestError → Prop
  | differ (h : Contradicts b) : Refused schema caller creating b .ownersDiffer
  | foreign (hagree : ¬ Contradicts b) (h : Trespasses caller b) :
      Refused schema caller creating b .foreignOwner
  | ownerless (hagree : ¬ Contradicts b) (hown : ¬ Trespasses caller b)
      (h : Ownerless schema caller creating b) : Refused schema caller creating b .noOwner

theorem align_of_contradicts (hb : b.WellFormed) (h : Contradicts b) :
    align schema b = .fail b .ownersDiffer := by
  obtain ⟨v, w, hv, hw, hne⟩ := h
  have hslots : (b.slot tenantKey != b.slot projectKey) = true := by
    rw [bne, Slot.beq_eq_of_toJson? (hb.proper tenantKey) (hb.proper projectKey) hv hw, hne]
    rfl
  rw [align, Body.isSupplied_iff_toJson?.2 ⟨v, hv⟩, Body.isSupplied_iff_toJson?.2 ⟨w, hw⟩, hslots]
  rfl

theorem exists_align_of_not_contradicts (hb : b.WellFormed) (h : ¬ Contradicts b) :
    ∃ a, align schema b = .done a :=
  ⟨_, align_eq_done_iff.2 ⟨(not_contradicts_iff hb).1 h, rfl⟩⟩

theorem trespasses_iff :
    Trespasses caller b ↔ (namesForeign caller b && !caller.mayActForOthers) = true := by
  have hforeign : (∃ key ∈ keys, ∃ v, (b.slot key).toJson? = some v ∧ v ≠ own caller) ↔
      namesForeign caller b = true := by
    rw [← Bool.not_eq_false, namesForeign_eq_false_iff]
    simp only [not_forall, exists_prop]
  rw [Trespasses, hforeign, Bool.and_eq_true, Bool.not_eq_true', and_comm]

/-- What comes after an alignment: a refusal, or the last step, which assigns an owner. -/
theorem settle_of_align (hb : b.WellFormed) (halign : align schema b = .done a) :
    settle schema caller creating b =
      if namesForeign caller b && !caller.mayActForOthers then .fail a .foreignOwner
      else if creating then assignOwn schema caller a else .done a := by
  rw [settle, halign, Outcome.andThen_done, namesForeign_of_align hb halign]

/-- When the assignment of an owner is refused. -/
theorem error?_assignOwn_eq_some_iff {e : RequestError} :
    (assignOwn schema caller a).error? = some e ↔
      (∀ key ∈ keys, a.isSupplied key = false) ∧ schema.isProjectScoped = true ∧
        caller.project? = none ∧ .noOwner = e := by
  simp only [assignOwn, keys, List.forall_mem_cons, List.not_mem_nil, false_implies, implies_true,
    and_true]
  cases ht : a.isSupplied tenantKey <;> cases hp : a.isSupplied projectKey <;>
    cases hproject : caller.project? <;> cases hscoped : schema.isProjectScoped <;>
      simp [Outcome.fail, Outcome.done]

/-- The alignment supplies no declared spelling exactly where none was supplied. -/
theorem forall_not_isSupplied_align_iff (halign : align schema b = .done a)
    (hscoped : schema.isProjectScoped = true) :
    (∀ key ∈ keys, a.isSupplied key = false) ↔ ∀ key ∈ keys, b.isSupplied key = false := by
  obtain ⟨key, hkey, hdeclared⟩ := isProjectScoped_iff.1 hscoped
  have hor := isSupplied_or_of_align halign hkey hdeclared
  have hnone : ∀ c : Body, (∀ key ∈ keys, c.isSupplied key = false) ↔
      (c.isSupplied tenantKey || c.isSupplied projectKey) = false := by
    intro c
    simp [keys]
  rw [hnone, hnone, hor]

theorem ownerless_iff (halign : align schema b = .done a) :
    Ownerless schema caller true b ↔
      (∀ key ∈ keys, a.isSupplied key = false) ∧ schema.isProjectScoped = true ∧
        caller.project? = none := by
  rw [Ownerless, ← isProjectScoped_iff]
  constructor
  · rintro ⟨-, hnone, hscoped, hproject⟩
    exact ⟨(forall_not_isSupplied_align_iff halign hscoped).2 hnone, hscoped, hproject⟩
  · rintro ⟨hnone, hscoped, hproject⟩
    exact ⟨rfl, (forall_not_isSupplied_align_iff halign hscoped).1 hnone, hscoped, hproject⟩

/-- **Settlements fail for these reasons, with these errors, and for no others.** -/
theorem error?_settle_eq_some_iff (hb : b.WellFormed) {e : RequestError} :
    (settle schema caller creating b).error? = some e ↔ Refused schema caller creating b e := by
  -- The reasons are taken in the order in which a settlement looks for them; each one is only looked
  -- for where those before it are absent.
  by_cases hcontradicts : Contradicts b
  · rw [settle, align_of_contradicts hb hcontradicts, Outcome.andThen_fail]
    constructor
    · intro h
      obtain rfl : RequestError.ownersDiffer = e := Option.some.inj h
      exact .differ hcontradicts
    · rintro (- | ⟨hagree, -⟩ | ⟨hagree, -, -⟩)
      · rfl
      · exact absurd hcontradicts hagree
      · exact absurd hcontradicts hagree
  obtain ⟨a, halign⟩ : ∃ a, align schema b = .done a :=
    exists_align_of_not_contradicts hb hcontradicts
  rw [settle_of_align hb halign]
  by_cases htrespasses : Trespasses caller b
  · rw [if_pos (trespasses_iff.1 htrespasses)]
    constructor
    · intro h
      obtain rfl : RequestError.foreignOwner = e := Option.some.inj h
      exact .foreign hcontradicts htrespasses
    · rintro (hdiffer | - | ⟨-, hown, -⟩)
      · exact absurd hdiffer hcontradicts
      · rfl
      · exact absurd htrespasses hown
  rw [if_neg fun h => htrespasses (trespasses_iff.2 h)]
  cases creating with
  | false =>
    constructor
    · intro h
      simp [Outcome.done] at h
    · rintro (hdiffer | ⟨-, hforeign⟩ | ⟨-, -, hcreating, -⟩)
      · exact absurd hdiffer hcontradicts
      · exact absurd hforeign htrespasses
      · simp at hcreating
  | true =>
    rw [if_pos rfl, error?_assignOwn_eq_some_iff]
    constructor
    · rintro ⟨hnone, hscoped, hproject, rfl⟩
      exact .ownerless hcontradicts htrespasses
        ((ownerless_iff halign).2 ⟨hnone, hscoped, hproject⟩)
    · rintro (hdiffer | ⟨-, hforeign⟩ | ⟨-, -, hownerless⟩)
      · exact absurd hdiffer hcontradicts
      · exact absurd hforeign htrespasses
      · obtain ⟨hnone, hscoped, hproject⟩ := (ownerless_iff halign).1 hownerless
        exact ⟨hnone, hscoped, hproject, rfl⟩

/-- A settlement is refused for some reason exactly when one of the three reasons is there. -/
theorem exists_refused_iff :
    (∃ e, Refused schema caller creating b e) ↔
      Contradicts b ∨ Trespasses caller b ∨ Ownerless schema caller creating b := by
  constructor
  · rintro ⟨e, hdiffer | ⟨-, hforeign⟩ | ⟨-, -, hownerless⟩⟩
    · exact Or.inl hdiffer
    · exact Or.inr (Or.inl hforeign)
    · exact Or.inr (Or.inr hownerless)
  · intro h
    by_cases hcontradicts : Contradicts b
    · exact ⟨_, .differ hcontradicts⟩
    by_cases htrespasses : Trespasses caller b
    · exact ⟨_, .foreign hcontradicts htrespasses⟩
    rcases h with hdiffer | hforeign | hownerless
    · exact absurd hdiffer hcontradicts
    · exact absurd hforeign htrespasses
    · exact ⟨_, .ownerless hcontradicts htrespasses hownerless⟩

/-! ## What a settlement that succeeds makes of the owner -/

/-- What is settled, and how it follows from what was sent. -/
structure Settlement (schema : Schema) (caller : Caller) (creating : Bool) (sent settled : Body) :
    Prop where
  /-- Where no spelling is declared nothing changes. -/
  unscoped : (∀ key ∈ keys, schema.declares key = false) → settled = sent
  /-- Where one is declared, the spelling that is not is gone. -/
  dropped : (∃ key ∈ keys, schema.declares key = true) →
    ∀ key ∈ keys, schema.declares key = false → settled.contains key = false
  /-- A declared spelling holds a value equal to what was sent under either. -/
  carried : ∀ key ∈ keys, schema.declares key = true → ∀ k ∈ keys, ∀ v,
    (sent.slot k).toJson? = some v → ∃ w, (settled.slot key).toJson? = some w ∧ (w == v) = true
  /-- When nothing was sent under either, a creation gives it the project of the caller. -/
  assigned : creating = true → (∀ k ∈ keys, sent.isSupplied k = false) →
    ∀ key ∈ keys, schema.declares key = true → ∃ project, caller.project? = some project ∧
      (settled.slot key).toJson? = some (.string project)
  /-- When nothing was sent under either, an update supplies nothing. -/
  missing : creating = false → (∀ k ∈ keys, sent.isSupplied k = false) →
    ∀ key ∈ keys, settled.isSupplied key = false
  /-- All other attributes are as they were. -/
  frame : ∀ key ∉ keys, settled.get? key = sent.get? key
  /-- Settling again changes nothing. -/
  again : settle schema caller creating settled = .done settled

theorem settlement_of_settle (hb : b.WellFormed) (h : settle schema caller creating b = .done f) :
    Settlement schema caller creating b f := by
  obtain ⟨a, halign, -, hcases⟩ := cases_of_settle h
  have hsettled := settled_of_settle h
  constructor
  case unscoped =>
    intro hnone
    have hscoped : ¬ schema.isProjectScoped = true := by
      rw [isProjectScoped_iff]
      rintro ⟨key, hkey, hdeclared⟩
      simp [hnone key hkey] at hdeclared
    obtain ⟨-, rfl⟩ := align_eq_done_iff.1 halign
    rw [if_neg hscoped] at hcases
    obtain ⟨rfl, -⟩ | ⟨project, -, -, -, rfl⟩ := hcases
    · rfl
    · ext key
      rw [get?_assign, if_neg]
      rintro ⟨hkey, hdeclared⟩
      simp [hnone key hkey] at hdeclared
  case dropped =>
    intro hscoped key hkey hdeclared
    rw [Dict.contains_eq, hsettled.dropped (isProjectScoped_iff.2 hscoped) key hkey hdeclared]
    rfl
  case carried =>
    intro key hkey hdeclared k hk v hv
    obtain ⟨w, hw, heq⟩ := exists_beq_of_align hb halign hkey hdeclared hk hv
    obtain ⟨rfl, -⟩ | ⟨project, -, -, hnone, -⟩ := hcases
    · exact ⟨w, hw, heq⟩
    · -- Nothing would have been assigned, since the alignment carried the value over.
      simp [Body.toJson?_eq_none_iff.2 (hnone key hkey)] at hw
  case assigned =>
    intro hcreating hnone key hkey hdeclared
    obtain ⟨rfl, howned⟩ | ⟨project, -, hproject, -, rfl⟩ := hcases
    · have hscoped := isProjectScoped_of_declares hkey hdeclared
      have hmissing := (forall_not_isSupplied_align_iff halign hscoped).2 hnone
      simp [hmissing tenantKey tenantKey_mem, hmissing projectKey projectKey_mem, hcreating,
        hscoped] at howned
    · refine ⟨project, hproject, ?_⟩
      rw [slot_assign hkey, if_pos hdeclared, Slot.toJson?_ofJson]
  case missing =>
    intro hcreating hnone key hkey
    obtain ⟨rfl, -⟩ | ⟨project, htrue, -, -, -⟩ := hcases
    · cases hsupplied : a.isSupplied key with
      | false => rfl
      | true =>
        obtain ⟨k, hk, hone, -⟩ := exists_slot_of_align halign hkey hsupplied
        simp [hnone k hk] at hone
    · simp [hcreating] at htrue
  case frame =>
    intro key hkey
    exact get?_settle_of_not_mem h hkey
  case again =>
    exact settle_of_settled hsettled (agree_of_settle h fun key _ => hb.beq_slot_self key)

/-! ## Decision and effect -/

/-- The outcome of a settlement, decided by what was sent and by the caller. -/
structure Decision (schema : Schema) (caller : Caller) (creating : Bool) (sent : Body) (o : Outcome) :
    Prop where
  /-- It fails for the three reasons only. -/
  fails : o.error? ≠ none ↔
    Contradicts sent ∨ Trespasses caller sent ∨ Ownerless schema caller creating sent
  /-- The error tells which reason came first. -/
  error : ∀ e, o.error? = some e ↔ Refused schema caller creating sent e
  /-- A contradiction leaves the body as it was. -/
  intact : Contradicts sent → o.body = sent
  /-- A failure touches nothing but the two spellings. -/
  frame : o.error? ≠ none → ∀ key ∉ keys, o.body.get? key = sent.get? key
  settled : o.error? = none → Settlement schema caller creating sent o.body

/-- **Settlements are decided by what was sent and by the caller**, and so is their effect. No object
in the values repeats a key, as in every map from keys. -/
theorem decision_settle (schema : Schema) (caller : Caller) (creating : Bool)
    (members : List (String × Json)) (hmembers : ∀ m ∈ members, m.2.WellFormed) :
    Decision schema caller creating (.ofObject members)
      (settle schema caller creating (.ofObject members)) := by
  have hsent := Body.wellFormed_ofObject hmembers
  have herror : ∀ e, (settle schema caller creating (.ofObject members)).error? = some e ↔
      Refused schema caller creating (.ofObject members) e :=
    fun e => error?_settle_eq_some_iff hsent
  constructor
  case fails =>
    rw [← exists_refused_iff, Option.ne_none_iff_exists']
    exact exists_congr herror
  case error => exact herror
  case intact =>
    intro hcontradicts
    rw [settle, align_of_contradicts hsent hcontradicts]
    rfl
  case frame =>
    intro _ key hkey
    exact get?_body_settle hkey
  case settled =>
    intro hnone
    exact settlement_of_settle hsent (Outcome.eq_done_iff.2 ⟨hnone, rfl⟩)

/-- The spelling that is not declared is folded into the one that is. -/
theorem decision_settle_router :
    let schema : Schema := ⟨"routers", Dict.ofPairs [("tenant_id", { allowPost := true })]⟩
    let caller : Caller := ⟨.zero, some "p1", [], false, []⟩
    let sent := Body.ofObject [("project_id", .string "p1")]
    settle schema caller true sent = .done (.ofObject [("tenant_id", .string "p1")]) ∧
      Decision schema caller true sent (settle schema caller true sent) := by
  intro schema caller sent
  have hsettle : settle schema caller true sent =
      .done (.ofObject [("tenant_id", .string "p1")]) := rfl
  refine ⟨hsettle, decision_settle schema caller true [("project_id", .string "p1")] ?_⟩
  intro m hm
  obtain rfl := List.mem_singleton.1 hm
  exact .string "p1"

/-! ## Owners -/

/-- Some declared spelling of the owner holds a value other than null. -/
def HasOwner (schema : Schema) (b : Body) : Prop :=
  ∃ key ∈ keys, schema.declares key = true ∧ ∃ v, (b.slot key).toJson? = some v ∧ v ≠ .null

/-- **Who creates with an owner.** Something that belongs to a project is created with an owner
exactly when null was sent under neither spelling. A null counts as supplied, so it is neither refused
nor replaced by the project of the caller. -/
theorem hasOwner_iff_of_settle (schema : Schema) (caller : Caller) (members : List (String × Json))
    (f : Body) (hmembers : ∀ m ∈ members, m.2.WellFormed)
    (hscoped : ∃ key ∈ keys, schema.declares key = true)
    (h : settle schema caller true (.ofObject members) = .done f) :
    HasOwner schema f ↔ ∀ key ∈ keys, ((Body.ofObject members).slot key).toJson? ≠ some .null := by
  have hsettlement := settlement_of_settle (Body.wellFormed_ofObject hmembers) h
  constructor
  · rintro ⟨key, hkey, hdeclared, v, hv, hne⟩ k hk hnull
    obtain ⟨w, hw, heq⟩ := hsettlement.carried key hkey hdeclared k hk .null hnull
    obtain rfl : v = w := Option.some.inj (hv.symm.trans hw)
    exact hne (Json.beq_null_iff.1 heq)
  · intro hnull
    obtain ⟨key, hkey, hdeclared⟩ := hscoped
    by_cases hnone : ∀ k ∈ keys, (Body.ofObject members).isSupplied k = false
    · obtain ⟨project, -, hproject⟩ := hsettlement.assigned rfl hnone key hkey hdeclared
      exact ⟨key, hkey, hdeclared, _, hproject, by simp⟩
    · -- What was sent under some spelling is not null, and neither is what equals it.
      obtain ⟨k, hk, v, hv⟩ :
          ∃ k ∈ keys, ∃ v, ((Body.ofObject members).slot k).toJson? = some v := by
        simpa [Body.isSupplied_iff_toJson?] using hnone
      obtain ⟨w, hw, heq⟩ := hsettlement.carried key hkey hdeclared k hk v hv
      refine ⟨key, hkey, hdeclared, w, hw, ?_⟩
      rintro rfl
      have hsymm := Json.beq_symm .null heq
      rw [Json.beq_null_iff] at hsymm
      exact hnull k hk (hsymm ▸ hv)

/-- A privileged caller creates for the project that it names. -/
theorem hasOwner_iff_of_settle_service :
    let schema : Schema := ⟨"routers", Dict.ofPairs [("tenant_id", { allowPost := true })]⟩
    let caller : Caller := ⟨.zero, none, ["service"], false, Caller.defaultServiceRoles⟩
    let sent := Body.ofObject [("tenant_id", .string "p2")]
    settle schema caller true sent = .done sent ∧
      (HasOwner schema sent ↔ ∀ key ∈ keys, (sent.slot key).toJson? ≠ some .null) := by
  intro schema caller sent
  have hsettle : settle schema caller true sent = .done sent := rfl
  refine ⟨hsettle, hasOwner_iff_of_settle schema caller _ sent ?_
    ⟨tenantKey, tenantKey_mem, by decide⟩ hsettle⟩
  intro m hm
  obtain rfl := List.mem_singleton.1 hm
  exact .string "p2"

/-- Without a project and without privileges, something that belongs to a project is created by
sending null as its owner. -/
theorem not_hasOwner_of_null_owner :
    ¬ ∀ (schema : Schema) (caller : Caller) (members : List (String × Json)) (f : Body),
      (∀ m ∈ members, m.2.WellFormed) → (∃ key ∈ keys, schema.declares key = true) →
      settle schema caller true (.ofObject members) = .done f → HasOwner schema f := by
  intro hall
  have hmembers : ∀ m ∈ [(tenantKey, Json.null)], m.2.WellFormed := by
    intro m hm
    obtain rfl := List.mem_singleton.1 hm
    exact .null
  obtain ⟨key, -, -, v, hv, hne⟩ :=
    hall ⟨"routers", Dict.ofPairs [(tenantKey, { allowPost := true })]⟩ .anonymous
      [(tenantKey, .null)] (.ofObject [(tenantKey, .null)]) hmembers
      ⟨tenantKey, tenantKey_mem, by decide⟩ rfl
  rcases Body.slot_ofObject [(tenantKey, Json.null)] key with hnone | ⟨w, hmem, hw⟩
  · simp [hnone, Slot.toJson?] at hv
  · obtain ⟨-, rfl⟩ := Prod.mk.inj (List.mem_singleton.1 hmem)
    rw [hw, Slot.toJson?_ofJson] at hv
    exact hne (Option.some.inj hv).symm

end Ownership

end AttributeSchema
