import AttributeSchema.Proofs.Request.Stages
import AttributeSchema.Request.Ownership

/-!
# Settlement of ownership

The state of the two spellings of the owner after a settlement that succeeds: a spelling that the
schema does not declare is gone, two declared spellings stand or fall together, and no foreign
project is named without privilege. A body in that state whose two spellings agree is settled
already. Main statements: `Ownership.settled_of_settle` and `Ownership.settle_of_settled`.
-/

namespace AttributeSchema

/-! ## Values compared with a project -/

namespace Json

theorem beq_string_iff {v : Json} {s : String} : (v == .string s) = true ↔ v = .string s := by
  rw [beq_def]
  cases v <;> simp [same]

theorem beq_null_iff {v : Json} : (v == .null) = true ↔ v = .null := by
  rw [beq_def]
  cases v <;> simp [same]

end Json

theorem Body.isSupplied_insert (b : Body) (key k : String) (s : Slot) :
    Body.isSupplied (b.insert key s) k = if k = key then s.isSupplied else b.isSupplied k := by
  unfold isSupplied
  rw [slot_insert]
  split <;> rfl

namespace Ownership

open Schema (tenantKey projectKey)

variable {schema : Schema} {caller : Caller} {creating : Bool} {b a f : Body} {key : String}

theorem mem_keys_iff : key ∈ keys ↔ key = tenantKey ∨ key = projectKey := by simp [keys]

theorem tenantKey_mem : tenantKey ∈ keys := by simp [keys]

theorem projectKey_mem : projectKey ∈ keys := by simp [keys]

theorem tenantKey_ne_projectKey : tenantKey ≠ projectKey := by decide

theorem beq_own_iff {v : Json} : (v == own caller) = true ↔ v = own caller := by
  unfold own
  split
  · exact Json.beq_string_iff
  · exact Json.beq_null_iff

/-- A body names no foreign project if what it names is the project of the caller. -/
theorem namesForeign_eq_false_iff :
    namesForeign caller b = false ↔
      ∀ key ∈ keys, ∀ v, (b.slot key).toJson? = some v → v = own caller := by
  unfold namesForeign
  rw [List.any_eq_false]
  refine forall_congr' fun key => forall_congr' fun _ => ?_
  cases hv : (b.slot key).toJson? with
  | none => simp
  | some w =>
    simp only [Option.some.injEq, bne, Bool.not_eq_true, Bool.not_eq_false']
    rw [beq_own_iff]
    simp

/-! ## The parts of a settlement -/

theorem get?_copyAcross_of_not_mem (hkey : key ∉ keys) : (copyAcross b).get? key = b.get? key := by
  have hne : key ≠ tenantKey ∧ key ≠ projectKey := by
    rw [mem_keys_iff] at hkey
    exact not_or.1 hkey
  unfold copyAcross
  split
  · rw [Dict.get?_insert, if_neg hne.2]
  · rw [Dict.get?_insert, if_neg hne.1]
  · rfl

/-- After copying across, both spellings are supplied if one was. -/
theorem isSupplied_copyAcross (hkey : key ∈ keys) :
    (copyAcross b).isSupplied key = (b.isSupplied tenantKey || b.isSupplied projectKey) := by
  have hne := tenantKey_ne_projectKey
  unfold copyAcross
  rcases mem_keys_iff.1 hkey with rfl | rfl
  · split
    case h_1 ht hp => simp [Body.isSupplied_insert, hne, ht]
    case h_2 ht hp =>
      rw [Body.isSupplied_insert, if_pos rfl, ht, hp]
      exact hp
    case h_3 h₁ h₂ =>
      cases ht : b.isSupplied tenantKey <;> cases hp : b.isSupplied projectKey <;> simp_all
  · split
    case h_1 ht hp =>
      rw [Body.isSupplied_insert, if_pos rfl, ht, hp]
      exact ht
    case h_2 ht hp => simp [Body.isSupplied_insert, hne.symm, hp]
    case h_3 h₁ h₂ =>
      cases ht : b.isSupplied tenantKey <;> cases hp : b.isSupplied projectKey <;> simp_all

/-- After copying across, a spelling is in the state that one of the two had. -/
theorem exists_slot_copyAcross (hkey : key ∈ keys) :
    ∃ k ∈ keys, (copyAcross b).slot key = b.slot k := by
  unfold copyAcross
  split
  · refine ⟨tenantKey, tenantKey_mem, ?_⟩
    rcases mem_keys_iff.1 hkey with rfl | rfl <;> simp [Body.slot_insert]
  · refine ⟨projectKey, projectKey_mem, ?_⟩
    rcases mem_keys_iff.1 hkey with rfl | rfl <;> simp [Body.slot_insert]
  · exact ⟨key, hkey, rfl⟩

theorem copyAcross_of_eq (h : b.isSupplied tenantKey = b.isSupplied projectKey) :
    copyAcross b = b := by
  unfold copyAcross
  rw [h]
  cases b.isSupplied projectKey <;> rfl

/-- What writing one state to some of the attributes in turn does to look-ups. -/
theorem get?_foldl {write : Body → String → Body} (affected : String → Bool) (state : Option Slot)
    (hwrite : ∀ b j k, (write b j).get? k = if k = j ∧ affected j = true then state else b.get? k)
    (js : List String) :
    (js.foldl write b).get? key =
      if key ∈ js ∧ affected key = true then state else b.get? key := by
  induction js generalizing b with
  | nil => simp
  | cons j js ih =>
    rw [List.foldl_cons, ih, hwrite]
    by_cases hj : key = j
    · subst hj
      cases affected key <;> simp
    · simp [hj]

theorem get?_dropUndeclared :
    (dropUndeclared schema b).get? key =
      if key ∈ keys ∧ schema.declares key = false then none else b.get? key := by
  unfold dropUndeclared
  rw [get?_foldl (fun key => !schema.declares key) none]
  · simp
  · intro b j k
    cases schema.declares j <;> simp [Dict.get?_erase]

/-- A spelling that was not dropped is in the state that it had. -/
theorem slot_dropUndeclared (h : (dropUndeclared schema b).isSupplied key = true) :
    (dropUndeclared schema b).slot key = b.slot key := by
  unfold Body.isSupplied at h
  unfold Body.slot at h ⊢
  rw [get?_dropUndeclared] at h ⊢
  split at h
  · simp [Slot.isSupplied] at h
  · rw [if_neg (by assumption)]

theorem get?_assign {project : String} :
    (assign schema project b).get? key =
      if key ∈ keys ∧ schema.declares key = true then some (.ofJson (.string project))
      else b.get? key := by
  unfold assign
  rw [get?_foldl schema.declares (some (.ofJson (.string project)))]
  intro b j k
  cases schema.declares j <;> simp [Body.set, Dict.get?_insert]

theorem slot_assign {project : String} (hkey : key ∈ keys) :
    (assign schema project b).slot key =
      if schema.declares key then .ofJson (.string project) else b.slot key := by
  unfold Body.slot
  rw [get?_assign]
  cases schema.declares key <;> simp [hkey]

/-- Where no spelling was supplied, exactly the declared ones are supplied after the assignment. -/
theorem isSupplied_assign {project : String} (hnone : ∀ key ∈ keys, b.isSupplied key = false)
    (hkey : key ∈ keys) : (assign schema project b).isSupplied key = schema.declares key := by
  have hnot := hnone key hkey
  unfold Body.isSupplied at hnot ⊢
  rw [slot_assign hkey]
  cases schema.declares key <;> simp [hnot]

/-- The two spellings do not contradict each other. -/
def Agree (b : Body) : Prop :=
  b.isSupplied tenantKey = true → b.isSupplied projectKey = true →
    (b.slot tenantKey == b.slot projectKey) = true

theorem align_eq_done_iff :
    align schema b = .done a ↔
      Agree b ∧
        (if schema.isProjectScoped then dropUndeclared schema (copyAcross b) else b) = a := by
  unfold align Agree
  cases ht : b.isSupplied tenantKey <;> cases hp : b.isSupplied projectKey <;>
    cases hsame : b.slot tenantKey == b.slot projectKey <;>
      cases hscoped : schema.isProjectScoped <;> simp [bne, hsame, Outcome.fail, Outcome.done]

theorem assignOwn_eq_done_iff :
    assignOwn schema caller a = .done f ↔
      ((a.isSupplied tenantKey || a.isSupplied projectKey) = true ∧ a = f) ∨
        ((∀ key ∈ keys, a.isSupplied key = false) ∧
          ((∃ project, caller.project? = some project ∧ assign schema project a = f) ∨
            (caller.project? = none ∧ schema.isProjectScoped = false ∧ a = f))) := by
  simp only [assignOwn, keys, List.forall_mem_cons, List.not_mem_nil, false_implies, implies_true,
    and_true]
  cases ht : a.isSupplied tenantKey <;> cases hp : a.isSupplied projectKey <;>
    cases hproject : caller.project? <;> cases hscoped : schema.isProjectScoped <;>
      simp [Outcome.fail, Outcome.done]

theorem settle_eq_done_iff :
    settle schema caller creating b = .done f ↔
      ∃ a, align schema b = .done a ∧
        (namesForeign caller a = true → caller.mayActForOthers = true) ∧
        if creating then assignOwn schema caller a = .done f else a = f := by
  unfold settle
  rw [Outcome.andThen_eq_done_iff]
  refine exists_congr fun a => and_congr_right fun _ => ?_
  cases namesForeign caller a <;> cases caller.mayActForOthers <;> cases creating <;>
    simp [Outcome.fail, Outcome.done]

/-- A settlement that succeeds leaves the aligned body, or assigns the project of the caller in it
because no spelling was supplied. -/
theorem cases_of_settle (h : settle schema caller creating b = .done f) :
    ∃ a, align schema b = .done a ∧
      (namesForeign caller a = true → caller.mayActForOthers = true) ∧
      ((a = f ∧ (creating = true → schema.isProjectScoped = true →
          (a.isSupplied tenantKey || a.isSupplied projectKey) = true)) ∨
        ∃ project, creating = true ∧ caller.project? = some project ∧
          (∀ key ∈ keys, a.isSupplied key = false) ∧ assign schema project a = f) := by
  obtain ⟨a, halign, hallowed, hown⟩ := settle_eq_done_iff.1 h
  refine ⟨a, halign, hallowed, ?_⟩
  cases creating with
  | false => exact Or.inl ⟨by simpa using hown, by simp⟩
  | true =>
    rw [if_pos rfl, assignOwn_eq_done_iff] at hown
    rcases hown with ⟨hsupplied, rfl⟩ | ⟨hnone, ⟨project, hcaller, rfl⟩ | ⟨-, hscoped, rfl⟩⟩
    · exact Or.inl ⟨rfl, fun _ _ => hsupplied⟩
    · exact Or.inr ⟨project, rfl, hcaller, hnone, rfl⟩
    · exact Or.inl ⟨rfl, fun _ h => by simp [hscoped] at h⟩

/-! ## Settled bodies -/

/-- The state of the spellings after a settlement, apart from their agreement. -/
structure Settled (schema : Schema) (caller : Caller) (creating : Bool) (b : Body) : Prop where
  /-- A spelling that is not declared is gone. -/
  dropped : schema.isProjectScoped = true → ∀ key ∈ keys, schema.declares key = false →
    b.get? key = none
  /-- A declared spelling is supplied as soon as one of the two is. -/
  mirrored : ∀ key ∈ keys, schema.declares key = true →
    b.isSupplied key = (b.isSupplied tenantKey || b.isSupplied projectKey)
  allowed : namesForeign caller b = true → caller.mayActForOthers = true
  /-- A resource that belongs to a project has an owner once it is created. -/
  owned : creating = true → schema.isProjectScoped = true →
    (b.isSupplied tenantKey || b.isSupplied projectKey) = true

theorem isProjectScoped_of_declares (hkey : key ∈ keys) (h : schema.declares key = true) :
    schema.isProjectScoped = true := by
  unfold Schema.isProjectScoped
  rcases mem_keys_iff.1 hkey with rfl | rfl <;> simp [h]

/-- Every declared spelling is supplied once a resource is created. -/
theorem Settled.isSupplied (h : Settled schema caller true b) (hkey : key ∈ keys)
    (hdeclared : schema.declares key = true) : b.isSupplied key = true := by
  rw [h.mirrored key hkey hdeclared]
  exact h.owned rfl (isProjectScoped_of_declares hkey hdeclared)

/-- Whether a body is settled shows in the two spellings alone. -/
theorem Settled.congr (h : Settled schema caller creating b)
    (hagree : ∀ key ∈ keys, f.get? key = b.get? key) : Settled schema caller creating f := by
  have hslot : ∀ key ∈ keys, f.slot key = b.slot key := fun key hkey =>
    Body.slot_congr (hagree key hkey)
  have htenant : f.isSupplied tenantKey = b.isSupplied tenantKey :=
    Body.isSupplied_congr (hagree _ tenantKey_mem)
  have hproject : f.isSupplied projectKey = b.isSupplied projectKey :=
    Body.isSupplied_congr (hagree _ projectKey_mem)
  have hforeign : namesForeign caller f = namesForeign caller b := by
    simp only [namesForeign, keys, List.any_cons, List.any_nil, hslot tenantKey tenantKey_mem,
      hslot projectKey projectKey_mem]
  constructor
  · intro hscoped key hkey hdeclared
    rw [hagree key hkey]
    exact h.dropped hscoped key hkey hdeclared
  · intro key hkey hdeclared
    rw [Body.isSupplied_congr (hagree key hkey), htenant, hproject]
    exact h.mirrored key hkey hdeclared
  · rw [hforeign]
    exact h.allowed
  · rw [htenant, hproject]
    exact h.owned

/-- After the alignment, a spelling that is declared is supplied if one of the two was. -/
theorem isSupplied_of_align (halign : align schema b = .done a) (hkey : key ∈ keys)
    (hdeclared : schema.declares key = true) :
    a.isSupplied key = (b.isSupplied tenantKey || b.isSupplied projectKey) := by
  obtain ⟨-, rfl⟩ := align_eq_done_iff.1 halign
  rw [if_pos (isProjectScoped_of_declares hkey hdeclared), ← isSupplied_copyAcross hkey]
  apply Body.isSupplied_congr
  rw [get?_dropUndeclared]
  simp [hdeclared]

theorem get?_of_align (halign : align schema b = .done a) (hscoped : schema.isProjectScoped = true)
    (hkey : key ∈ keys) (hdeclared : schema.declares key = false) : a.get? key = none := by
  obtain ⟨-, rfl⟩ := align_eq_done_iff.1 halign
  rw [if_pos hscoped, get?_dropUndeclared, if_pos ⟨hkey, hdeclared⟩]

/-- A spelling that is supplied after the alignment is in the state of one that was supplied. -/
theorem exists_slot_of_align (halign : align schema b = .done a) (hkey : key ∈ keys)
    (hsupplied : a.isSupplied key = true) :
    ∃ k ∈ keys, b.isSupplied k = true ∧ a.slot key = b.slot k := by
  have hcopied : ∃ k ∈ keys, a.slot key = b.slot k := by
    rw [← (align_eq_done_iff.1 halign).2] at hsupplied ⊢
    split at hsupplied
    case isTrue hscoped =>
      obtain ⟨k, hk, hslot⟩ := exists_slot_copyAcross (b := b) hkey
      exact ⟨k, hk, by rw [if_pos hscoped, slot_dropUndeclared hsupplied, hslot]⟩
    case isFalse hscoped => exact ⟨key, hkey, by rw [if_neg hscoped]⟩
  obtain ⟨k, hk, hslot⟩ := hcopied
  refine ⟨k, hk, ?_, hslot⟩
  unfold Body.isSupplied at hsupplied ⊢
  rw [← hslot]
  exact hsupplied

/-- The alignment supplies a spelling only where one was supplied. -/
theorem exists_isSupplied_of_align (halign : align schema b = .done a) (hkey : key ∈ keys)
    (hsupplied : a.isSupplied key = true) :
    (b.isSupplied tenantKey || b.isSupplied projectKey) = true := by
  obtain ⟨k, hk, hone, -⟩ := exists_slot_of_align halign hkey hsupplied
  rcases mem_keys_iff.1 hk with rfl | rfl <;> simp [hone]

/-- Where a spelling is declared, one is supplied after the alignment if one was supplied before. -/
theorem isSupplied_or_of_align (halign : align schema b = .done a) (hkey : key ∈ keys)
    (hdeclared : schema.declares key = true) :
    (a.isSupplied tenantKey || a.isSupplied projectKey) =
      (b.isSupplied tenantKey || b.isSupplied projectKey) := by
  have hown := isSupplied_of_align halign hkey hdeclared
  rw [Bool.eq_iff_iff, Bool.or_eq_true]
  constructor
  · rintro (hsupplied | hsupplied)
    · exact exists_isSupplied_of_align halign tenantKey_mem hsupplied
    · exact exists_isSupplied_of_align halign projectKey_mem hsupplied
  · intro hsupplied
    rw [← hown] at hsupplied
    rcases mem_keys_iff.1 hkey with rfl | rfl
    · exact Or.inl hsupplied
    · exact Or.inr hsupplied

theorem settled_of_align (halign : align schema b = .done a)
    (hallowed : namesForeign caller a = true → caller.mayActForOthers = true) :
    Settled schema caller false a := by
  constructor
  · intro hscoped key hkey hdeclared
    exact get?_of_align halign hscoped hkey hdeclared
  · intro key hkey hdeclared
    rw [isSupplied_of_align halign hkey hdeclared, isSupplied_or_of_align halign hkey hdeclared]
  · exact hallowed
  · simp

/-- The project of the caller, assigned where no spelling was supplied, settles the owner. -/
theorem settled_assign {project : String} (h : Settled schema caller false a)
    (hnone : ∀ key ∈ keys, a.isSupplied key = false) (hcaller : caller.project? = some project) :
    Settled schema caller true (assign schema project a) := by
  have hsupplied : ∀ key ∈ keys,
      (assign schema project a).isSupplied key = schema.declares key := fun key hkey =>
    isSupplied_assign hnone hkey
  have hany : ((assign schema project a).isSupplied tenantKey ||
      (assign schema project a).isSupplied projectKey) = schema.isProjectScoped := by
    rw [hsupplied tenantKey tenantKey_mem, hsupplied projectKey projectKey_mem]
    rfl
  constructor
  · intro hscoped key hkey hdeclared
    rw [get?_assign]
    simpa [hdeclared] using h.dropped hscoped key hkey hdeclared
  · intro key hkey hdeclared
    rw [hany, hsupplied key hkey, hdeclared]
    exact (isProjectScoped_of_declares hkey hdeclared).symm
  · intro hforeign
    have hnone' : namesForeign caller (assign schema project a) = false := by
      rw [namesForeign_eq_false_iff]
      intro key hkey v hv
      rw [slot_assign hkey] at hv
      cases hdeclared : schema.declares key with
      | true => simpa [hdeclared, own, hcaller, eq_comm] using hv
      | false => simp [hdeclared, Body.toJson?_eq_none_iff.2 (hnone key hkey)] at hv
    simp [hnone'] at hforeign
  · intro _ hscoped
    rw [hany]
    exact hscoped

/-- **What a settlement leaves is settled.** -/
theorem settled_of_settle (h : settle schema caller creating b = .done f) :
    Settled schema caller creating f := by
  obtain ⟨a, halign, hallowed, ⟨rfl, howned⟩ | ⟨project, rfl, hcaller, hnone, rfl⟩⟩ :=
    cases_of_settle h
  · exact { settled_of_align halign hallowed with owned := howned }
  · exact settled_assign (settled_of_align halign hallowed) hnone hcaller

theorem get?_body_align (hkey : key ∉ keys) : (align schema b).body.get? key = b.get? key := by
  unfold align
  split
  · rfl
  · split
    · exact (get?_dropUndeclared.trans (if_neg fun h => hkey h.1)).trans
        (get?_copyAcross_of_not_mem hkey)
    · rfl

theorem get?_body_assignOwn (hkey : key ∉ keys) :
    (assignOwn schema caller a).body.get? key = a.get? key := by
  unfold assignOwn
  split
  · rfl
  · split
    · exact get?_assign.trans (if_neg fun h => hkey h.1)
    · split <;> rfl

/-- Whether a settlement succeeds or fails, it touches nothing but the two spellings. -/
theorem get?_body_settle (hkey : key ∉ keys) :
    (settle schema caller creating b).body.get? key = b.get? key := by
  have halign : (align schema b).body.get? key = b.get? key := get?_body_align hkey
  unfold settle Outcome.andThen
  split
  · dsimp only
    split
    · exact halign
    · split
      · exact (get?_body_assignOwn hkey).trans halign
      · exact halign
  · exact halign

theorem get?_settle_of_not_mem (h : settle schema caller creating b = .done f) (hkey : key ∉ keys) :
    f.get? key = b.get? key := by
  have hbody : (settle schema caller creating b).body.get? key = b.get? key :=
    get?_body_settle hkey
  rw [h] at hbody
  exact hbody

/-! ## Agreement of the spellings -/

/-- Two bodies with the same two spellings agree or disagree both. -/
theorem Agree.congr (h : Agree b) (hagree : ∀ key ∈ keys, f.get? key = b.get? key) : Agree f := by
  have htenant := hagree tenantKey tenantKey_mem
  have hproject := hagree projectKey projectKey_mem
  unfold Agree
  rw [Body.isSupplied_congr htenant, Body.isSupplied_congr hproject, Body.slot_congr htenant,
    Body.slot_congr hproject]
  exact h

theorem agree_copyAcross (hrefl : ∀ key ∈ keys, (b.slot key == b.slot key) = true) (h : Agree b) :
    Agree (copyAcross b) := by
  have hne := tenantKey_ne_projectKey
  unfold copyAcross
  split
  · intro _ _
    rw [Body.slot_insert, Body.slot_insert, if_neg hne, if_pos rfl]
    exact hrefl tenantKey tenantKey_mem
  · intro _ _
    rw [Body.slot_insert, Body.slot_insert, if_pos rfl, if_neg hne.symm]
    exact hrefl projectKey projectKey_mem
  · exact h

theorem agree_dropUndeclared (h : Agree b) : Agree (dropUndeclared schema b) := by
  have hsupplied : ∀ key, (dropUndeclared schema b).isSupplied key = true →
      b.isSupplied key = true := by
    intro key hkey
    rw [← hkey]
    unfold Body.isSupplied
    rw [slot_dropUndeclared hkey]
  intro htenant hproject
  rw [slot_dropUndeclared htenant, slot_dropUndeclared hproject]
  exact h (hsupplied _ htenant) (hsupplied _ hproject)

theorem agree_assign {project : String} (hnone : ∀ key ∈ keys, b.isSupplied key = false) :
    Agree (assign schema project b) := by
  have hslot : ∀ key ∈ keys, (assign schema project b).isSupplied key = true →
      (assign schema project b).slot key = .value (.string project) := by
    intro key hkey hsupplied
    rw [isSupplied_assign hnone hkey] at hsupplied
    rw [slot_assign hkey, if_pos hsupplied]
    rfl
  intro ht hp
  rw [hslot _ tenantKey_mem ht, hslot _ projectKey_mem hp]
  exact Json.beq_string_iff.2 rfl

/-- The spellings agree after a settlement, where values are equal to themselves. -/
theorem agree_of_settle (h : settle schema caller creating b = .done f)
    (hrefl : ∀ key ∈ keys, (b.slot key == b.slot key) = true) : Agree f := by
  obtain ⟨a, halign, -, hcases⟩ := cases_of_settle h
  obtain ⟨hagree, ha⟩ := align_eq_done_iff.1 halign
  have haligned : Agree a := by
    rw [← ha]
    split
    · exact agree_dropUndeclared (agree_copyAcross hrefl hagree)
    · exact hagree
  obtain ⟨rfl, -⟩ | ⟨project, -, -, hnone, rfl⟩ := hcases
  · exact haligned
  · exact agree_assign hnone

/-! ## Settling again -/

theorem get?_copyAcross_of_isSupplied (h : b.isSupplied key = true) :
    (copyAcross b).get? key = b.get? key := by
  unfold copyAcross
  split
  case h_1 ht hp =>
    have hne : key ≠ projectKey := by
      rintro rfl
      simp [h] at hp
    rw [Dict.get?_insert, if_neg hne]
  case h_2 ht hp =>
    have hne : key ≠ tenantKey := by
      rintro rfl
      simp [h] at ht
    rw [Dict.get?_insert, if_neg hne]
  case h_3 => rfl

theorem align_of_settled (h : Settled schema caller creating b) (hagree : Agree b) :
    align schema b = .done b := by
  refine align_eq_done_iff.2 ⟨hagree, ?_⟩
  split
  case isFalse => rfl
  case isTrue hscoped =>
    ext key
    rw [get?_dropUndeclared]
    split
    case isTrue hdrop => rw [h.dropped hscoped key hdrop.1 hdrop.2]
    case isFalse hkeep =>
      by_cases hkey : key ∈ keys
      · -- A declared spelling is copied onto only if the other one is supplied without it.
        have hdeclared : schema.declares key = true := by
          cases hdecl : schema.declares key with
          | true => rfl
          | false => exact absurd ⟨hkey, hdecl⟩ hkeep
        have hmirrored := h.mirrored key hkey hdeclared
        cases hsupplied : b.isSupplied key with
        | true => rw [get?_copyAcross_of_isSupplied hsupplied]
        | false =>
          rw [hsupplied, eq_comm, Bool.or_eq_false_iff] at hmirrored
          rw [copyAcross_of_eq (hmirrored.1.trans hmirrored.2.symm)]
      · rw [get?_copyAcross_of_not_mem hkey]

/-- **A settled body stays as it is** when it is settled again, if its spellings agree. -/
theorem settle_of_settled (h : Settled schema caller creating b) (hagree : Agree b) :
    settle schema caller creating b = .done b := by
  refine settle_eq_done_iff.2 ⟨b, align_of_settled h hagree, h.allowed, ?_⟩
  cases creating with
  | false => simp
  | true =>
    rw [if_pos rfl, assignOwn_eq_done_iff]
    cases hsupplied : b.isSupplied tenantKey || b.isSupplied projectKey with
    | true => exact Or.inl ⟨rfl, rfl⟩
    | false =>
      have hnone : ∀ key ∈ keys, b.isSupplied key = false := by
        simpa [keys] using hsupplied
      -- Nothing is supplied, so nothing is declared, and there is nothing to assign.
      have hscoped : schema.isProjectScoped = false := by
        cases hscoped : schema.isProjectScoped with
        | false => rfl
        | true => simp [h.owned rfl hscoped] at hsupplied
      have hdeclares : ∀ key ∈ keys, schema.declares key = false := by
        intro key hkey
        cases hdeclared : schema.declares key with
        | false => rfl
        | true => simp [isProjectScoped_of_declares hkey hdeclared] at hscoped
      refine Or.inr ⟨hnone, ?_⟩
      cases hproject : caller.project? with
      | none => exact Or.inr ⟨rfl, hscoped, rfl⟩
      | some project =>
        refine Or.inl ⟨project, rfl, ?_⟩
        ext key
        rw [get?_assign, if_neg]
        rintro ⟨hkey, hdeclared⟩
        simp [hdeclares key hkey] at hdeclared

/-! ## Schemas that declare the same spellings -/

/-- A settlement looks at which spellings a schema declares, and at nothing else in it. -/
theorem settle_congr {schema' : Schema} (h : ∀ key ∈ keys, schema'.declares key = schema.declares key)
    (caller : Caller) (creating : Bool) (b : Body) :
    settle schema' caller creating b = settle schema caller creating b := by
  have htenant := h tenantKey tenantKey_mem
  have hproject := h projectKey projectKey_mem
  have hscoped : schema'.isProjectScoped = schema.isProjectScoped := by
    rw [Schema.isProjectScoped, Schema.isProjectScoped, htenant, hproject]
  have hdrop : dropUndeclared schema' = dropUndeclared schema := by
    funext b
    simp only [dropUndeclared, keys, List.foldl_cons, List.foldl_nil, htenant, hproject]
  have halign : align schema' b = align schema b := by
    simp only [align, hscoped, hdrop]
  have hassign : ∀ project, assign schema' project = assign schema project := by
    intro project
    funext b
    simp only [assign, keys, List.foldl_cons, List.foldl_nil, htenant, hproject]
  have hown : assignOwn schema' caller = assignOwn schema caller := by
    funext b
    simp only [assignOwn, hscoped, hassign]
  rw [settle, settle, halign, hown]

end Ownership

end AttributeSchema
