import AttributeSchema.Proofs.Spec.Population

/-!
# Filling in nested defaults twice

Nested defaults that were filled in leave nothing to fill in: a second pass finds every member in the
state in which the first one left it, and a step that finds its member in that state changes neither
the members nor their order. Main statement: `SpecOf.populate_populate`.
-/

namespace AttributeSchema

namespace Members

variable {ms : List (String × Json)}

/-- Putting a member into the state that it has changes nothing. -/
theorem setSlot_slot (key : String) (ms : List (String × Json)) :
    setSlot key (slot key ms) ms = ms := by
  unfold setSlot
  rw [toJson?_slot]
  cases hv : ms.lookup key with
  | some v => exact insert_of_lookup hv
  | none =>
    apply swapRemove_of_not_mem
    rintro hmem
    obtain ⟨m, hm, hkey⟩ := List.mem_map.1 hmem
    exact Entries.lookup_eq_none_iff.1 hv m hm hkey

/-- A default that makes of the state of a member what it is changes nothing. -/
theorem fillDefault_eq_self {key : String} {spec : Spec}
    (h : spec.filled (slot key ms) = slot key ms) : fillDefault key spec ms = ms := by
  unfold fillDefault
  cases hover : spec.defaultOver? (slot key ms) with
  | none => rfl
  | some s =>
    have hs : s = slot key ms := by
      rw [SpecOf.filled, hover] at h
      exact h
    rw [hs]
    exact setSlot_slot key ms

end Members

namespace SpecOf

variable {spec : Spec} {s : Slot}

/-! ## One member -/

theorem filled_filled (spec : Spec) (s : Slot) : spec.filled (spec.filled s) = spec.filled s := by
  cases hover : spec.defaultOver? s with
  | none =>
    have hfilled : spec.filled s = s := by rw [filled, hover, Option.getD_none]
    rw [hfilled, hfilled]
  | some t =>
    have hfilled : spec.filled s = t := by rw [filled, hover, Option.getD_some]
    rw [hfilled, filled]
    -- The default may apply to its own state, where it puts this state again.
    cases hagain : spec.defaultOver? t with
    | none => rfl
    | some u =>
      obtain ⟨d, hd, rfl⟩ := exists_of_defaultOver? hover
      obtain ⟨d', hd', rfl⟩ := exists_of_defaultOver? hagain
      obtain rfl : d = d' := Option.some.inj (hd.symm.trans hd')
      rfl

/-- What cannot be filled into is no absence and no overridden null, so no default applies. -/
theorem filled_of_start?_eq_none (h : spec.start? s = none) : spec.filled s = s := by
  have hnone : spec.defaultOver? s = none := by
    unfold start? at h
    unfold defaultOver?
    cases s with
    | unspecified => simp [Slot.isNull, Slot.members?] at h
    | value v => split <;> rfl
    | null =>
      cases hoverrides : spec.defaultOverridesNull with
      | true => simp [hoverrides, Slot.isNull, Slot.members?] at h
      | false => split <;> rfl
  rw [filled, hnone, Option.getD_none]

theorem start?_object (spec : Spec) (ms : List (String × Json)) :
    spec.start? (.value (.object ms)) = some ms := by
  simp [start?, Slot.isNull, Slot.members?]

/-- Treating a member twice is treating it once, if this is so of what is filled in inside it. -/
theorem member_member
    (hinside : ∀ specs xs, spec.nested? = some specs → spec.start? s = some xs →
      Population.fillMembers specs (Population.fillMembers specs xs) =
        Population.fillMembers specs xs) :
    spec.member (spec.member s) = spec.member s := by
  cases hnested : spec.nested? with
  | none =>
    have hmember : ∀ t, spec.member t = spec.filled t := fun t => by
      rw [member, inside_of_not_nested (Or.inl hnested)]
    rw [hmember, hmember, filled_filled]
  | some specs =>
    cases hstart : spec.start? s with
    | none =>
      have hmember : spec.member s = s := by
        rw [member, inside_of_not_nested (Or.inr hstart), filled_of_start?_eq_none hstart]
      rw [hmember, hmember]
    | some xs =>
      rw [member_of_nested hnested hstart, member_of_nested hnested (start?_object spec _),
        hinside specs xs hnested hstart]

end SpecOf

namespace Population

variable {specs : List (String × Spec)} {ms : List (String × Json)} {key : String} {spec : Spec}

/-- A member in its final state has what is inside it in its final state, too. -/
theorem fillInside_eq_self (h : spec.member (Members.slot key ms) = Members.slot key ms) :
    fillInside key spec ms = ms := by
  rw [fillInside_eq]
  split
  case h_1 inner xs hnested hstart =>
    rw [SpecOf.member_of_nested hnested hstart] at h
    apply Members.insert_of_lookup
    rw [← Members.toJson?_slot, ← h]
    rfl
  case h_2 => rfl

theorem inside_eq_self (h : spec.member (Members.slot key ms) = Members.slot key ms) :
    spec.inside (Members.slot key ms) = Members.slot key ms := by
  have hslot := slot_fillInside key key spec ms
  rw [fillInside_eq_self h, if_pos rfl] at hslot
  exact hslot.symm

/-- Where every member is in its final state nothing changes, the order of the members included. -/
theorem fillMembers_eq_self
    (h : ∀ e ∈ specs, e.2.member (Members.slot e.1 ms) = Members.slot e.1 ms) :
    fillMembers specs ms = ms := by
  induction specs with
  | nil => rw [fillMembers]
  | cons e specs ih =>
    obtain ⟨key, spec⟩ := e
    obtain ⟨hmember, hrest⟩ := List.forall_mem_cons.1 h
    have hfilled : spec.filled (Members.slot key ms) = Members.slot key ms := by
      rw [SpecOf.member, inside_eq_self hmember] at hmember
      exact hmember
    rw [fillMembers, fillInside_eq_self hmember, Members.fillDefault_eq_self hfilled]
    exact ih hrest

/-- A second pass changes nothing if each member, treated twice, is as if it were treated once. -/
theorem fillMembers_fillMembers (hspecs : specs.Pairwise fun a b => a.1 ≠ b.1)
    (hdistinct : ms.Pairwise fun a b => a.1 ≠ b.1)
    (hmember : ∀ e ∈ specs, e.2.member (e.2.member (Members.slot e.1 ms)) =
      e.2.member (Members.slot e.1 ms)) :
    fillMembers specs (fillMembers specs ms) = fillMembers specs ms := by
  apply fillMembers_eq_self
  rintro ⟨key, spec⟩ hmem
  have hkey : specs.lookup key = some spec := (Entries.lookup_eq_some_iff hspecs).2 hmem
  rw [slot_fillMembers hspecs hdistinct, hkey]
  exact hmember (key, spec) hmem

theorem fillMembers_idempotent_of_everywhere (h : spec.Everywhere SpecOf.OrderedMembers)
    (hspecs : specs ∈ spec.structuredMembers) (hms : (Json.object ms).WellFormed) :
    fillMembers specs (fillMembers specs ms) = fillMembers specs ms := by
  -- By induction on what is nested; what a nested object starts from is well-formed again.
  induction h generalizing specs ms with
  | @intro spec here inside ih =>
    refine fillMembers_fillMembers (here specs hspecs).pairwise_ne hms.distinct ?_
    intro e he
    apply SpecOf.member_member
    intro inner xs hnested hstart
    exact ih specs hspecs e he (SpecOf.mem_structuredMembers_of_nested? hnested)
      (wellFormed_of_start? hms hstart)

end Population

namespace SpecOf

/-- **Filling in nested defaults is idempotent.** A specification with at most one structured rule
makes of what it has filled in the very same value, with the same order of members in each object. -/
theorem populate_populate (spec : Spec) (hordered : spec.Everywhere OrderedMembers)
    (hone : spec.structuredMembers.length ≤ 1) (s : Slot)
    (hs : ∀ v, s.toJson? = some v → v.WellFormed) :
    spec.populate (spec.populate s) = spec.populate s := by
  cases hpopulates : spec.populateMembers with
  | false => simp [populate, hpopulates]
  | true =>
    cases hmembers : s.members? with
    | none => rw [populate_of_members?_eq_none hmembers, populate_of_members?_eq_none hmembers]
    | some ms =>
      have hms : (Json.object ms).WellFormed := by
        rcases Slot.members?_cases hmembers with rfl | rfl
        · exact .object .nil (by simp)
        · exact hs _ rfl
      rw [populate_eq_onMembers hpopulates, populate_eq_onMembers hpopulates,
        Slot.onMembers_of_members? hmembers, Slot.onMembers_of_members? rfl]
      -- Several rules might undo what one of them does; there is at most one.
      cases hrules : spec.structuredMembers with
      | nil => rfl
      | cons specs rest =>
        obtain rfl : rest = [] := by simpa [hrules] using hone
        simp only [List.foldl_cons, List.foldl_nil]
        rw [Population.fillMembers_idempotent_of_everywhere hordered (by simp [hrules]) hms]

/-- The network is filled in at the end of the options, and moves to the front when null is removed
there as the default of the security says. A second pass leaves it where it is. -/
theorem populate_populate_port :
    let security : Spec := { default? := some .unspecified, defaultOverridesNull := true }
    let vlan : Spec := { default? := some (.value (.ofInt 1)) }
    let network : Spec :=
      { populateMembers := true, rules := [.structured (.builtin .object) [("vlan", vlan)]] }
    let options : Spec :=
      { populateMembers := true
        rules := [.structured (.builtin .object) [("network", network), ("security", security)]] }
    let sent : Slot := .value
      (.object [("security", .null), ("mtu", .ofInt 1500), ("note", .string "uplink")])
    let filled : Slot := .value (.object
      [("network", .object [("vlan", .ofInt 1)]), ("mtu", .ofInt 1500), ("note", .string "uplink")])
    options.populate sent = filled ∧ options.populate filled = filled := by
  intro security vlan network options sent filled
  have hvlan : vlan.Everywhere OrderedMembers := .of_leaf (.of_leaf rfl) rfl
  have hsecurity : security.Everywhere OrderedMembers := .of_leaf (.of_leaf rfl) rfl
  have hnetwork : network.Everywhere OrderedMembers :=
    .of_single (.of_single rfl (List.pairwise_singleton _ _)) rfl (by simpa using hvlan)
  have hoptions : options.Everywhere OrderedMembers := by
    refine .of_single (.of_single rfl (List.pairwise_pair.2 (by decide))) rfl ?_
    simpa using ⟨hnetwork, hsecurity⟩
  have hsent : ∀ v, sent.toJson? = some v → v.WellFormed := by
    rintro v hv
    obtain rfl := Option.some.inj hv
    refine .object (by decide) ?_
    simpa using ⟨.null, .number _, .string _⟩
  have hfilled : options.populate sent = filled := by
    subst security vlan network options sent filled
    cbv
  have hagain := populate_populate options hoptions (by decide) sent hsent
  rw [hfilled] at hagain
  exact ⟨hfilled, hagain⟩

end SpecOf

end AttributeSchema
