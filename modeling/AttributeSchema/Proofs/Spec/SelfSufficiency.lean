import AttributeSchema.Proofs.Spec.Population

/-!
# Specifications that fill in what they demand

A specification is self-sufficient if filling in nested defaults makes a whole object out of nothing:
each of its members is self-sufficient again, has a default that its own rules accept, or may be
missing. Whether the object that was filled in is accepted then depends on one thing only: population
makes objects throughout, so no rule that has a say may demand a list. Main statement:
`SpecOf.SelfSufficient.acceptsAbsence_iff`.
-/

namespace AttributeSchema

/-! ## The verdict on an object -/

namespace Rule

/-- What an object has to fulfil for the specifications of its members. -/
theorem object_memberChecks_iff {members : List (String × Spec)} {ms : List (String × Json)} :
    MemberCheck.object (memberChecks members) (.object ms) = Verdict.pass ↔
      ∀ m ∈ members, (m.2.required = true → Members.contains m.1 ms = true) ∧
        ∀ v, ms.lookup m.1 = some v → m.2.check v = Verdict.pass := by
  have honObject : ∀ m : String × Spec,
      MemberCheck.onObject ms ⟨m.1, m.2.required, fun v => m.2.check v⟩ = Verdict.pass ↔
        ∀ v, ms.lookup m.1 = some v → m.2.check v = Verdict.pass := by
    intro m
    unfold MemberCheck.onObject
    cases ms.lookup m.1 <;> simp
  rw [MemberCheck.object_eq_pass_iff, memberChecks_eq_map]
  simp only [List.forall_mem_map, honObject]
  exact ⟨fun h m hm => ⟨h.1 m hm, h.2 m hm⟩, fun h => ⟨fun m hm => (h m hm).1, fun m hm => (h m hm).2⟩⟩

end Rule

/-- The structured validators judge an object by its members, but for the one that wants a list. -/
theorem StructuredValidator.check_object_iff {kind : StructuredValidator}
    {checks : List MemberCheck} {ms : List (String × Json)}
    (hempty : ms = [] → MemberCheck.object checks (.object ms) = Verdict.pass) :
    kind.check checks (.object ms) = Verdict.pass ↔
      kind ≠ .listOfObjects ∧ MemberCheck.object checks (.object ms) = Verdict.pass := by
  cases kind with
  | object | objectOrNull => simp [check, Json.isNull]
  | objectOrEmpty | objectOrNothing =>
    cases ms with
    | nil => simpa [check, isEmptyObject] using hempty rfl
    | cons m ms => simp [check, isEmptyObject, Json.isNull]
  | listOfObjects => simp [check, Verdict.pass]

namespace SpecOf

variable {spec : Spec} {v : Json}

theorem check_of_single {r : Rule} (h : spec.rules = [r]) :
    spec.check v = Verdict.pass ↔ r.check v = Verdict.pass := by
  rw [check, h, Rule.checkAll_eq_pass_iff, List.forall_mem_singleton]

/-! ## Self-sufficiency -/

/-- The specification is structured and asks for nested defaults. -/
def FillsInside (spec : Spec) : Prop := spec.populateMembers = true ∧ spec.isStructured = true

mutual

/-- The specification asks for nested defaults and has one rule, which is a structured one of some
allowed kind whose members may all be left out. -/
inductive SelfSufficient (allowed : StructuredValidator → Prop) : Spec → Prop
  | intro {spec : Spec} {kind : StructuredValidator} {members : List (String × Spec)}
      (populates : spec.populateMembers = true)
      (rules : spec.rules = [.structured (.builtin kind) members]) (kind_allowed : allowed kind)
      (inside : ∀ m ∈ members, Dispensable allowed m.2) : SelfSufficient allowed spec

/-- A member that may be left out, since it is made whole, has a good default or is not required. -/
inductive Dispensable (allowed : StructuredValidator → Prop) : Spec → Prop
  | populated {spec : Spec} (whole : SelfSufficient allowed spec) : Dispensable allowed spec
  | defaulted {spec : Spec} {v : Json} (plain : ¬ spec.FillsInside)
      (default : spec.default? = some (.value v)) (accepted : spec.check v = Verdict.pass) :
      Dispensable allowed spec
  | optional {spec : Spec} (plain : ¬ spec.FillsInside)
      (nothing : spec.default? = none ∨ spec.default? = some .unspecified)
      (optional : spec.required = false) : Dispensable allowed spec

end

theorem structuredMembers_of_rules {kind : StructuredValidator} {members : List (String × Spec)}
    (h : spec.rules = [.structured (.builtin kind) members]) :
    spec.structuredMembers = [members] := by
  rw [structuredMembers, h]
  rfl

theorem SelfSufficient.fillsInside {allowed : StructuredValidator → Prop}
    (h : spec.SelfSufficient allowed) : spec.FillsInside := by
  cases h with
  | intro populates rules _ _ =>
    refine ⟨populates, ?_⟩
    rw [isStructured, structuredMembers_of_rules rules]
    rfl

/-- A self-sufficient specification starts from nothing with the empty object. -/
theorem populate_of_rules {kind : StructuredValidator} {members : List (String × Spec)}
    (hpopulates : spec.populateMembers = true)
    (hrules : spec.rules = [.structured (.builtin kind) members]) :
    spec.populate .unspecified = .value (.object (Population.fillMembers members [])) := by
  rw [populate_eq_onMembers hpopulates, structuredMembers_of_rules hrules]
  rfl

/-! ## What becomes of a member that is left out -/

theorem member_of_rules {kind : StructuredValidator} {members : List (String × Spec)}
    (hpopulates : spec.populateMembers = true)
    (hrules : spec.rules = [.structured (.builtin kind) members]) :
    spec.member .unspecified = .value (.object (Population.fillMembers members [])) := by
  have hnested : spec.nested? = some members := by
    rw [nested?, if_pos hpopulates, structuredMembers_of_rules hrules]
    rfl
  refine member_of_nested hnested ?_
  simp [start?, Slot.isNull, Slot.members?]

/-- Nothing is filled in inside a member that is not structured or does not ask for it. -/
theorem member_of_plain (h : ¬ spec.FillsInside) (s : Slot) : spec.member s = spec.filled s := by
  have hnested : spec.nested? = none := by
    unfold nested?
    split
    case isTrue hpopulates =>
      rw [List.head?_eq_none_iff, ← List.isEmpty_iff]
      have hnot : ¬ spec.isStructured = true := fun hstructured => h ⟨hpopulates, hstructured⟩
      simpa [isStructured] using hnot
    case isFalse => rfl
  rw [member, inside_of_not_nested (Or.inl hnested)]

theorem filled_unspecified_of_value (h : spec.default? = some (.value v)) :
    spec.filled .unspecified = .ofJson v := by
  rw [filled, defaultOver?, h]
  rfl

theorem filled_unspecified_of_nothing
    (h : spec.default? = none ∨ spec.default? = some .unspecified) :
    spec.filled .unspecified = .unspecified := by
  rcases h with h | h <;> rw [filled, defaultOver?, h] <;> rfl

/-- A required member is there although it was left out. -/
theorem Dispensable.isSupplied_member {allowed : StructuredValidator → Prop}
    (h : spec.Dispensable allowed) (hrequired : spec.required = true) :
    (spec.member .unspecified).isSupplied = true := by
  cases h with
  | populated whole =>
    cases whole with
    | intro populates rules _ _ =>
      rw [member_of_rules populates rules]
      rfl
  | defaulted plain default _ =>
    rw [member_of_plain plain]
    exact isSupplied_filled default .unspecified
  | optional _ _ optional => simp [optional] at hrequired

/-- What is put in place of a member that was left out passes the rules of the member. -/
def AcceptsAbsence (spec : Spec) : Prop :=
  ∀ v, (spec.member .unspecified).toJson? = some v → spec.check v = Verdict.pass

/-- The object that is made out of nothing is as good as what is put in place of its members. -/
theorem object_fillMembers_iff {members : List (String × Spec)}
    {allowed : StructuredValidator → Prop} (hmembers : Entries.Ascending members)
    (hinside : ∀ m ∈ members, m.2.Dispensable allowed) :
    MemberCheck.object (Rule.memberChecks members)
        (.object (Population.fillMembers members [])) = Verdict.pass ↔
      ∀ m ∈ members, m.2.AcceptsAbsence := by
  have hlookup : ∀ m ∈ members, (Population.fillMembers members []).lookup m.1 =
      (m.2.member .unspecified).toJson? := by
    rintro ⟨key, spec⟩ hm
    exact Population.lookup_fillMembers_of_some hmembers.pairwise_ne .nil
      ((Entries.lookup_eq_some_iff hmembers.pairwise_ne).2 hm)
  rw [Rule.object_memberChecks_iff]
  constructor
  · intro h m hm v hv
    exact (h m hm).2 v ((hlookup m hm).trans hv)
  · intro h m hm
    constructor
    · intro hrequired
      have hsupplied := (hinside m hm).isSupplied_member hrequired
      rw [Members.contains, hlookup m hm]
      cases hmember : m.2.member .unspecified with
      | unspecified => simp [hmember, Slot.isSupplied] at hsupplied
      | _ => rfl
    · intro v hv
      exact h m hm v ((hlookup m hm).symm.trans hv)

/-- The rule of a self-sufficient specification accepts the object that is made out of nothing, if
it does not want a list and its members accept what is put in their places. -/
theorem check_fillMembers_of_rules_iff {kind : StructuredValidator}
    {members : List (String × Spec)} {allowed : StructuredValidator → Prop}
    (hrules : spec.rules = [.structured (.builtin kind) members])
    (hmembers : Entries.Ascending members)
    (hinside : ∀ m ∈ members, m.2.Dispensable allowed) :
    spec.check (.object (Population.fillMembers members [])) = Verdict.pass ↔
      kind ≠ .listOfObjects ∧ ∀ m ∈ members, m.2.AcceptsAbsence := by
  have hobject := object_fillMembers_iff hmembers hinside
  rw [check_of_single hrules, Rule.check_builtin, ← hobject]
  apply StructuredValidator.check_object_iff
  -- Nothing was put into an empty object, so there is nothing to reject.
  intro hempty
  rw [hobject]
  intro m hm v hv
  have hkey : members.lookup m.1 = some m.2 :=
    (Entries.lookup_eq_some_iff hmembers.pairwise_ne).2 hm
  have hlookup : (Population.fillMembers members []).lookup m.1 =
      (m.2.member .unspecified).toJson? :=
    Population.lookup_fillMembers_of_some hmembers.pairwise_ne .nil hkey
  rw [hempty, hv] at hlookup
  simp at hlookup

theorem acceptsAbsence_of_rules_iff {kind : StructuredValidator} {members : List (String × Spec)}
    (hpopulates : spec.populateMembers = true)
    (hrules : spec.rules = [.structured (.builtin kind) members]) :
    spec.AcceptsAbsence ↔
      spec.check (.object (Population.fillMembers members [])) = Verdict.pass := by
  rw [AcceptsAbsence, member_of_rules hpopulates hrules]
  simp [Slot.toJson?]

/-! ## The whole tree -/

/-- A member that may be left out in general may be left out where lists are not allowed, if and
only if what is put in its place passes; given this for members that are made whole. -/
theorem Dispensable.acceptsAbsence_iff (h : spec.Dispensable fun _ => True)
    (hwhole : (spec.SelfSufficient fun _ => True) →
      (spec.AcceptsAbsence ↔ spec.SelfSufficient (· ≠ .listOfObjects))) :
    spec.AcceptsAbsence ↔ spec.Dispensable (· ≠ .listOfObjects) := by
  cases h with
  | populated whole =>
    rw [hwhole whole]
    constructor
    · exact .populated
    · intro hdispensable
      cases hdispensable with
      | populated whole' => exact whole'
      | defaulted plain _ _ => exact absurd whole.fillsInside plain
      | optional plain _ _ => exact absurd whole.fillsInside plain
  | @defaulted _ w plain default accepted =>
    refine iff_of_true ?_ (.defaulted plain default accepted)
    intro v hv
    rw [member_of_plain plain, filled_unspecified_of_value default, Slot.toJson?_ofJson] at hv
    rw [← Option.some.inj hv]
    exact accepted
  | optional plain nothing optional =>
    refine iff_of_true ?_ (.optional plain nothing optional)
    intro v hv
    rw [member_of_plain plain, filled_unspecified_of_nothing nothing] at hv
    simp [Slot.toJson?] at hv

/-- A self-sufficient specification accepts what is made out of nothing if and only if it would be
self-sufficient without rules that want lists. -/
theorem SelfSufficient.acceptsAbsence_iff (h : spec.SelfSufficient fun _ => True)
    (hordered : spec.Everywhere OrderedMembers) :
    spec.AcceptsAbsence ↔ spec.SelfSufficient (· ≠ .listOfObjects) := by
  -- By induction on what is nested; a member that is not self-sufficient ends the descent.
  induction hordered with
  | @intro spec here inside ih =>
    cases h with
    | @intro _ kind members populates rules _ dispensable =>
      have hmem : members ∈ spec.structuredMembers := by
        simp [structuredMembers_of_rules rules]
      have hmembers : ∀ m ∈ members,
          (m.2.AcceptsAbsence ↔ m.2.Dispensable (· ≠ .listOfObjects)) := fun m hm =>
        (dispensable m hm).acceptsAbsence_iff fun hself => ih members hmem m hm hself
      rw [acceptsAbsence_of_rules_iff populates rules,
        check_fillMembers_of_rules_iff rules (here members hmem) dispensable]
      constructor
      · rintro ⟨hkind, haccepts⟩
        exact .intro populates rules hkind fun m hm => (hmembers m hm).1 (haccepts m hm)
      · intro hself
        cases hself with
        | @intro _ kind' members' _ rules' hkind' dispensable' =>
          obtain ⟨rfl, rfl⟩ : kind = kind' ∧ members = members' := by
            simpa [rules] using rules'
          exact ⟨hkind', fun m hm => (hmembers m hm).2 (dispensable' m hm)⟩

end SpecOf

end AttributeSchema
