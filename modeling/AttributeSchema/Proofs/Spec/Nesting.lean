import AttributeSchema.Rule

/-!
# Nested specifications and rules

What holds of a specification at every depth, and which rules judge which parts of a value. A rule
that accepts a value accepts it at every depth: every nested rule that judges a part of the value
accepts that part. What a structured validator is shown of the members is put in terms of their
specifications first. Main statement: `Rule.check_of_reaches`.
-/

namespace AttributeSchema

/-- A property holds of a specification and of every specification nested in it. -/
inductive SpecOf.Everywhere (p : Spec → Prop) : Spec → Prop
  | intro {spec : Spec} (here : p spec)
      (inside : ∀ members ∈ spec.structuredMembers, ∀ m ∈ members, Everywhere p m.2) :
      Everywhere p spec

theorem SpecOf.Everywhere.here {p : Spec → Prop} {spec : Spec} (h : spec.Everywhere p) :
    p spec := by
  cases h with
  | intro here _ => exact here

/-- Without structured rules there is nothing but the specification itself. -/
theorem SpecOf.Everywhere.of_leaf {p : Spec → Prop} {spec : Spec} (h : p spec)
    (hleaf : spec.structuredMembers = []) : spec.Everywhere p :=
  .intro h fun members hmem => by simp [hleaf] at hmem

theorem SpecOf.Everywhere.of_single {p : Spec → Prop} {spec : Spec}
    {members : List (String × Spec)} (h : p spec) (hsingle : spec.structuredMembers = [members])
    (hinside : ∀ m ∈ members, m.2.Everywhere p) : spec.Everywhere p := by
  refine .intro h fun specs hspecs => ?_
  rw [hsingle, List.mem_singleton] at hspecs
  exact hspecs ▸ hinside

theorem SpecOf.sizeOf_lt_of_mem {spec : Spec} {members : List (String × Spec)}
    (h : members ∈ spec.structuredMembers) {m : String × Spec} (hm : m ∈ members) :
    sizeOf m.2 < sizeOf spec := by
  rw [SpecOf.structuredMembers, List.mem_filterMap] at h
  obtain ⟨r, hr, hmembers⟩ := h
  cases r with
  | leaf kind param regex => simp [Rule.members?] at hmembers
  | structured kind specs =>
    obtain rfl : specs = members := by simpa [Rule.members?] using hmembers
    obtain ⟨key, spec'⟩ := m
    have hrule := List.sizeOf_lt_of_mem hr
    have hmember := List.sizeOf_lt_of_mem hm
    cases spec
    simp only [Rule.structured.sizeOf_spec, Prod.mk.sizeOf_spec, SpecOf.mk.sizeOf_spec]
      at hrule hmember ⊢
    omega

/-- Specifications nest to a finite depth. -/
theorem SpecOf.everywhere_of_forall {p : Spec → Prop} (h : ∀ spec, p spec) (spec : Spec) :
    spec.Everywhere p :=
  .intro (h spec) fun _ hmembers m hm =>
    have := sizeOf_lt_of_mem hmembers hm
    everywhere_of_forall h m.2
termination_by sizeOf spec

/-! ## Verdicts -/

theorem Verdict.all_eq_pass_iff {α : Type} {check : α → Verdict} {xs : List α} :
    Verdict.all check xs = Verdict.pass ↔ ∀ x ∈ xs, check x = Verdict.pass := by
  induction xs with
  | nil => simp [Verdict.all]
  | cons x xs ih =>
    rw [Verdict.all, List.forall_mem_cons]
    cases hx : check x with
    | ok u => simpa [pass] using ih
    | error reason => simp [pass]

/-- A rejection of some checks is that of the first one that rejects. -/
theorem Verdict.exists_of_all_error {α : Type} {check : α → Verdict} {xs : List α}
    {reason : Diagnostic} (h : Verdict.all check xs = .error reason) :
    ∃ pre x post, xs = pre ++ x :: post ∧ (∀ y ∈ pre, check y = pass) ∧
      check x = .error reason := by
  induction xs with
  | nil => simp [Verdict.all, pass] at h
  | cons x xs ih =>
    rw [Verdict.all] at h
    cases hx : check x with
    | error reason' =>
      rw [hx] at h
      obtain rfl := Except.error.inj h
      exact ⟨[], x, xs, rfl, by simp, hx⟩
    | ok u =>
      rw [hx] at h
      obtain ⟨pre, y, post, rfl, hpre, hy⟩ := ih h
      refine ⟨x :: pre, y, post, rfl, ?_, hy⟩
      exact List.forall_mem_cons.2 ⟨hx, hpre⟩

theorem Verdict.all_map {α β : Type} (check : β → Verdict) (f : α → β) (xs : List α) :
    Verdict.all check (xs.map f) = Verdict.all (fun x => check (f x)) xs := by
  induction xs with
  | nil => rfl
  | cons x xs ih => rw [List.map_cons, Verdict.all, Verdict.all, ih]

namespace MemberCheck

/-- Which keys an object needs: those of the required members. -/
theorem all_required_iff {checks : List MemberCheck} {ms : List (String × Json)} :
    (((checks.filter (·.required)).map (·.key)).all fun k => Members.contains k ms) = true ↔
      ∀ m ∈ checks, m.required = true → Members.contains m.key ms = true := by
  simp only [List.all_eq_true, List.mem_map, List.mem_filter]
  constructor
  · intro h m hm hrequired
    exact h _ ⟨m, ⟨hm, hrequired⟩, rfl⟩
  · rintro h _ ⟨m, ⟨hm, hrequired⟩, rfl⟩
    exact h m hm hrequired

/-- What an object has to fulfil for the checks of its members. -/
theorem object_eq_pass_iff {checks : List MemberCheck} {ms : List (String × Json)} :
    object checks (.object ms) = Verdict.pass ↔
      (∀ m ∈ checks, m.required = true → Members.contains m.key ms = true) ∧
        ∀ m ∈ checks, onObject ms m = Verdict.pass := by
  simp only [object]
  split
  case isTrue h =>
    rw [Verdict.all_eq_pass_iff]
    exact ⟨fun hall => ⟨all_required_iff.1 h, hall⟩, fun hall => hall.2⟩
  case isFalse h =>
    simp only [Verdict.pass, reduceCtorEq, false_iff, not_and]
    intro hrequired
    exact absurd (all_required_iff.2 hrequired) h

/-- Only objects pass the checks of members. -/
theorem exists_object_of_pass {checks : List MemberCheck} {v : Json}
    (h : object checks v = Verdict.pass) : ∃ ms, v = .object ms := by
  cases v with
  | object ms => exact ⟨ms, rfl⟩
  | _ => simp [object, Verdict.pass] at h

end MemberCheck

namespace Rule

theorem checkAll_eq_pass_iff {rules : List Rule} {v : Json} :
    checkAll rules v = Verdict.pass ↔ ∀ r ∈ rules, check r v = Verdict.pass :=
  Verdict.all_eq_pass_iff

/-! ## What structured validators are shown -/

theorem viewAll_eq_map (rules : List Rule) : viewAll rules = rules.map view := by
  induction rules with
  | nil => rw [viewAll, List.map_nil]
  | cons r rs ih => rw [viewAll, ih, List.map_cons]

theorem viewMembers_eq_map (members : List (String × Spec)) :
    viewMembers members = members.map fun m => (m.1, viewSpec m.2) := by
  induction members with
  | nil => rw [viewMembers, List.map_nil]
  | cons m members ih => rw [viewMembers, ih, List.map_cons]

theorem required_viewSpec (spec : Spec) : (viewSpec spec).required = spec.required := by
  cases spec
  rw [viewSpec]

theorem rules_viewSpec (spec : Spec) : (viewSpec spec).rules = spec.rules.map view := by
  cases spec
  rw [viewSpec, viewAll_eq_map]

/-- A validator can judge by the rules that it is shown. -/
theorem checkAll_viewSpec (spec : Spec) : RuleView.checkAll (viewSpec spec).rules = spec.check := by
  funext v
  rw [RuleView.checkAll, rules_viewSpec, Verdict.all_map]
  rfl

theorem memberChecks_eq_map (members : List (String × Spec)) :
    memberChecks members =
      members.map fun m => ⟨m.1, m.2.required, fun v => m.2.check v⟩ := by
  rw [memberChecks, viewMembers_eq_map, List.map_map]
  refine List.map_congr_left fun m _ => ?_
  rw [Function.comp_apply, MemberCheck.ofMember, required_viewSpec, checkAll_viewSpec]

theorem check_structured (kind : StructuredKind) (members : List (String × Spec)) :
    check (.structured kind members) = kind.check (viewMembers members) := by
  funext v
  rw [check, view]
  rfl

/-- A built-in structured rule judges a value by the checks of its members. -/
theorem check_builtin (kind : StructuredValidator) (members : List (String × Spec)) :
    check (.structured (.builtin kind) members) = kind.check (memberChecks members) :=
  check_structured (.builtin kind) members

/-- Each specified member has its check. -/
theorem mem_memberChecks {members : List (String × Spec)} {key : String} {spec : Spec}
    (h : (key, spec) ∈ members) :
    ⟨key, spec.required, fun v => spec.check v⟩ ∈ memberChecks members := by
  rw [memberChecks_eq_map]
  exact List.mem_map.2 ⟨_, h, rfl⟩

/-- The value is the object, or an array that holds it. -/
def HoldsObject (v : Json) (ms : List (String × Json)) : Prop :=
  v = .object ms ∨ ∃ items, v = .array items ∧ .object ms ∈ items

/-- What a built-in structured rule accepts has members that pass their checks. -/
theorem onObject_of_holdsObject {kind : StructuredValidator} {checks : List MemberCheck} {v : Json}
    {ms : List (String × Json)} (hcheck : kind.check checks v = Verdict.pass)
    (hobject : HoldsObject v ms) {m : MemberCheck} (hm : m ∈ checks) :
    MemberCheck.onObject ms m = Verdict.pass := by
  -- Some validators let the empty object pass unseen; it has no members to judge.
  have hempty : ms = [] → MemberCheck.onObject ms m = Verdict.pass := by
    rintro rfl
    rfl
  have hpass : MemberCheck.object checks (.object ms) = Verdict.pass →
      MemberCheck.onObject ms m = Verdict.pass :=
    fun h => (MemberCheck.object_eq_pass_iff.1 h).2 m hm
  rcases hobject with rfl | ⟨items, rfl, hitem⟩
  · cases kind with
    | object => exact hpass hcheck
    | objectOrNull => exact hpass hcheck
    | objectOrEmpty | objectOrNothing =>
      cases ms with
      | nil => exact hempty rfl
      | cons x xs => exact hpass hcheck
    | listOfObjects => simp [StructuredValidator.check, Verdict.pass] at hcheck
  · cases kind with
    | listOfObjects =>
      exact hpass (Verdict.all_eq_pass_iff.1 hcheck _ hitem)
    | _ =>
      have harray : MemberCheck.object checks (.array items) = Verdict.pass := hcheck
      obtain ⟨ms', h⟩ := MemberCheck.exists_object_of_pass harray
      simp at h

/-- Judging a value by a rule comes to judging a part of the value by a rule: by the rule itself, or
by a nested rule of a member. What a structured validator registered by name does is its own. -/
inductive Reaches : Rule → Json → Rule → Json → Prop
  | here (r : Rule) (v : Json) : Reaches r v r v
  | inside {kind : StructuredValidator} {members : List (String × Spec)} {v : Json}
      {ms : List (String × Json)} {key : String} {spec : Spec} {part : Json} {r r' : Rule}
      {w : Json}
      (hobject : HoldsObject v ms) (hspec : (key, spec) ∈ members)
      (hpart : ms.lookup key = some part) (hrule : r ∈ spec.rules) (rest : Reaches r part r' w) :
      Reaches (.structured (.builtin kind) members) v r' w

/-- **A rule accepts at every depth.** If a rule accepts a value then each rule that comes to judge
a part of the value accepts that part. -/
theorem check_of_reaches {r r' : Rule} {v w : Json} (hreaches : Reaches r v r' w)
    (hcheck : check r v = Verdict.pass) : check r' w = Verdict.pass := by
  induction hreaches with
  | here r v => exact hcheck
  | @inside kind members v ms key spec part r r' w hobject hspec hpart hrule rest ih =>
    have hmember : MemberCheck.onObject ms ⟨key, spec.required, fun v => spec.check v⟩
        = Verdict.pass := by
      rw [check_builtin] at hcheck
      exact onObject_of_holdsObject hcheck hobject (mem_memberChecks hspec)
    have hspecCheck : spec.check part = Verdict.pass := by
      simpa [MemberCheck.onObject, hpart] using hmember
    exact ih (checkAll_eq_pass_iff.1 hspecCheck r hrule)

end Rule

end AttributeSchema
