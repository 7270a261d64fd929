import AttributeSchema.Proofs.Check.Extensional

/-!
# The verdict of rules does not depend on key order

A rule that is made of built-in and bundled validators accepts both or neither of two writings of one
value, since a structured validator looks members up by their keys. What it says of a missing key names
the keys in ascending order, so it is the same as well; a value that is no list is quoted as it was
written. Main statement: `Rule.check_keyOrder`.
-/

namespace AttributeSchema

open Verdict (Extensional)

/-! ## Items -/

namespace Verdict

variable {check : Json → Verdict}

theorem Extensional.all (h : Extensional check) {xs ys : List Json}
    (hitems : List.Forall₂ Json.Alike xs ys) (hxs : Verdict.all check xs = pass) :
    Verdict.all check ys = pass := by
  rw [all_eq_pass_iff] at hxs ⊢
  induction hitems with
  | nil => exact hxs
  | cons hxy _ ih =>
    obtain ⟨hx, hxs⟩ := List.forall_mem_cons.1 hxs
    exact List.forall_mem_cons.2 ⟨h hxy hx, ih hxs⟩

/-- The first item that is rejected decides, and where it is rejected in the same words in both
writings the verdicts are the same. -/
theorem all_eq_of_first (h : Extensional check) {pre post ys : List Json} {x : Json}
    (hitems : List.Forall₂ Json.Alike (pre ++ x :: post) ys) (hpre : ∀ u ∈ pre, check u = pass)
    (hreject : check x ≠ pass) (hx : ∀ y, Json.Alike x y → check x = check y) :
    Verdict.all check (pre ++ x :: post) = Verdict.all check ys := by
  induction pre generalizing ys with
  | nil =>
    cases hitems with
    | cons hxy _ =>
      rw [List.nil_append, Verdict.all, Verdict.all, ← hx _ hxy]
      cases hverdict : check x with
      | ok u => exact absurd hverdict hreject
      | error reason => rfl
  | cons u pre ih =>
    obtain ⟨hu, hpre⟩ := List.forall_mem_cons.1 hpre
    cases hitems with
    | cons hux hrest =>
      have hu' := h hux hu
      rw [List.cons_append, Verdict.all, Verdict.all, hu, hu']
      exact ih hrest hpre

end Verdict

/-! ## Members -/

namespace MemberCheck

variable {checks : List MemberCheck}

/-- Members are looked up by their keys, and each is judged extensionally. -/
theorem extensional_object (h : ∀ m ∈ checks, Extensional m.check) :
    Extensional (object checks) := by
  intro v w hvw hv
  obtain ⟨xs, rfl⟩ := exists_object_of_pass hv
  obtain ⟨ys, rfl⟩ := hvw.exists_object
  rw [object_eq_pass_iff] at hv ⊢
  obtain ⟨hrequired, hmembers⟩ := hv
  refine ⟨fun m hm hm' => hvw.contains_eq m.key ▸ hrequired m hm hm', fun m hm => ?_⟩
  cases hy : ys.lookup m.key with
  | none => simp [onObject, hy]
  | some y =>
    obtain ⟨x, hx, hyx⟩ := hvw.symm.exists_lookup hy
    have hpass : m.check x = Verdict.pass := by simpa [onObject, hx] using hmembers m hm
    simpa [onObject, hy] using h m hm hyx.symm hpass

theorem pairwise_ascending (keys : List String) : (ascending keys).Pairwise (· ≤ ·) := by
  have hsorted : (ascending keys).Pairwise fun a b => (!decide (b < a)) = true := by
    apply List.pairwise_mergeSort
    · intro a b c hab hbc
      simp only [Bool.not_eq_true', decide_eq_false_iff_not, String.not_lt] at hab hbc ⊢
      exact String.le_trans hab hbc
    · intro a b
      simp only [Bool.or_eq_true, Bool.not_eq_true', decide_eq_false_iff_not, String.not_lt]
      exact String.le_total a b
  refine hsorted.imp fun h => ?_
  simpa only [Bool.not_eq_true', decide_eq_false_iff_not, String.not_lt] using h

/-- Strings come out in ascending order whatever order they are given in. -/
theorem ascending_eq_of_perm {ks ls : List String} (h : ks.Perm ls) :
    ascending ks = ascending ls := by
  have hperm : (ascending ks).Perm (ascending ls) :=
    (List.mergeSort_perm ks _).trans (h.trans (List.mergeSort_perm ls _).symm)
  exact hperm.eq_of_pairwise (fun _ _ _ _ => String.le_antisymm) (pairwise_ascending ks)
    (pairwise_ascending ls)

/-- What is said of a missing key does not depend on key order. -/
theorem object_eq_of_missing {xs ys : List (String × Json)}
    (h : Json.Alike (.object xs) (.object ys)) {m : MemberCheck} (hm : m ∈ checks)
    (hrequired : m.required = true) (hmissing : Members.contains m.key xs = false) :
    object checks (.object xs) = object checks (.object ys) := by
  have hxs : ((checks.filter (·.required)).map (·.key)).all (Members.contains · xs) = false := by
    rw [Bool.eq_false_iff, ne_eq, all_required_iff]
    intro hall
    simp [hall m hm hrequired] at hmissing
  have hcontains : (Members.contains · xs) = (Members.contains · ys) := funext h.contains_eq
  have hys := hcontains ▸ hxs
  simp only [object, hxs, hys, Bool.false_eq_true, if_false, ascending_eq_of_perm h.keys_perm]

end MemberCheck

namespace StructuredValidator

variable {kind : StructuredValidator} {checks : List MemberCheck} {v : Json}

/-- What a validator of one object accepts without a look at the members has one writing. -/
theorem rigid_or_object_of_check (hkind : kind ≠ .listOfObjects)
    (h : kind.check checks v = Verdict.pass) :
    v.Rigid ∨ MemberCheck.object checks v = Verdict.pass := by
  have hempty : isEmptyObject v = true → v.Rigid := by
    intro hv
    rw [isEmptyObject.eq_def] at hv
    split at hv
    · exact Json.rigid_object_nil
    · simp at hv
  have hnull : v.isNull = true → v.Rigid := fun hv => Json.isNull_iff.1 hv ▸ Json.rigid_null
  cases kind with
  | object => exact Or.inr h
  | objectOrNull =>
    simp only [check] at h
    split at h
    · exact Or.inl (hnull ‹_›)
    · exact Or.inr h
  | objectOrEmpty =>
    simp only [check] at h
    split at h
    · exact Or.inl (hempty ‹_›)
    · exact Or.inr h
  | objectOrNothing =>
    simp only [check] at h
    split at h
    · exact Or.inl ((Bool.or_eq_true_iff.1 ‹_›).elim hnull hempty)
    · exact Or.inr h
  | listOfObjects => exact absurd rfl hkind

/-- A validator of one object accepts what its members' checks accept. -/
theorem check_of_object (hkind : kind ≠ .listOfObjects)
    (h : MemberCheck.object checks v = Verdict.pass) : kind.check checks v = Verdict.pass := by
  cases kind with
  | object => exact h
  | objectOrNull | objectOrEmpty | objectOrNothing => simp only [check, h, ite_self]
  | listOfObjects => exact absurd rfl hkind

theorem extensional_check (kind : StructuredValidator) (h : ∀ m ∈ checks, Extensional m.check) :
    Extensional (kind.check checks) := by
  have hobject : Extensional (MemberCheck.object checks) := MemberCheck.extensional_object h
  intro v w hvw hv
  by_cases hkind : kind = .listOfObjects
  · subst hkind
    cases v with
    | array xs =>
      obtain ⟨ys, rfl, hitems⟩ := hvw.exists_array
      exact hobject.all hitems hv
    | _ => simp [check, Verdict.pass] at hv
  · rcases rigid_or_object_of_check hkind hv with hrigid | hpass
    · rw [hrigid w hvw]
      exact hv
    · exact check_of_object hkind (hobject hvw hpass)

/-- Of a missing key a validator of one object says the same whatever the key order is. -/
theorem check_eq_of_missing (hkind : kind ≠ .listOfObjects) {xs ys : List (String × Json)}
    (h : Json.Alike (.object xs) (.object ys)) {m : MemberCheck} (hm : m ∈ checks)
    (hrequired : m.required = true) (hmissing : Members.contains m.key xs = false) :
    kind.check checks (.object xs) = kind.check checks (.object ys) := by
  have hobject := MemberCheck.object_eq_of_missing h hm hrequired hmissing
  have hempty : isEmptyObject (.object xs) = isEmptyObject (.object ys) := by
    have hlength := h.keys_perm.length_eq
    cases xs <;> cases ys <;> simp_all [isEmptyObject, Members.keys]
  cases kind with
  | object => exact hobject
  | objectOrNull | objectOrEmpty | objectOrNothing => simp [check, hempty, hobject, Json.isNull]
  | listOfObjects => exact absurd rfl hkind

end StructuredValidator

/-! ## Rules -/

namespace Rule

/-- The rule is made of built-in and bundled validators at every depth, with any parameters. -/
inductive Provided : Rule → Prop
  | leaf (v : LeafValidator) (param : Option Json) (regex : Option Regex) :
      Provided (.leaf (.builtin v) param regex)
  | bundled {v : CustomLeaf} (hv : .leaf v ∈ Bundled.validators) (param : Option Json)
      (regex : Option Regex) : Provided (.leaf (.custom v) param regex)
  | structured (kind : StructuredValidator) {members : List (String × Spec)}
      (inside : ∀ m ∈ members, ∀ r ∈ m.2.rules, Provided r) :
      Provided (.structured (.builtin kind) members)

theorem extensional_checkAll {rules : List Rule} (h : ∀ r ∈ rules, Extensional (check r)) :
    Extensional (checkAll rules) := by
  intro v w hvw hv
  rw [checkAll_eq_pass_iff] at hv ⊢
  exact fun r hr => h r hr hvw (hv r hr)

theorem extensional_memberChecks {members : List (String × Spec)}
    (h : ∀ m ∈ members, ∀ r ∈ m.2.rules, Extensional (check r)) :
    ∀ m ∈ memberChecks members, Extensional m.check := by
  rw [memberChecks_eq_map, List.forall_mem_map]
  exact fun m hm => extensional_checkAll (h m hm)

/-- The verdict of a rule does not depend on key order. -/
theorem Provided.extensional {r : Rule} (h : r.Provided) : Extensional (check r) := by
  induction h with
  | leaf v param regex =>
    intro v' w hvw hv
    rw [check] at hv ⊢
    exact v.extensional_check param regex hvw hv
  | bundled hv param regex =>
    intro v w hvw hcheck
    rw [check] at hcheck ⊢
    exact Bundled.extensional_check hv param hvw hcheck
  | structured kind inside ih =>
    rw [check_builtin]
    exact kind.extensional_check (extensional_memberChecks ih)

/-- The value is an object without some key that is required. -/
def Lacks (members : List (String × Spec)) (v : Json) : Prop :=
  ∃ ms, v = .object ms ∧ ∃ m ∈ members, m.2.required = true ∧ Members.contains m.1 ms = false

/-- **The verdict of rules does not depend on key order.** Of two writings of one value, rules made of
built-in and bundled validators accept both or neither. Where an object lacks a required key, a built-in
structured rule for objects gives the very same verdict on both, the words included; so does the one for
lists of objects where the first item it rejects lacks a required key. -/
theorem check_keyOrder {v w : Json} (h : v.Alike w) :
    (∀ rules : List Rule, (∀ r ∈ rules, r.Provided) →
      (checkAll rules v = Verdict.pass ↔ checkAll rules w = Verdict.pass)) ∧
    (∀ kind : StructuredValidator, kind ≠ .listOfObjects → ∀ members, Lacks members v →
      check (.structured (.builtin kind) members) v
        = check (.structured (.builtin kind) members) w) ∧
    ∀ members, (∀ m ∈ members, ∀ r ∈ m.2.rules, Provided r) →
      ∀ pre x post, v = .array (pre ++ x :: post) →
        (∀ u ∈ pre, check (.structured (.builtin .object) members) u = Verdict.pass) →
        Lacks members x →
        check (.structured (.builtin .listOfObjects) members) v
          = check (.structured (.builtin .listOfObjects) members) w := by
  refine ⟨?verdict, ?objects, ?lists⟩
  case verdict =>
    intro rules hrules
    exact (extensional_checkAll fun r hr => (hrules r hr).extensional).iff h
  case objects =>
    rintro kind hkind members ⟨xs, rfl, m, hm, hrequired, hmissing⟩
    obtain ⟨ys, rfl⟩ := h.exists_object
    rw [check_builtin]
    exact kind.check_eq_of_missing hkind h (mem_memberChecks hm) hrequired hmissing
  case lists =>
    rintro members hmembers pre x post rfl hpre ⟨xs, rfl, m, hm, hrequired, hmissing⟩
    obtain ⟨ys, rfl, hitems⟩ := h.exists_array
    have hm' := mem_memberChecks hm
    have hobject : Extensional (MemberCheck.object (memberChecks members)) :=
      MemberCheck.extensional_object
        (extensional_memberChecks fun m hm r hr => (hmembers m hm r hr).extensional)
    rw [check_builtin]
    refine Verdict.all_eq_of_first hobject hitems (fun u hu => ?_) ?_ fun y hy => ?_
    · have hu' := hpre u hu
      rw [check_builtin] at hu'
      exact hu'
    · intro hpass
      simp [(MemberCheck.object_eq_pass_iff.1 hpass).1 _ hm' hrequired] at hmissing
    · obtain ⟨zs, rfl⟩ := hy.exists_object
      exact MemberCheck.object_eq_of_missing hy hm' hrequired hmissing

/-- Two keys in either order, alone and as the first item of a list. -/
theorem check_keyOrder_swapped :
    let v : Json := .object [("a", .ofInt 1), ("b", .null)]
    let w : Json := .object [("b", .null), ("a", .ofInt 1)]
    let counted : Rule := .structured (.builtin .object)
      [("a", { rules := [.leaf (.builtin .nonNegative) none none] })]
    let demanding : List (String × Spec) := [("c", { required := true })]
    v.Alike w ∧
      (counted.Provided ∧ checkAll [counted] v = Verdict.pass ∧ checkAll [counted] w = Verdict.pass) ∧
      (Lacks demanding v ∧
        check (.structured (.builtin .object) demanding) v
          = check (.structured (.builtin .object) demanding) w) ∧
      check (.structured (.builtin .listOfObjects) demanding) (.array [v])
        = check (.structured (.builtin .listOfObjects) demanding) (.array [w]) := by
  intro v w counted demanding
  have hone : (Json.ofInt 1).WellFormed := .number _
  have hv : v.WellFormed := .object (by simp) (by simp [hone, Json.WellFormed.null])
  have hw : w.WellFormed := .object (by simp) (by simp [hone, Json.WellFormed.null])
  have h : v.Alike w := ⟨hv, hw, by rfl⟩
  have hlist : Json.Alike (.array [v]) (.array [w]) :=
    ⟨.array (by simpa using hv), .array (by simpa using hw), by rfl⟩
  have hcounted : counted.Provided := .structured .object (by simp [Provided.leaf])
  have hlacks : Lacks demanding v := ⟨_, rfl, _, List.mem_singleton_self _, rfl, rfl⟩
  have hpass : checkAll [counted] v = Verdict.pass := by rfl
  refine ⟨h, ⟨hcounted, hpass, ?_⟩, ⟨hlacks, ?_⟩, ?_⟩
  · exact ((check_keyOrder h).1 [counted] (by simpa using hcounted)).1 hpass
  · exact (check_keyOrder h).2.1 .object (by decide) demanding hlacks
  · exact (check_keyOrder hlist).2.2 demanding (by simp [demanding]) [] v [] rfl (by simp) hlacks

/-- An object is no list, and the rule for lists of objects quotes it as it was written, also where it
lacks a required key. -/
theorem not_check_keyOrder_of_listOfObjects :
    let v : Json := .object [("a", .null), ("b", .null)]
    let w : Json := .object [("b", .null), ("a", .null)]
    let members : List (String × Spec) := [("c", { required := true })]
    let rule : Rule := .structured (.builtin .listOfObjects) members
    rule.Provided ∧ v.Alike w ∧ Lacks members v ∧ Lacks members w ∧
      ∃ d e, rule.check v = .error d ∧ rule.check w = .error e ∧ d.message ≠ e.message := by
  intro v w members rule
  have hv : v.WellFormed := .object (by simp) (by simp [Json.WellFormed.null])
  have hw : w.WellFormed := .object (by simp) (by simp [Json.WellFormed.null])
  refine ⟨.structured .listOfObjects (by simp [members]), ⟨hv, hw, by rfl⟩,
    ⟨_, rfl, _, List.mem_singleton_self _, rfl, rfl⟩,
    ⟨_, rfl, _, List.mem_singleton_self _, rfl, rfl⟩, .notList v, .notList w, by rfl, by rfl, ?_⟩
  decide

end Rule

end AttributeSchema
