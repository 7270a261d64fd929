import AttributeSchema.Dict
import AttributeSchema.Json.Members
import Mathlib.Data.List.Perm.Subperm

/-!
# Equality of well-formed values is an equivalence

A value in which no object repeats a key is equal to itself, equal to whatever it equals, and passes
equality on. With a repeated key this fails, since the look-up of the key finds its first member only.
Main statements: `Json.beq_self`, `Json.beq_symm` and `Json.beq_trans`.
-/

namespace AttributeSchema

namespace Number

theorem same_self (n : Number) : n.same n = true := by
  cases n with
  | integer n => simp [same]
  | real x => exact x.same_refl

theorem same_symm {m n : Number} (h : m.same n = true) : n.same m = true := by
  cases m with
  | integer m =>
    cases n with
    | integer n =>
      rw [same, beq_iff_eq] at h ⊢
      exact h.symm
    | real x => simp [same] at h
  | real x =>
    cases n with
    | integer n => simp [same] at h
    | real y => exact (y.same_comm x).trans h

theorem same_trans {l m n : Number} (hlm : l.same m = true) (hmn : m.same n = true) :
    l.same n = true := by
  cases l <;> cases m <;> cases n <;> simp only [same, Bool.false_eq_true] at hlm hmn ⊢
  case integer.integer.integer =>
    rw [beq_iff_eq] at hlm hmn ⊢
    exact hlm.trans hmn
  case real.real.real x y z =>
    simp only [Binary64.same, Binary64.isZero, Bool.and_eq_true, Bool.or_eq_true, beq_iff_eq]
      at hlm hmn ⊢
    refine ⟨hlm.1.trans hmn.1, ?_⟩
    rcases hlm.2 with hsign | hzero
    · rcases hmn.2 with hsign' | hzero
      · exact Or.inl (hsign.trans hsign')
      · exact Or.inr (hlm.1.trans hzero)
    · exact Or.inr hzero

end Number

namespace Json

/-- No object in the value repeats a key. -/
inductive WellFormed : Json → Prop
  | null : WellFormed .null
  | bool (b : Bool) : WellFormed (.bool b)
  | number (n : Number) : WellFormed (.number n)
  | string (s : String) : WellFormed (.string s)
  | array {items : List Json} (inside : ∀ v ∈ items, WellFormed v) : WellFormed (.array items)
  | object {members : List (String × Json)} (distinct : members.Pairwise fun a b => a.1 ≠ b.1)
      (inside : ∀ m ∈ members, WellFormed m.2) : WellFormed (.object members)

theorem sameItems_self {items : List Json} (h : ∀ v ∈ items, same v v = true) :
    sameItems items items = true := by
  induction items with
  | nil => rw [sameItems]
  | cons v items ih =>
    obtain ⟨hv, hitems⟩ := List.forall_mem_cons.1 h
    rw [sameItems, hv, ih hitems, Bool.and_self]

/-- The members have equal ones under the same keys. -/
theorem sameMembers_iff {xs ys : List (String × Json)} :
    sameMembers xs ys = true ↔ ∀ m ∈ xs, ∃ w, ys.lookup m.1 = some w ∧ same m.2 w = true := by
  induction xs with
  | nil => simp [sameMembers]
  | cons x xs ih =>
    obtain ⟨k, v⟩ := x
    rw [sameMembers, Bool.and_eq_true, ih, List.forall_mem_cons]
    cases ys.lookup k <;> simp

/-- **A well-formed value is equal to itself.** -/
theorem beq_self {v : Json} (h : v.WellFormed) : (v == v) = true := by
  rw [beq_def]
  induction h with
  | null => rfl
  | bool b => simp [same]
  | number n => exact n.same_self
  | string s => simp [same]
  | array inside ih =>
    rw [same]
    exact sameItems_self ih
  | object distinct inside ih =>
    rw [same, beq_self_eq_true, Bool.true_and, sameMembers_iff]
    intro m hm
    exact ⟨m.2, (Entries.lookup_eq_some_iff distinct).2 hm, ih m hm⟩

/-! ## Symmetry -/

theorem sameItems_symm {xs ys : List Json}
    (hsymm : ∀ v ∈ xs, ∀ w, same v w = true → same w v = true) (h : sameItems xs ys = true) :
    sameItems ys xs = true := by
  induction xs generalizing ys with
  | nil =>
    cases ys with
    | nil => rw [sameItems]
    | cons y ys => simp [sameItems] at h
  | cons x xs ih =>
    cases ys with
    | nil => simp [sameItems] at h
    | cons y ys =>
      obtain ⟨hx, hxs⟩ := List.forall_mem_cons.1 hsymm
      rw [sameItems, Bool.and_eq_true] at h ⊢
      exact ⟨hx y h.1, ih hxs h.2⟩

/-- Where each member of `xs` has an equal one in `ys`, and there are as many members, the keys are the
same and `ys` repeats none. -/
theorem keys_perm {xs ys : List (String × Json)} (hdistinct : xs.Pairwise fun a b => a.1 ≠ b.1)
    (hlength : xs.length = ys.length)
    (hmembers : ∀ m ∈ xs, ∃ w, ys.lookup m.1 = some w ∧ same m.2 w = true) :
    (Members.keys xs).Perm (Members.keys ys) := by
  have hnodup : (Members.keys xs).Nodup := List.pairwise_map.2 hdistinct
  have hsub : (Members.keys xs).Subperm (Members.keys ys) := by
    apply List.subperm_of_subset hnodup
    intro k hk
    obtain ⟨m, hm, rfl⟩ := List.mem_map.1 hk
    obtain ⟨w, hw, -⟩ := hmembers m hm
    exact List.mem_map.2 ⟨_, Members.mem_of_lookup hw, rfl⟩
  exact hsub.perm_of_length_le (by simp [Members.keys, hlength])

/-- **Equality with a well-formed value is symmetric.** -/
theorem beq_symm {v w : Json} (hv : v.WellFormed) (h : (v == w) = true) : (w == v) = true := by
  rw [beq_def] at h ⊢
  induction hv generalizing w with
  | null => cases w <;> simp [same] at h ⊢
  | bool b => cases w <;> simp_all [same]
  | number n =>
    cases w with
    | number n' => exact n.same_symm h
    | _ => simp [same] at h
  | string s => cases w <;> simp_all [same]
  | array inside ih =>
    cases w with
    | array items =>
      rw [same] at h ⊢
      exact sameItems_symm ih h
    | _ => simp [same] at h
  | @object xs distinct inside ih =>
    cases w with
    | object ys =>
      rw [same, Bool.and_eq_true, beq_iff_eq, sameMembers_iff] at h ⊢
      obtain ⟨hlength, hmembers⟩ := h
      have hperm := keys_perm distinct hlength hmembers
      refine ⟨hlength.symm, fun m hm => ?_⟩
      obtain ⟨x, hx, hkey⟩ := List.mem_map.1 (hperm.mem_iff.2 (List.mem_map_of_mem hm))
      obtain ⟨w, hw, hsame⟩ := hmembers x hx
      -- The member that equals `x` is the only one under its key, so it is `m`.
      have hys : ys.Pairwise fun a b => a.1 ≠ b.1 :=
        List.pairwise_map.1 (hperm.nodup_iff.1 (List.pairwise_map.2 distinct))
      have hw' : ys.lookup x.1 = some m.2 :=
        (Entries.lookup_eq_some_iff hys).2 (by rw [hkey]; exact hm)
      obtain rfl : w = m.2 := Option.some.inj (hw.symm.trans hw')
      refine ⟨x.2, ?_, ih x hx hsame⟩
      rw [← hkey]
      exact (Entries.lookup_eq_some_iff distinct).2 hx
    | _ => simp [same] at h

/-! ## Transitivity -/

theorem sameItems_trans {xs ys zs : List Json}
    (htrans : ∀ v ∈ ys, ∀ u w, same u v = true → same v w = true → same u w = true)
    (hxy : sameItems xs ys = true) (hyz : sameItems ys zs = true) : sameItems xs zs = true := by
  induction ys generalizing xs zs with
  | nil =>
    cases xs with
    | nil => exact hyz
    | cons x xs => simp [sameItems] at hxy
  | cons y ys ih =>
    obtain ⟨hy, hys⟩ := List.forall_mem_cons.1 htrans
    cases xs with
    | nil => simp [sameItems] at hxy
    | cons x xs =>
      cases zs with
      | nil => simp [sameItems] at hyz
      | cons z zs =>
        rw [sameItems, Bool.and_eq_true] at hxy hyz ⊢
        exact ⟨hy x z hxy.1 hyz.1, ih hys hxy.2 hyz.2⟩

/-- **Equality through a well-formed value is transitive.** -/
theorem beq_trans {u v w : Json} (hv : v.WellFormed) (huv : (u == v) = true)
    (hvw : (v == w) = true) : (u == w) = true := by
  rw [beq_def] at huv hvw ⊢
  induction hv generalizing u w with
  | null =>
    cases u with
    | null => exact hvw
    | _ => simp [same] at huv
  | bool b =>
    cases u with
    | bool a =>
      obtain rfl : a = b := by simpa [same] using huv
      exact hvw
    | _ => simp [same] at huv
  | number n =>
    cases u with
    | number l =>
      cases w with
      | number m => exact Number.same_trans huv hvw
      | _ => simp [same] at hvw
    | _ => simp [same] at huv
  | string s =>
    cases u with
    | string r =>
      obtain rfl : r = s := by simpa [same] using huv
      exact hvw
    | _ => simp [same] at huv
  | array inside ih =>
    cases u with
    | array xs =>
      cases w with
      | array zs =>
        rw [same] at huv hvw ⊢
        exact sameItems_trans (fun v hv _ _ => ih v hv) huv hvw
      | _ => simp [same] at hvw
    | _ => simp [same] at huv
  | object distinct inside ih =>
    cases u with
    | object xs =>
      cases w with
      | object zs =>
        rw [same, Bool.and_eq_true, beq_iff_eq, sameMembers_iff] at huv hvw ⊢
        refine ⟨huv.1.trans hvw.1, fun m hm => ?_⟩
        obtain ⟨y, hy, hxy⟩ := huv.2 m hm
        have hmem := Members.mem_of_lookup hy
        obtain ⟨z, hz, hyz⟩ := hvw.2 _ hmem
        exact ⟨z, hz, ih _ hmem hxy hyz⟩
      | _ => simp [same] at hvw
    | _ => simp [same] at huv

end Json

end AttributeSchema
