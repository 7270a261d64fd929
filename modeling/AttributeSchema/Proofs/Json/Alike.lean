import AttributeSchema.Diagnostic
import AttributeSchema.Proofs.Json.Equality

/-!
# Two writings of one value

Two values are alike if they are equal and neither repeats a key. They may differ in the order of
members at any depth, and in the sign of a zero. A check is extensional if of two alike values it
accepts both or neither. Where a check accepts only values that can be written in one way it is
extensional for that reason alone. Main statement: `Verdict.Extensional.of_rigid`.
-/

namespace AttributeSchema

namespace Json

/-- Two writings of one value, neither with a repeated key. -/
structure Alike (v w : Json) : Prop where
  left : v.WellFormed
  right : w.WellFormed
  same : (v == w) = true

namespace Alike

variable {v w : Json}

theorem symm (h : Alike v w) : Alike w v := ⟨h.right, h.left, beq_symm h.left h.same⟩

theorem of_sameItems {xs ys : List Json} (hxs : ∀ v ∈ xs, v.WellFormed)
    (hys : ∀ v ∈ ys, v.WellFormed) (h : sameItems xs ys = true) : List.Forall₂ Alike xs ys := by
  induction xs generalizing ys with
  | nil =>
    cases ys with
    | nil => exact .nil
    | cons y ys => simp [sameItems] at h
  | cons x xs ih =>
    cases ys with
    | nil => simp [sameItems] at h
    | cons y ys =>
      obtain ⟨hx, hxs⟩ := List.forall_mem_cons.1 hxs
      obtain ⟨hy, hys⟩ := List.forall_mem_cons.1 hys
      rw [sameItems, Bool.and_eq_true] at h
      exact .cons ⟨hx, hy, h.1⟩ (ih hxs hys h.2)

/-- What is alike to an array is an array of alike items, position by position. -/
theorem exists_array {xs : List Json} (h : Alike (.array xs) w) :
    ∃ ys, w = .array ys ∧ List.Forall₂ Alike xs ys := by
  obtain ⟨hleft, hright, hsame⟩ := h
  cases w with
  | array ys =>
    cases hleft with
    | array hxs =>
      cases hright with
      | array hys => exact ⟨ys, rfl, of_sameItems hxs hys hsame⟩
  | _ => simp [beq_def, Json.same] at hsame

/-- What is alike to an object is an object. -/
theorem exists_object {xs : List (String × Json)} (h : Alike (.object xs) w) :
    ∃ ys, w = .object ys := by
  have hsame := h.same
  cases w with
  | object ys => exact ⟨ys, rfl⟩
  | _ => simp [beq_def, Json.same] at hsame

variable {xs ys : List (String × Json)}

/-- Each member of one object has an alike member under its key in the other. -/
theorem exists_lookup (h : Alike (.object xs) (.object ys)) {key : String} {x : Json}
    (hx : xs.lookup key = some x) : ∃ y, ys.lookup key = some y ∧ Alike x y := by
  obtain ⟨hleft, hright, hsame⟩ := h
  cases hleft with
  | object _ hxs =>
    cases hright with
    | object _ hys =>
      rw [beq_def, Json.same, Bool.and_eq_true, sameMembers_iff] at hsame
      have hmem := Members.mem_of_lookup hx
      obtain ⟨y, hy, hxy⟩ := hsame.2 _ hmem
      exact ⟨y, hy, hxs _ hmem, hys _ (Members.mem_of_lookup hy), hxy⟩

theorem contains_eq (h : Alike (.object xs) (.object ys)) (key : String) :
    Members.contains key xs = Members.contains key ys := by
  rw [Bool.eq_iff_iff, Members.contains, Members.contains, Option.isSome_iff_exists,
    Option.isSome_iff_exists]
  constructor
  · rintro ⟨x, hx⟩
    obtain ⟨y, hy, -⟩ := h.exists_lookup hx
    exact ⟨y, hy⟩
  · rintro ⟨y, hy⟩
    obtain ⟨x, hx, -⟩ := h.symm.exists_lookup hy
    exact ⟨x, hx⟩

/-- Alike objects have the same keys, in whatever order. -/
theorem keys_perm (h : Alike (.object xs) (.object ys)) :
    (Members.keys xs).Perm (Members.keys ys) := by
  obtain ⟨hleft, -, hsame⟩ := h
  cases hleft with
  | object distinct _ =>
    rw [beq_def, Json.same, Bool.and_eq_true, beq_iff_eq, sameMembers_iff] at hsame
    exact Json.keys_perm distinct hsame.1 hsame.2

end Alike

/-! ## Values with one writing -/

/-- The value can be written in one way only. -/
def Rigid (v : Json) : Prop := ∀ w, Alike v w → w = v

theorem rigid_null : Rigid .null := by
  intro w hw
  have hsame := hw.same
  cases w with
  | null => rfl
  | _ => simp [beq_def, same] at hsame

theorem rigid_bool (b : Bool) : Rigid (.bool b) := by
  intro w hw
  have hsame := hw.same
  cases w with
  | bool c =>
    obtain rfl : b = c := by simpa [beq_def, same] using hsame
    rfl
  | _ => simp [beq_def, same] at hsame

/-- A whole number has no second writing; the two zeros among the doubles have. -/
theorem rigid_ofInt (n : Int) : Rigid (ofInt n) := by
  intro w hw
  have hsame := hw.same
  rw [ofInt] at hsame
  cases w with
  | number m =>
    cases m with
    | integer m =>
      obtain rfl : n = m := by simpa [beq_def, same, Number.same] using hsame
      rfl
    | real x => simp [beq_def, same, Number.same] at hsame
  | _ => simp [beq_def, same] at hsame

theorem rigid_string (s : String) : Rigid (.string s) := by
  intro w hw
  have hsame := hw.same
  cases w with
  | string t =>
    obtain rfl : s = t := by simpa [beq_def, same] using hsame
    rfl
  | _ => simp [beq_def, same] at hsame

theorem rigid_array {items : List Json} (h : ∀ v ∈ items, Rigid v) : Rigid (.array items) := by
  intro w hw
  obtain ⟨ys, rfl, hitems⟩ := hw.exists_array
  clear hw
  rw [array.injEq]
  induction hitems with
  | nil => rfl
  | cons hxy _ ih =>
    obtain ⟨hx, hxs⟩ := List.forall_mem_cons.1 h
    rw [hx _ hxy, ih hxs]

/-- The empty object has no members to put in order. -/
theorem rigid_object_nil : Rigid (.object []) := by
  intro w hw
  obtain ⟨ys, rfl⟩ := hw.exists_object
  have hkeys : Members.keys ys = [] := hw.keys_perm.nil_eq.symm
  rw [List.map_eq_nil_iff.1 hkeys]

end Json

/-! ## Checks of values -/

/-- Of two writings of one value the check accepts both or neither. -/
def Verdict.Extensional (check : Json → Verdict) : Prop :=
  ∀ ⦃v w⦄, Json.Alike v w → check v = Verdict.pass → check w = Verdict.pass

namespace Verdict.Extensional

theorem iff {check : Json → Verdict} (hcheck : Extensional check) {v w : Json}
    (h : Json.Alike v w) : check v = Verdict.pass ↔ check w = Verdict.pass :=
  ⟨hcheck h, hcheck h.symm⟩

/-- **A check that accepts only values with one writing is extensional.** -/
theorem of_rigid {check : Json → Verdict} (h : ∀ v, check v = Verdict.pass → v.Rigid) :
    Extensional check := by
  intro v w hvw hv
  rw [h v hv w hvw]
  exact hv

end Verdict.Extensional

end AttributeSchema
