import AttributeSchema.Proofs.Check.Distinct
import AttributeSchema.Proofs.Check.Integer
import AttributeSchema.Proofs.Json.Alike
import AttributeSchema.Registry.Bundled

/-!
# The verdict of a leaf validator does not depend on key order

All leaf validators but one accept only null, truth values, whole numbers, strings and lists of strings,
and each of these has one writing. The list of allowed values is compared by equality, which does not
see the order of members. The texts of values, which do show it, are compared only once all of them are
known to be strings. Main statement: `LeafValidator.extensional_check`.
-/

namespace AttributeSchema

open Verdict (Extensional)

namespace Check

variable {param : Option Json} {v : Json}

/-! ## Numbers and truth values -/

theorem rigid_of_integer? {n : Int} (h : integer? v = some n) : v.Rigid := by
  cases v with
  | number m =>
    cases m with
    | integer k => exact Json.rigid_ofInt k
    | real x => simp [integer?, Number.toInt64?] at h
  | string s => exact Json.rigid_string s
  | _ => simp [integer?] at h

theorem rigid_of_range (h : range param v = Verdict.pass) : v.Rigid := by
  obtain ⟨n, hn⟩ := exists_integer?_of_range h
  exact rigid_of_integer? hn

theorem rigid_of_nonNegative (h : nonNegative v = Verdict.pass) : v.Rigid := by
  obtain ⟨n, hn, -⟩ := nonNegative_eq_pass_iff.1 h
  exact rigid_of_integer? hn

theorem rigid_of_boolean (h : boolean v = Verdict.pass) : v.Rigid := by
  cases v with
  | bool b => exact Json.rigid_bool b
  | string s => exact Json.rigid_string s
  | number m =>
    cases m with
    | integer n => exact Json.rigid_ofInt n
    | real x => simp [boolean, Convert.truth?, Verdict.require, Verdict.pass] at h
  | _ => simp [boolean, Convert.truth?, Verdict.require, Verdict.pass] at h

theorem rigid_of_detectionInterval (h : detectionInterval param v = Verdict.pass) : v.Rigid := by
  cases v with
  | number m =>
    cases m with
    | integer n => exact Json.rigid_ofInt n
    | real x =>
      simp [detectionInterval, Json.toUInt64?, Number.toUInt64?, Verdict.pass] at h
  | _ => simp [detectionInterval, Json.toUInt64?, Verdict.pass] at h

/-! ## Texts -/

theorem rigid_of_uuid (h : uuid v = Verdict.pass) : v.Rigid := by
  cases v with
  | string s => exact Json.rigid_string s
  | _ => simp [uuid, Verdict.pass] at h

theorem rigid_of_text (h : text param v = Verdict.pass) : v.Rigid := by
  cases v with
  | string s => exact Json.rigid_string s
  | _ => simp [text, Verdict.pass] at h

/-- The items are compared by their texts, but only after each of them has passed. -/
theorem rigid_of_distinctList {item : Json → Verdict} (hitem : ∀ v, item v = Verdict.pass → v.Rigid)
    (h : distinctList item v = Verdict.pass) : v.Rigid := by
  cases v with
  | array items =>
    exact Json.rigid_array fun w hw => hitem w ((distinctList_array_eq_pass_iff.1 h).1 w hw)
  | _ => simp [distinctList, Verdict.pass] at h

/-! ## Allowed values -/

/-- A value is compared with the allowed ones by equality, which does not see the order of members. -/
theorem extensional_among (param : Option Json) : Extensional (among param) := by
  intro v w hvw hv
  simp only [among, Verdict.require, Verdict.pass, ite_eq_left_iff, reduceCtorEq, imp_false,
    not_not, List.any_eq_true] at hv ⊢
  obtain ⟨u, hu, huv⟩ := hv
  exact ⟨u, hu, Json.beq_trans hvw.left huv hvw.same⟩

end Check

/-! ## Leaf validators -/

variable {param : Option Json}

/-- What a leaf validator accepts has one writing, unless the validator compares by equality. -/
theorem LeafValidator.rigid_of_check {v : LeafValidator} (hv : v ≠ .among) {regex : Option Regex}
    {value : Json} (h : v.check param regex value = Verdict.pass) : value.Rigid := by
  by_cases hnull : (v.acceptsNull && value.isNull) = true
  · rw [Bool.and_eq_true, Json.isNull_iff] at hnull
    exact hnull.2 ▸ Json.rigid_null
  · rw [check.eq_def, if_neg hnull] at h
    cases v with
    | among => exact absurd rfl hv
    | range | rangeOrNull => exact Check.rigid_of_range h
    | nonNegative => exact Check.rigid_of_nonNegative h
    | boolean => exact Check.rigid_of_boolean h
    | uuid | uuidOrNull => exact Check.rigid_of_uuid h
    | text | textOrNull => exact Check.rigid_of_text h
    | textNotBlank | textNotBlankOrNull | pattern | patternOrNull | mac | address | addressOrNull
    | subnet | subnetOrNull =>
      cases value with
      | string s => exact Json.rigid_string s
      | _ =>
        simp [Check.textNotBlank, Check.text, Check.pattern, Check.mac, Check.address, Check.subnet,
          Verdict.pass] at h
    | uuidList => exact Check.rigid_of_distinctList (fun _ => Check.rigid_of_uuid) h
    | distinctTexts => exact Check.rigid_of_distinctList (fun _ => Check.rigid_of_text) h

/-- **The verdict of a built-in leaf validator does not depend on key order.** -/
theorem LeafValidator.extensional_check (v : LeafValidator) (param : Option Json)
    (regex : Option Regex) : Extensional (v.check param regex) := by
  by_cases hv : v = .among
  · subst hv
    exact Check.extensional_among param
  · exact Verdict.Extensional.of_rigid fun _ => rigid_of_check hv

/-- The verdict of a bundled validator does not depend on key order either. -/
theorem Bundled.extensional_check {v : CustomLeaf} (hv : .leaf v ∈ validators)
    (param : Option Json) : Extensional fun value => v.check value param := by
  refine Verdict.Extensional.of_rigid fun value h => ?_
  simp only [validators, List.mem_cons, CustomValidator.leaf.injEq, List.not_mem_nil, or_false] at hv
  rcases hv with rfl | rfl | rfl | rfl
  case inr.inr.inr => exact Check.rigid_of_detectionInterval h
  all_goals
    cases value with
    | string s => exact Json.rigid_string s
    | _ =>
      simp [hostName, domainName, detectionMode, Check.hostName, Check.domainName, Check.nameWith,
        Check.detectionMode, Verdict.pass] at h

end AttributeSchema
