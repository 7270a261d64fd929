import AttributeSchema.Conversion
import AttributeSchema.Proofs.Converter.Idempotence
import AttributeSchema.Proofs.Spec.Nesting
import AttributeSchema.Proofs.Traversal

/-!
# Conversion by specification is idempotent

Where every specification converts by at most one built-in step and has at most one structured rule,
a converted value is converted to itself. The value converter still fixes an object or array after
the members in it were converted, and each member is converted once, by its own specification. Where
no specification converts at all, every value is left as it is. Main statements:
`Conversion.idempotent_convert` and `Conversion.convert_of_unconverted`.
-/

namespace AttributeSchema

namespace Members

/-- Inserting the value that is there changes nothing. -/
theorem insert_of_lookup {α : Type} {key : String} {value : α} {ms : List (String × α)}
    (h : ms.lookup key = some value) : insert key value ms = ms := by
  induction ms with
  | nil => simp at h
  | cons m ms ih =>
    obtain ⟨k, v⟩ := m
    by_cases hk : k = key
    · subst hk
      obtain rfl : v = value := by simpa using h
      simp [insert]
    · have hb : (key == k) = false := by simpa using fun e => hk e.symm
      rw [List.lookup_cons, hb] at h
      rw [insert, if_neg hk, ih h]

end Members

namespace Conversion

/-! ## Equations -/

theorem convert_eq (spec : Spec) (v : Json) :
    convert spec v =
      (whole spec.convertTo spec.convertListTo v).bind (convertByRules spec.rules) := by
  cases spec
  rw [convert]
  cases whole _ _ v <;> rfl

/-- Without converters only the members are converted. -/
theorem convert_of_no_converter {spec : Spec} (hto : spec.convertTo = none)
    (hlist : spec.convertListTo = none) (v : Json) :
    convert spec v = convertByRules spec.rules v := by
  rw [convert_eq, hto, hlist]
  rfl

theorem convertByRules_of_nil {rules : List Rule} (h : rules.filterMap Rule.members? = [])
    (v : Json) : convertByRules rules v = .ok v := by
  induction rules with
  | nil => rw [convertByRules]
  | cons r rules ih =>
    cases r with
    | leaf kind param regex =>
      rw [convertByRules]
      exact ih h
    | structured kind specs => simp [Rule.members?] at h

/-- With one structured rule, its members are what is converted. -/
theorem convertByRules_of_singleton {rules : List Rule} {specs : List (String × Spec)}
    (h : rules.filterMap Rule.members? = [specs]) (v : Json) :
    convertByRules rules v = onObjects (convertMembers specs) v := by
  induction rules with
  | nil => simp at h
  | cons r rules ih =>
    cases r with
    | leaf kind param regex =>
      rw [convertByRules]
      exact ih h
    | structured kind specs' =>
      obtain ⟨rfl, hrest⟩ : specs' = specs ∧ rules.filterMap Rule.members? = [] := by
        simpa [Rule.members?] using h
      rw [convertByRules]
      cases hon : onObjects (convertMembers specs') v with
      | ok w => exact convertByRules_of_nil hrest w
      | error e => rfl

theorem onObjects_of_isScalar {v : Json} (h : v.isScalar = true)
    (f : List (String × Json) → Except ConvertError (List (String × Json))) :
    onObjects f v = .ok v := by
  cases v <;> first | rfl | simp [Json.isScalar] at h

/-- A scalar has no members to convert. -/
theorem convertByRules_of_isScalar {v : Json} (h : v.isScalar = true) (rules : List Rule) :
    convertByRules rules v = .ok v := by
  induction rules with
  | nil => rw [convertByRules]
  | cons r rules ih =>
    cases r with
    | leaf kind param regex => rw [convertByRules, ih]
    | structured kind specs =>
      rw [convertByRules, onObjects_of_isScalar h]
      exact ih

/-! ## Members -/

theorem lookup_convertMembers_of_not_mem {specs : List (String × Spec)}
    {ms ms' : List (String × Json)} (h : convertMembers specs ms = .ok ms') {key : String}
    (hkey : ∀ m ∈ specs, m.1 ≠ key) : ms'.lookup key = ms.lookup key := by
  induction specs generalizing ms with
  | nil =>
    rw [convertMembers] at h
    rw [Except.ok.inj h]
  | cons m specs ih =>
    obtain ⟨k, spec⟩ := m
    have hk : key ≠ k := fun e => hkey (k, spec) (by simp) e.symm
    have hspecs : ∀ m ∈ specs, m.1 ≠ key := fun m hm => hkey m (by simp [hm])
    rw [convertMembers] at h
    split at h
    · exact ih h hspecs
    · split at h
      · rw [ih h hspecs, Members.lookup_insert, if_neg hk]
      · simp at h

/-- Each specified member of the result comes from a conversion by its specification. -/
theorem exists_convert_of_lookup_convertMembers {specs : List (String × Spec)}
    (hdistinct : specs.Pairwise fun a b => a.1 ≠ b.1) {ms ms' : List (String × Json)}
    (h : convertMembers specs ms = .ok ms') {key : String} {spec : Spec}
    (hspec : (key, spec) ∈ specs) {w : Json} (hw : ms'.lookup key = some w) :
    ∃ v, convert spec v = .ok w := by
  induction specs generalizing ms with
  | nil => simp at hspec
  | cons m specs ih =>
    obtain ⟨k, s⟩ := m
    obtain ⟨hne, hrest⟩ := List.pairwise_cons.1 hdistinct
    rw [convertMembers] at h
    rcases List.mem_cons.1 hspec with he | hspec
    · obtain ⟨rfl, rfl⟩ := Prod.mk.inj he
      -- No later specification is about this key, so what is stored for it stays.
      have hlater : ∀ m ∈ specs, m.1 ≠ key := fun m hm e => hne m hm e.symm
      split at h
      case h_1 hnone =>
        rw [lookup_convertMembers_of_not_mem h hlater, hnone] at hw
        simp at hw
      case h_2 v hv =>
        split at h
        case h_1 x hx =>
          rw [lookup_convertMembers_of_not_mem h hlater, Members.lookup_insert_self] at hw
          exact ⟨v, by rw [hx, Option.some.inj hw]⟩
        case h_2 => simp at h
    · split at h
      · exact ih hrest h hspec
      · split at h
        · exact ih hrest h hspec
        · simp at h

/-- Members that their specifications leave as they are stay as they are. -/
theorem convertMembers_eq_self {specs : List (String × Spec)} {ms : List (String × Json)}
    (h : ∀ m ∈ specs, ∀ v, ms.lookup m.1 = some v → convert m.2 v = .ok v) :
    convertMembers specs ms = .ok ms := by
  induction specs with
  | nil => rw [convertMembers]
  | cons m specs ih =>
    obtain ⟨k, spec⟩ := m
    have hspecs := ih fun m hm => h m (by simp [hm])
    rw [convertMembers]
    split
    case h_1 => exact hspecs
    case h_2 v hv =>
      rw [h (k, spec) (by simp) v hv]
      simp only [Members.insert_of_lookup hv, hspecs]

/-- Converting the members again changes nothing. -/
theorem convertMembers_convertMembers {specs : List (String × Spec)}
    (hdistinct : specs.Pairwise fun a b => a.1 ≠ b.1)
    (hspecs : ∀ m ∈ specs, Convert.Idempotent (convert m.2)) {ms ms' : List (String × Json)}
    (h : convertMembers specs ms = .ok ms') : convertMembers specs ms' = .ok ms' := by
  apply convertMembers_eq_self
  intro m hm w hw
  obtain ⟨v, hv⟩ := exists_convert_of_lookup_convertMembers hdistinct h hm hw
  exact hspecs m hm v w hv

/-! ## Objects and lists of objects -/

section OnObjects

variable {f : List (String × Json) → Except ConvertError (List (String × Json))}

theorem onObject_object_eq_ok_iff {ms : List (String × Json)} {w : Json} :
    onObject f (.object ms) = .ok w ↔ ∃ ms', f ms = .ok ms' ∧ .object ms' = w := by
  rw [onObject]
  cases f ms <;> simp [Except.map]

theorem onObjects_array_eq_ok_iff {items : List Json} {w : Json} :
    onObjects f (.array items) = .ok w ↔
      ∃ items', items.mapM (onObject f) = .ok items' ∧ .array items' = w := by
  rw [onObjects]
  cases items.mapM (onObject f) <;> simp [Except.map]

theorem onObject_onObject (hf : ∀ ms ms', f ms = .ok ms' → f ms' = .ok ms') {v w : Json}
    (h : onObject f v = .ok w) : onObject f w = .ok w := by
  cases v with
  | object ms =>
    obtain ⟨ms', hms, rfl⟩ := onObject_object_eq_ok_iff.1 h
    exact onObject_object_eq_ok_iff.2 ⟨ms', hf ms ms' hms, rfl⟩
  | _ =>
    obtain rfl := Except.ok.inj h
    rfl

theorem mapM_onObject (hf : ∀ ms ms', f ms = .ok ms' → f ms' = .ok ms') {items items' : List Json}
    (h : items.mapM (onObject f) = .ok items') : items'.mapM (onObject f) = .ok items' := by
  rw [Traversal.mapM_eq_ok_iff, List.forall₂_same]
  intro w hw
  obtain ⟨v, -, hv⟩ := Traversal.exists_of_mem_mapM h hw
  exact onObject_onObject hf hv

/-- How the result of converting the objects of a value relates to the value. -/
theorem onObjects_shape {v w : Json} (h : onObjects f v = .ok w) :
    (v.isScalar = true ∧ w = v) ∨ (∃ items items', v = .array items ∧ w = .array items') ∨
      ∃ ms ms', v = .object ms ∧ w = .object ms' := by
  cases v with
  | array items =>
    obtain ⟨items', -, rfl⟩ := onObjects_array_eq_ok_iff.1 h
    exact Or.inr (Or.inl ⟨items, items', rfl, rfl⟩)
  | object ms =>
    obtain ⟨ms', -, rfl⟩ := onObject_object_eq_ok_iff.1 h
    exact Or.inr (Or.inr ⟨ms, ms', rfl, rfl⟩)
  | _ => exact Or.inl ⟨rfl, (Except.ok.inj h).symm⟩

theorem onObjects_onObjects (hf : ∀ ms ms', f ms = .ok ms' → f ms' = .ok ms') {v w : Json}
    (h : onObjects f v = .ok w) : onObjects f w = .ok w := by
  cases v with
  | array items =>
    obtain ⟨items', hitems, rfl⟩ := onObjects_array_eq_ok_iff.1 h
    exact onObjects_array_eq_ok_iff.2 ⟨items', mapM_onObject hf hitems, rfl⟩
  | object ms =>
    obtain ⟨ms', hms, rfl⟩ := onObject_object_eq_ok_iff.1 h
    exact onObject_object_eq_ok_iff.2 ⟨ms', hf ms ms' hms, rfl⟩
  | _ =>
    obtain rfl := Except.ok.inj h
    rfl

end OnObjects

end Conversion

/-! ## One step of conversion -/

namespace Convert

/-- The conversion fixes its results, also after the content of an array or an object was changed,
and gives null for nothing but null. -/
structure Settling (convert : Json → Converted) : Prop where
  idempotent : Idempotent convert
  array : ∀ {v items}, convert v = .ok (.array items) →
    ∀ items', convert (.array items') = .ok (.array items')
  object : ∀ {v ms}, convert v = .ok (.object ms) →
    ∀ ms', convert (.object ms') = .ok (.object ms')
  null : ∀ {v}, convert v = .ok .null → v = .null

theorem settling_builtin (c : BuiltinConverter) : Settling c.apply where
  idempotent := c.idempotent_apply
  array := BuiltinConverter.apply_array
  object := BuiltinConverter.apply_object
  null := BuiltinConverter.eq_null_of_apply

theorem settling_pairs : Settling ListConverter.pairs.apply where
  idempotent := ListConverter.idempotent_pairs
  array h := by
    obtain ⟨ms, he⟩ := ListConverter.exists_object_of_pairs h
    simp at he
  object _ _ := rfl
  null h := by
    obtain ⟨ms, he⟩ := ListConverter.exists_object_of_pairs h
    simp at he

theorem settling_keep : Settling Except.ok where
  idempotent _ _ _ := rfl
  array _ _ := rfl
  object _ _ := rfl
  null h := Except.ok.inj h

end Convert

namespace SpecOf

/-- The specification converts by at most one step, which is built in, and has at most one
structured rule. -/
structure ConvertsOnce (spec : Spec) : Prop where
  step : ∀ cs, spec.convertTo = some cs → cs = [] ∨ ∃ c, cs = [.builtin c]
  list : ∀ l, spec.convertListTo = some l → l = .pairs
  members : spec.structuredMembers.length ≤ 1

/-- The specification declares no converter of its own. -/
def Unconverted (spec : Spec) : Prop := spec.convertTo = none ∧ spec.convertListTo = none

/-- The members of each structured rule are in ascending order of their keys, each key once. -/
def OrderedMembers (spec : Spec) : Prop :=
  ∀ members ∈ spec.structuredMembers, Entries.Ascending members

theorem OrderedMembers.of_leaf {spec : Spec} (h : spec.structuredMembers = []) :
    spec.OrderedMembers := fun members hmem => by simp [h] at hmem

theorem OrderedMembers.of_single {spec : Spec} {members : List (String × Spec)}
    (hsingle : spec.structuredMembers = [members]) (h : Entries.Ascending members) :
    spec.OrderedMembers := by
  intro specs hspecs
  rw [hsingle, List.mem_singleton] at hspecs
  exact hspecs ▸ h

end SpecOf

namespace Conversion

theorem whole_builtin (c : BuiltinConverter) (l : Option ListConverter) :
    whole (some [.builtin c]) l = c.apply := by
  funext v
  change Converter.applyAll [.builtin c] v = _
  rw [Converter.applyAll, Converter.apply]
  cases c.apply v <;> rfl

theorem settling_whole {spec : Spec} (h : spec.ConvertsOnce) :
    Convert.Settling (whole spec.convertTo spec.convertListTo) := by
  cases hto : spec.convertTo with
  | some cs =>
    rcases h.step cs hto with rfl | ⟨c, rfl⟩
    · exact Convert.settling_keep
    · rw [whole_builtin]
      exact Convert.settling_builtin c
  | none =>
    cases hlist : spec.convertListTo with
    | some l =>
      obtain rfl := h.list l hlist
      exact Convert.settling_pairs
    | none => exact Convert.settling_keep

/-- With at most one structured rule, a conversion is its first step and one pass over the objects
in the result. -/
theorem exists_of_convert {spec : Spec} (h : spec.ConvertsOnce) {v w : Json}
    (hw : convert spec v = .ok w) :
    ∃ x, whole spec.convertTo spec.convertListTo v = .ok x ∧
      ((spec.structuredMembers = [] ∧ w = x) ∨
        ∃ specs, spec.structuredMembers = [specs] ∧
          onObjects (convertMembers specs) x = .ok w) := by
  rw [convert_eq] at hw
  cases hx : whole spec.convertTo spec.convertListTo v with
  | error e => simp [hx, Except.bind] at hw
  | ok x =>
    rw [hx] at hw
    change convertByRules spec.rules x = .ok w at hw
    refine ⟨x, rfl, ?_⟩
    have hlength := h.members
    match hmembers : spec.structuredMembers, hlength with
    | [], _ =>
      rw [convertByRules_of_nil hmembers] at hw
      exact Or.inl ⟨rfl, (Except.ok.inj hw).symm⟩
    | [specs], _ =>
      rw [convertByRules_of_singleton hmembers] at hw
      exact Or.inr ⟨specs, rfl, hw⟩

/-- A value that the first step and the pass over the objects leave as it is is converted to
itself. -/
theorem convert_eq_self {spec : Spec} {w : Json}
    (hwhole : whole spec.convertTo spec.convertListTo w = .ok w)
    (hinside : spec.structuredMembers = [] ∨
      ∃ specs, spec.structuredMembers = [specs] ∧ onObjects (convertMembers specs) w = .ok w) :
    convert spec w = .ok w := by
  rw [convert_eq, hwhole]
  change convertByRules spec.rules w = .ok w
  rcases hinside with hnil | ⟨specs, hone, hw⟩
  · exact convertByRules_of_nil hnil w
  · rw [convertByRules_of_singleton hone, hw]

/-- **Conversion by a specification is idempotent.** -/
theorem idempotent_convert {spec : Spec}
    (h : spec.Everywhere fun s => s.ConvertsOnce ∧ s.OrderedMembers) :
    Convert.Idempotent (convert spec) := by
  induction h with
  | @intro spec here inside ih =>
    intro v w hw
    obtain ⟨x, hx, hinside⟩ := exists_of_convert here.1 hw
    have hsettling := settling_whole here.1
    rcases hinside with ⟨hnil, rfl⟩ | ⟨specs, hone, hinside⟩
    · exact convert_eq_self (hsettling.idempotent v w hx) (Or.inl hnil)
    · have hmem : specs ∈ spec.structuredMembers := by simp [hone]
      have hdistinct : specs.Pairwise fun a b => a.1 ≠ b.1 := (here.2 specs hmem).pairwise_ne
      have hagain : onObjects (convertMembers specs) w = .ok w :=
        onObjects_onObjects
          (fun _ _ => convertMembers_convertMembers hdistinct fun m hm => ih specs hmem m hm)
          hinside
      refine convert_eq_self ?_ (Or.inr ⟨specs, hone, hagain⟩)
      -- The first step fixes its result whatever the pass over the objects made of its content.
      rcases onObjects_shape hinside with ⟨-, rfl⟩ | ⟨items, items', rfl, rfl⟩ | ⟨ms, ms', rfl, rfl⟩
      · exact hsettling.idempotent v w hx
      · exact hsettling.array hx items'
      · exact hsettling.object hx ms'

/-- Only null is converted to null. -/
theorem eq_null_of_convert {spec : Spec} (h : spec.ConvertsOnce) {v : Json}
    (hv : convert spec v = .ok .null) : v = .null := by
  obtain ⟨x, hx, hinside⟩ := exists_of_convert h hv
  have hnull : x = .null := by
    rcases hinside with ⟨-, hw⟩ | ⟨specs, -, hinside⟩
    · exact hw.symm
    · rcases onObjects_shape hinside with ⟨-, hw⟩ | ⟨_, _, -, hw⟩ | ⟨_, _, -, hw⟩
      · exact hw.symm
      · simp at hw
      · simp at hw
  subst hnull
  exact (settling_whole h).null hx

/-! ## Without converters -/

theorem onObject_eq_self {f : List (String × Json) → Except ConvertError (List (String × Json))}
    (hf : ∀ ms, f ms = .ok ms) (v : Json) : onObject f v = .ok v := by
  cases v with
  | object ms => exact onObject_object_eq_ok_iff.2 ⟨ms, hf ms, rfl⟩
  | _ => rfl

theorem onObjects_eq_self {f : List (String × Json) → Except ConvertError (List (String × Json))}
    (hf : ∀ ms, f ms = .ok ms) (v : Json) : onObjects f v = .ok v := by
  cases v with
  | array items =>
    have hitems : items.mapM (onObject f) = .ok items := by
      rw [Traversal.mapM_eq_ok_iff, List.forall₂_same]
      exact fun item _ => onObject_eq_self hf item
    exact onObjects_array_eq_ok_iff.2 ⟨items, hitems, rfl⟩
  | object ms => exact onObject_eq_self hf (.object ms)
  | _ => rfl

theorem convertByRules_eq_self {rules : List Rule} {v : Json}
    (h : ∀ specs ∈ rules.filterMap Rule.members?, ∀ ms, convertMembers specs ms = .ok ms) :
    convertByRules rules v = .ok v := by
  induction rules with
  | nil => rw [convertByRules]
  | cons r rules ih =>
    cases r with
    | leaf kind param regex =>
      rw [convertByRules]
      exact ih h
    | structured kind specs =>
      obtain ⟨hspecs, hrest⟩ := List.forall_mem_cons.1 h
      rw [convertByRules, onObjects_eq_self hspecs]
      exact ih hrest

/-- Where no converter is declared at any depth every value is left alone. -/
theorem convert_of_unconverted {spec : Spec} (h : spec.Everywhere SpecOf.Unconverted) (v : Json) :
    convert spec v = .ok v := by
  induction h generalizing v with
  | @intro spec here inside ih =>
    rw [convert_of_no_converter here.1 here.2]
    refine convertByRules_eq_self fun specs hspecs ms => ?_
    exact convertMembers_eq_self fun m hm w _ => ih specs hspecs m hm w

end Conversion

end AttributeSchema
