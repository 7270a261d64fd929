import AttributeSchema.Document.Source
import AttributeSchema.Rule

/-!
# Attribute entries

What a document declares of one attribute: the flags and the default of its specification, and the
names of converters and validators that are still to be resolved. Main statement:
`Entry.sizeOf_param_lt`, the parameter of a rule is smaller than the entry that holds it.
-/

namespace AttributeSchema

/-- The declaration of one attribute. A rule is the name of a validator with its parameter. -/
structure Entry where
  /-- The specification without its converters, over rules that are not resolved yet. -/
  spec : SpecOf (String × Json) := {}
  converters? : Option (List String) := none
  listConverter? : Option String := none

namespace Entry

open Source

variable {τ : Type} [Source τ]

/-- The fields of an entry. -/
def layout : Layout where
  names :=
    ["allow_post", "allow_put", "default", "default_overrides_none", "convert_to",
      "convert_list_to", "validate", "dict_populate_defaults", "required", "enforce_policy",
      "required_by_policy", "is_visible", "is_filter", "is_sort_key", "primary_key"]
  strict := true
  least := 0

/-- One converter by name, or a list of them. -/
def converterNames? (n : τ) : Option (List String) :=
  match value? n with
  | some (.string name) => some [name]
  | some v => texts? v
  | none => none

/-- Rules in the order in which a mapping names them, each name once. -/
def rules? (n : τ) : Option (List (String × Json)) :=
  if isNull n then some []
  else (mapping? value? n).map Members.ofPairs

/-- Read the fields of an entry other than its rules. -/
def withoutRules? (fs : List (String × τ)) : Option Entry := do
  let flag (name : String) := field fs name flag? (some false)
  let allowPost ← flag "allow_post"
  let allowPut ← flag "allow_put"
  let default? ← field fs "default" (fun n => (value? n).map (some ∘ Default.ofDeclared)) (some none)
  let defaultOverridesNull ← flag "default_overrides_none"
  let converters? ← field fs "convert_to" (optional? converterNames?) (some none)
  let listConverter? ← field fs "convert_list_to" (optional? text?) (some none)
  let populateMembers ← flag "dict_populate_defaults"
  let required ← flag "required"
  let enforcePolicy ← flag "enforce_policy"
  let requiredByPolicy ← flag "required_by_policy"
  let isVisible ← flag "is_visible"
  let isFilter ← flag "is_filter"
  let isSortKey ← flag "is_sort_key"
  let primaryKey ← flag "primary_key"
  let spec :=
    { allowPost, allowPut, default?, defaultOverridesNull, populateMembers, required,
      enforcePolicy, requiredByPolicy, isVisible, isFilter, isSortKey, primaryKey }
  return { spec, converters?, listConverter? }

/-- Read the fields of an entry. -/
def ofFields? (fs : List (String × τ)) : Option Entry :=
  match field fs "validate" rules? (some []), withoutRules? fs with
  | some rules, some e => some { e with spec := { e.spec with rules } }
  | _, _ => none

/-- Read an entry. -/
def read? (n : τ) : Option Entry := (fields? layout n).bind ofFields?

/-- The rules of an entry are those of its field. -/
theorem rules_of_ofFields? {fs : List (String × τ)} {e : Entry} (h : ofFields? fs = some e) :
    field fs "validate" rules? (some []) = some e.spec.rules := by
  unfold ofFields? at h
  split at h
  · rename_i rules _ hrules _
    obtain rfl := Option.some.inj h
    exact hrules
  · cases h

/-- The parameter of a rule is part of the value that the entry is read from. -/
theorem sizeOf_param_lt {v : Json} {e : Entry} (h : read? v = some e) {r : String × Json}
    (hr : r ∈ e.spec.rules) : sizeOf r.2 < sizeOf v := by
  obtain ⟨fs, hfs, he⟩ := Option.bind_eq_some_iff.1 h
  have hrules := rules_of_ofFields? he
  unfold field at hrules
  split at hrules
  · rename_i n hn
    have hsmall : sizeOf n < sizeOf v := by
      rcases mem_of_fields? hfs (Members.mem_of_lookup hn) with ⟨items, hi, hm⟩ | ⟨es, hes, hm⟩
      · cases v with
        | array xs =>
          obtain rfl : xs = items := by simpa [positional?] using hi
          have := List.sizeOf_lt_of_mem hm
          simp only [Json.array.sizeOf_spec]
          omega
        | _ => simp [positional?] at hi
      · cases v with
        | object ms =>
          obtain rfl : ms = es := by simpa [entries?] using hes
          have := List.sizeOf_lt_of_mem hm
          simp only [Json.object.sizeOf_spec, Prod.mk.sizeOf_spec] at this ⊢
          omega
        | _ => simp [entries?] at hes
    unfold rules? at hrules
    split at hrules
    · have hnil : [] = e.spec.rules := by simpa using hrules
      simp [← hnil] at hr
    · obtain ⟨ps, hps, hofs⟩ := Option.map_eq_some_iff.1 hrules
      rw [← hofs] at hr
      obtain ⟨es, w, hes, hm, hw⟩ := mem_of_mapping? hps (Members.mem_of_mem_ofPairs hr)
      obtain rfl : w = r.2 := by simpa [value?] using hw
      cases n with
      | object ms =>
        obtain rfl : ms = es := by simpa [entries?] using hes
        have := List.sizeOf_lt_of_mem hm
        simp only [Json.object.sizeOf_spec, Prod.mk.sizeOf_spec] at this hsmall ⊢
        omega
      | _ => simp [entries?] at hes
  · have hnil : [] = e.spec.rules := by simpa using hrules
    simp [← hnil] at hr

end Entry

end AttributeSchema
