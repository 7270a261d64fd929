import AttributeSchema.Document.Resolve
import Mathlib.Data.List.Nodup

/-!
# Names are bound once

A registration binds its name unless the name is built in or was bound before, and one that is
refused changes nothing. So whatever is registered, a bound name means for ever what it meant first:
what is built in, or what the first registration of the name gave. Main statement:
`Registries.names_bound_once`.
-/

namespace AttributeSchema

universe u

/-! ## Keys that get a value once -/

namespace Dict

variable {α : Type u} {reserved : String → Bool} {nameOf : α → String} {d : Dict α}
  {items : List α} {key k : String} {x : α}

theorem pairwise_keys (d : Dict α) : d.keys.Pairwise (· < ·) := List.pairwise_map.2 d.ascending

theorem nodup_keys (d : Dict α) : d.keys.Nodup := List.pairwise_map.2 d.ascending.pairwise_ne

/-- Give a key a value, unless it is reserved or has a value already. -/
def bind (reserved : String → Bool) (d : Dict α) (key : String) (value : α) : Dict α :=
  if reserved key || d.contains key then d else d.insert key value

/-- Make items the values of their names in turn. -/
def bindAll (reserved : String → Bool) (nameOf : α → String) (d : Dict α) (items : List α) : Dict α :=
  items.foldl (fun d x => d.bind reserved (nameOf x) x) d

theorem get?_bind (reserved : String → Bool) (d : Dict α) (key k : String) (value : α) :
    (d.bind reserved key value).get? k =
      (d.get? k).or (if reserved k then none else if k = key then some value else none) := by
  unfold bind
  split
  case isTrue htaken =>
    by_cases hk : k = key
    · subst hk
      rw [Bool.or_eq_true, contains_eq, Option.isSome_iff_exists] at htaken
      rcases htaken with hreserved | ⟨w, hw⟩
      · simp [hreserved]
      · simp [hw]
    · simp [hk]
  case isFalse hfree =>
    rw [get?_insert]
    by_cases hk : k = key
    · subst hk
      have hfree : reserved k = false ∧ d.get? k = none := by simpa [contains_eq] using hfree
      simp [hfree]
    · simp [hk]

/-- A key keeps the value that it has, and else gets the first item that it names. -/
theorem get?_bindAll (reserved : String → Bool) (nameOf : α → String) (d : Dict α)
    (items : List α) (key : String) :
    (d.bindAll reserved nameOf items).get? key =
      (d.get? key).or (if reserved key then none else items.find? fun x => nameOf x == key) := by
  induction items generalizing d with
  | nil => simp [bindAll]
  | cons x items ih =>
    have hhead : (x :: items).find? (fun x => nameOf x == key) =
        (if key = nameOf x then some x else none).or (items.find? fun x => nameOf x == key) := by
      rw [List.find?_cons]
      by_cases hkey : key = nameOf x
      · simp [hkey]
      · have hb : (nameOf x == key) = false := beq_eq_false_iff_ne.2 (Ne.symm hkey)
        simp [hkey, hb]
    calc
      ((d.bind reserved (nameOf x) x).bindAll reserved nameOf items).get? key
      _ = ((d.bind reserved (nameOf x) x).get? key).or
          (if reserved key then none else items.find? fun x => nameOf x == key) := ih _
      _ = (d.get? key).or
          (if reserved key then none else (x :: items).find? fun x => nameOf x == key) := by
        rw [get?_bind, Option.or_assoc, hhead]
        cases reserved key <;> rfl

/-- A key has the item that named it while it was free. -/
theorem get?_bindAll_eq_some_iff :
    (bindAll reserved nameOf ∅ items).get? key = some x ↔
      nameOf x = key ∧ ∃ earlier later, items = earlier ++ x :: later ∧ reserved key = false ∧
        (bindAll reserved nameOf ∅ earlier).contains key = false := by
  rw [get?_bindAll, get?_empty, Option.none_or]
  constructor
  · intro h
    rw [Option.ite_none_left_eq_some, Bool.not_eq_true, List.find?_eq_some_iff_append] at h
    obtain ⟨hreserved, hname, earlier, later, rfl, hearlier⟩ := h
    have hnone : (earlier.find? fun x => nameOf x == key) = none :=
      List.find?_eq_none.2 fun y hy => by simpa using hearlier y hy
    refine ⟨by simpa using hname, earlier, later, rfl, hreserved, ?_⟩
    rw [contains_eq, get?_bindAll, hnone]
    simp
  · rintro ⟨rfl, earlier, later, rfl, hreserved, hfree⟩
    have hnone : (earlier.find? fun y => nameOf y == nameOf x) = none := by
      simpa [contains_eq, get?_bindAll, hreserved] using hfree
    simp [hreserved, List.find?_append, hnone]

end Dict

/-- Where each item of a list is found by its name, a name finds the item that has it. -/
theorem find?_name_eq_some_iff {α : Type} {nameOf : α → String} {items : List α}
    (hfound : ∀ x, (items.find? fun y => nameOf y == nameOf x) = some x) {name : String} {x : α} :
    (items.find? fun y => nameOf y == name) = some x ↔ nameOf x = name := by
  constructor
  · intro h
    simpa using List.find?_some h
  · rintro rfl
    exact hfound x

/-! ## Validators -/

theorem LeafValidator.ofName?_eq_some_iff {name : String} {v : LeafValidator} :
    ofName? name = some v ↔ v.name = name :=
  find?_name_eq_some_iff fun v => by cases v <;> rfl

theorem StructuredValidator.ofName?_eq_some_iff {name : String} {v : StructuredValidator} :
    ofName? name = some v ↔ v.name = name :=
  find?_name_eq_some_iff fun v => by cases v <;> rfl

namespace ValidatorKind

variable {name : String} {kind : ValidatorKind}

theorem builtin?_leaf (v : LeafValidator) : builtin? v.name = some (.leaf (.builtin v)) := by
  cases v <;> rfl

theorem builtin?_structured (v : StructuredValidator) :
    builtin? v.name = some (.structured (.builtin v)) := by
  cases v <;> rfl

theorem cases_of_builtin? (h : builtin? name = some kind) :
    (∃ v : LeafValidator, v.name = name ∧ kind = .leaf (.builtin v)) ∨
      ∃ v : StructuredValidator, v.name = name ∧ kind = .structured (.builtin v) := by
  unfold builtin? at h
  split at h
  case h_1 v hv =>
    exact Or.inl ⟨v, LeafValidator.ofName?_eq_some_iff.1 hv, (Option.some.inj h).symm⟩
  case h_2 =>
    obtain ⟨v, hv, rfl⟩ := Option.map_eq_some_iff.1 h
    exact Or.inr ⟨v, StructuredValidator.ofName?_eq_some_iff.1 hv, rfl⟩

theorem name_of_builtin? (h : builtin? name = some kind) : kind.name = name := by
  rcases cases_of_builtin? h with ⟨v, rfl, rfl⟩ | ⟨v, rfl, rfl⟩
  · rfl
  · rfl

theorem isSome_builtin?_iff :
    (builtin? name).isSome = true ↔ name ∈ ValidatorRegistry.builtinNames := by
  rw [ValidatorRegistry.builtinNames, List.mem_append, List.mem_map, List.mem_map,
    Option.isSome_iff_exists]
  constructor
  · rintro ⟨kind, h⟩
    rcases cases_of_builtin? h with ⟨v, rfl, -⟩ | ⟨v, rfl, -⟩
    · exact Or.inl ⟨v, by cases v <;> decide, rfl⟩
    · exact Or.inr ⟨v, by cases v <;> decide, rfl⟩
  · rintro (⟨v, -, rfl⟩ | ⟨v, -, rfl⟩)
    · exact ⟨_, builtin?_leaf v⟩
    · exact ⟨_, builtin?_structured v⟩

end ValidatorKind

namespace ValidatorRegistry

variable {r : ValidatorRegistry} {attempts : List CustomValidator} {v : CustomValidator}
  {name : String} {kind : ValidatorKind}

/-- What an attempt to register a validator leaves, whether it succeeds or not. -/
def attempt (r : ValidatorRegistry) (v : CustomValidator) : ValidatorRegistry := (r.register v).1

/-- The registry after some attempts in turn. -/
def afterAll (attempts : List CustomValidator) : ValidatorRegistry := attempts.foldl attempt {}

/-- One of the attempts succeeded in registering the validator. -/
def Registered (attempts : List CustomValidator) (v : CustomValidator) : Prop :=
  ∃ earlier later, attempts = earlier ++ v :: later ∧ ((afterAll earlier).register v).2 = none

/-- What the registry after some attempts says about names. -/
structure BindsOnce (attempts : List CustomValidator) : Prop where
  /-- An attempt fails exactly if its name is built in or was registered. -/
  refused : ∀ v e, ((afterAll attempts).register v).2 = some e ↔
    e = .duplicateValidator v.name ∧
      (v.name ∈ builtinNames ∨ ∃ w, Registered attempts w ∧ w.name = v.name)
  /-- An attempt that fails changes nothing. -/
  unchanged : ∀ v e, ((afterAll attempts).register v).2 = some e →
    afterAll (attempts ++ [v]) = afterAll attempts
  contains : ∀ name, (afterAll attempts).contains name = ((afterAll attempts).lookup name).isOk
  name : ∀ name kind, (afterAll attempts).lookup name = .ok kind → kind.name = name
  /-- A built-in name means what is built in. -/
  builtinLeaf : ∀ v : LeafValidator, (afterAll attempts).lookup v.name = .ok (.leaf (.builtin v))
  builtinStructured : ∀ v : StructuredValidator,
    (afterAll attempts).lookup v.name = .ok (.structured (.builtin v))
  /-- Another name means what was registered. -/
  registered : ∀ v, Registered attempts v → (afterAll attempts).lookup v.name = .ok v.kind
  /-- What a name means does not change. -/
  kept : ∀ name kind, (afterAll attempts).lookup name = .ok kind →
    ∀ later, (afterAll (attempts ++ later)).lookup name = .ok kind
  /-- Each bound name is listed once, the built-in ones first and then the others in order. -/
  names_nodup : (afterAll attempts).names.Nodup
  mem_names : ∀ name, name ∈ (afterAll attempts).names ↔ (afterAll attempts).contains name = true
  names : ∃ others : List String, (afterAll attempts).names = builtinNames ++ others ∧
    others.Pairwise (· < ·) ∧ ∀ name, name ∈ others ↔ ∃ v, Registered attempts v ∧ v.name = name

/-- Whether a name is built in. -/
def reserved (name : String) : Bool := (ValidatorKind.builtin? name).isSome

theorem register_of_contains (h : r.contains v.name = true) :
    r.register v = (r, some (.duplicateValidator v.name)) := by
  rw [register, if_pos h]

theorem register_of_not_contains (h : r.contains v.name = false) :
    r.register v = ({ r with custom := r.custom.insert v.name v }, none) := by
  rw [register, if_neg (by simp [h])]

theorem register_eq_some_iff {e : ConfigError} :
    (r.register v).2 = some e ↔ e = .duplicateValidator v.name ∧ r.contains v.name = true := by
  cases h : r.contains v.name with
  | true => simp [register_of_contains h, eq_comm]
  | false => simp [register_of_not_contains h]

theorem register_eq_none_iff :
    (r.register v).2 = none ↔ reserved v.name = false ∧ r.custom.contains v.name = false := by
  rw [← Bool.or_eq_false_iff, reserved, ← contains]
  cases h : r.contains v.name with
  | true => simp [register_of_contains h]
  | false => simp [register_of_not_contains h]

theorem custom_attempt (r : ValidatorRegistry) (v : CustomValidator) :
    (r.attempt v).custom = r.custom.bind reserved v.name v := by
  unfold attempt register contains Dict.bind reserved
  split <;> rfl

theorem custom_afterAll (attempts : List CustomValidator) :
    (afterAll attempts).custom = Dict.bindAll reserved CustomValidator.name ∅ attempts :=
  (List.foldl_hom custom fun r v => (custom_attempt r v).symm).symm

theorem registered_iff :
    Registered attempts v ∧ v.name = name ↔ (afterAll attempts).custom.get? name = some v := by
  rw [custom_afterAll, Dict.get?_bindAll_eq_some_iff, and_comm]
  refine and_congr_right ?_
  rintro rfl
  simp only [Registered, register_eq_none_iff, custom_afterAll]

theorem reserved_iff : reserved name = true ↔ name ∈ builtinNames :=
  ValidatorKind.isSome_builtin?_iff

/-- Nothing is registered under a built-in name. -/
theorem get?_custom_of_reserved (h : reserved name = true) :
    (afterAll attempts).custom.get? name = none := by
  rw [custom_afterAll, Dict.get?_bindAll, h]
  rfl

/-- The names that are not built in are those that were registered. -/
theorem mem_keys_custom_iff :
    name ∈ (afterAll attempts).custom.keys ↔ ∃ v, Registered attempts v ∧ v.name = name := by
  simp only [registered_iff]
  rw [Dict.mem_keys_iff, Dict.contains_eq, Option.isSome_iff_exists]

theorem contains_afterAll_iff :
    (afterAll attempts).contains name = true ↔
      name ∈ builtinNames ∨ ∃ v, Registered attempts v ∧ v.name = name := by
  rw [contains, ← reserved, Bool.or_eq_true, reserved_iff, ← mem_keys_custom_iff, Dict.mem_keys_iff]

theorem isOk_lookup (r : ValidatorRegistry) (name : String) :
    (r.lookup name).isOk = (r.lookup? name).isSome := by
  unfold lookup
  cases r.lookup? name <;> rfl

/-- A validator is a built-in one or was registered. -/
theorem lookup_eq_ok_iff :
    (afterAll attempts).lookup name = .ok kind ↔
      ValidatorKind.builtin? name = some kind ∨
        ∃ v, (Registered attempts v ∧ v.name = name) ∧ kind = v.kind := by
  simp only [registered_iff]
  unfold lookup lookup?
  cases hbuiltin : ValidatorKind.builtin? name with
  | some k =>
    have hnone : (afterAll attempts).custom.get? name = none :=
      get?_custom_of_reserved (by rw [reserved, hbuiltin]; rfl)
    simp [hnone]
  | none =>
    cases hcustom : (afterAll attempts).custom.get? name with
    | none => simp
    | some v => simp [eq_comm]

theorem Registered.append (h : Registered attempts v) (later : List CustomValidator) :
    Registered (attempts ++ later) v := by
  obtain ⟨earlier, between, rfl, hregister⟩ := h
  exact ⟨earlier, between ++ later, by simp, hregister⟩

theorem nodup_builtinNames : builtinNames.Nodup := by decide

theorem nodup_names_afterAll (attempts : List CustomValidator) :
    (afterAll attempts).names.Nodup := by
  rw [names, List.nodup_append']
  refine ⟨nodup_builtinNames, Dict.nodup_keys _, fun name hbuiltin hcustom => ?_⟩
  have hnone : (afterAll attempts).custom.get? name = none :=
    get?_custom_of_reserved (reserved_iff.2 hbuiltin)
  rw [Dict.mem_keys_iff, Dict.contains_eq, hnone] at hcustom
  exact Bool.false_ne_true hcustom

theorem bindsOnce (attempts : List CustomValidator) : BindsOnce attempts where
  refused v e := by
    rw [register_eq_some_iff, contains_afterAll_iff]
  unchanged v e h := by
    rw [afterAll, List.foldl_append, ← afterAll, List.foldl_cons, List.foldl_nil, attempt,
      register_of_contains (register_eq_some_iff.1 h).2]
  contains name := by
    rw [isOk_lookup, contains_eq_isSome_lookup?]
  name name kind h := by
    rcases lookup_eq_ok_iff.1 h with hbuiltin | ⟨v, ⟨-, rfl⟩, rfl⟩
    · exact ValidatorKind.name_of_builtin? hbuiltin
    · cases v <;> rfl
  builtinLeaf v := lookup_eq_ok_iff.2 (Or.inl (ValidatorKind.builtin?_leaf v))
  builtinStructured v := lookup_eq_ok_iff.2 (Or.inl (ValidatorKind.builtin?_structured v))
  registered v h := lookup_eq_ok_iff.2 (Or.inr ⟨v, ⟨h, rfl⟩, rfl⟩)
  kept name kind h later := by
    refine lookup_eq_ok_iff.2 ((lookup_eq_ok_iff.1 h).imp_right ?_)
    rintro ⟨v, ⟨hregistered, hname⟩, hkind⟩
    exact ⟨v, ⟨hregistered.append later, hname⟩, hkind⟩
  names_nodup := nodup_names_afterAll attempts
  mem_names name := by
    rw [contains_afterAll_iff, names, List.mem_append, mem_keys_custom_iff]
  names := ⟨_, rfl, Dict.pairwise_keys _, fun name => mem_keys_custom_iff⟩

end ValidatorRegistry

/-! ## Converters -/

theorem BuiltinConverter.ofName?_eq_some_iff {name : String} {c : BuiltinConverter} :
    ofName? name = some c ↔ c.name = name :=
  find?_name_eq_some_iff fun c => by cases c <;> rfl

namespace ConverterRegistry

variable {r : ConverterRegistry} {attempts : List CustomConverter} {c : CustomConverter}
  {name : String}

/-- The names of the built-in converters. -/
def builtinNames : List String :=
  BuiltinConverter.all.map BuiltinConverter.name ++ [ListConverter.pairsName]

/-- What an attempt to register a converter leaves, whether it succeeds or not. -/
def attempt (r : ConverterRegistry) (c : CustomConverter) : ConverterRegistry := (r.register c).1

/-- The registry after some attempts in turn. -/
def afterAll (attempts : List CustomConverter) : ConverterRegistry := attempts.foldl attempt {}

/-- One of the attempts succeeded in registering the converter. -/
def Registered (attempts : List CustomConverter) (c : CustomConverter) : Prop :=
  ∃ earlier later, attempts = earlier ++ c :: later ∧ ((afterAll earlier).register c).2 = none

/-- What the registry after some attempts says about names. -/
structure BindsOnce (attempts : List CustomConverter) : Prop where
  /-- An attempt fails exactly if its name is built in or was registered. -/
  refused : ∀ c e, ((afterAll attempts).register c).2 = some e ↔
    e = .duplicateConverter c.name ∧
      (c.name ∈ builtinNames ∨ ∃ d, Registered attempts d ∧ d.name = c.name)
  /-- An attempt that fails changes nothing. -/
  unchanged : ∀ c e, ((afterAll attempts).register c).2 = some e →
    afterAll (attempts ++ [c]) = afterAll attempts
  /-- A bound name means one thing: a value converter or a list converter. -/
  contains : ∀ name, (afterAll attempts).contains name =
    (((afterAll attempts).lookup name).isOk ^^ ((afterAll attempts).lookupList name).isOk)
  not_both : ∀ name,
    (((afterAll attempts).lookup name).isOk && ((afterAll attempts).lookupList name).isOk) = false
  name : ∀ name c, (afterAll attempts).lookup name = .ok c → c.name = name
  nameList : ∀ name c, (afterAll attempts).lookupList name = .ok c → c.name = name
  /-- A built-in name means what is built in. -/
  builtin : ∀ c : BuiltinConverter, (afterAll attempts).lookup c.name = .ok (.builtin c)
  builtinList : (afterAll attempts).lookupList ListConverter.pairsName = .ok .pairs
  /-- Another name means what was registered. -/
  registered : ∀ c, Registered attempts (.value c) →
    (afterAll attempts).lookup c.name = .ok (.custom c)
  registeredList : ∀ c, Registered attempts (.list c) →
    (afterAll attempts).lookupList c.name = .ok (.custom c)
  /-- What a name means does not change. -/
  kept : ∀ name c, (afterAll attempts).lookup name = .ok c →
    ∀ later, (afterAll (attempts ++ later)).lookup name = .ok c
  keptList : ∀ name c, (afterAll attempts).lookupList name = .ok c →
    ∀ later, (afterAll (attempts ++ later)).lookupList name = .ok c

/-- Whether a name is built in. -/
def reserved (name : String) : Bool :=
  (BuiltinConverter.ofName? name).isSome || name == ListConverter.pairsName

theorem register_of_contains (h : r.contains c.name = true) :
    r.register c = (r, some (.duplicateConverter c.name)) := by
  rw [register, if_pos h]

theorem register_of_not_contains (h : r.contains c.name = false) :
    r.register c = ({ r with custom := r.custom.insert c.name c }, none) := by
  rw [register, if_neg (by simp [h])]

theorem register_eq_some_iff {e : ConfigError} :
    (r.register c).2 = some e ↔ e = .duplicateConverter c.name ∧ r.contains c.name = true := by
  cases h : r.contains c.name with
  | true => simp [register_of_contains h, eq_comm]
  | false => simp [register_of_not_contains h]

theorem register_eq_none_iff :
    (r.register c).2 = none ↔ reserved c.name = false ∧ r.custom.contains c.name = false := by
  rw [← Bool.or_eq_false_iff, reserved, ← contains]
  cases h : r.contains c.name with
  | true => simp [register_of_contains h]
  | false => simp [register_of_not_contains h]

theorem custom_attempt (r : ConverterRegistry) (c : CustomConverter) :
    (r.attempt c).custom = r.custom.bind reserved c.name c := by
  unfold attempt register contains Dict.bind reserved
  split <;> rfl

theorem custom_afterAll (attempts : List CustomConverter) :
    (afterAll attempts).custom = Dict.bindAll reserved CustomConverter.name ∅ attempts :=
  (List.foldl_hom custom fun r c => (custom_attempt r c).symm).symm

theorem registered_iff :
    Registered attempts c ∧ c.name = name ↔ (afterAll attempts).custom.get? name = some c := by
  rw [custom_afterAll, Dict.get?_bindAll_eq_some_iff, and_comm]
  refine and_congr_right ?_
  rintro rfl
  simp only [Registered, register_eq_none_iff, custom_afterAll]

theorem reserved_iff : reserved name = true ↔ name ∈ builtinNames := by
  rw [reserved, builtinNames, Bool.or_eq_true, Option.isSome_iff_exists, beq_iff_eq,
    List.mem_append, List.mem_map, List.mem_singleton]
  refine or_congr_left ?_
  constructor
  · rintro ⟨c, hc⟩
    exact ⟨c, by cases c <;> decide, BuiltinConverter.ofName?_eq_some_iff.1 hc⟩
  · rintro ⟨c, -, hc⟩
    exact ⟨c, BuiltinConverter.ofName?_eq_some_iff.2 hc⟩

/-- Nothing is registered under a built-in name. -/
theorem get?_custom_of_reserved (h : reserved name = true) :
    (afterAll attempts).custom.get? name = none := by
  rw [custom_afterAll, Dict.get?_bindAll, h]
  rfl

/-- A name is bound to a value converter, or to a list converter, or not at all. -/
theorem cases_of_name (attempts : List CustomConverter) (name : String) :
    let r := afterAll attempts
    (r.contains name = true ∧ (r.lookup name).isOk = true ∧ (r.lookupList name).isOk = false) ∨
      (r.contains name = true ∧ (r.lookup name).isOk = false ∧ (r.lookupList name).isOk = true) ∨
      (r.contains name = false ∧ (r.lookup name).isOk = false ∧
        (r.lookupList name).isOk = false) := by
  intro r
  unfold contains lookup lookupList
  rw [Dict.contains_eq]
  cases hbuiltin : BuiltinConverter.ofName? name with
  | some c =>
    have hnone : r.custom.get? name = none :=
      get?_custom_of_reserved (by rw [reserved, hbuiltin]; rfl)
    have hpairs : name ≠ ListConverter.pairsName := by
      rw [← BuiltinConverter.ofName?_eq_some_iff.1 hbuiltin]
      cases c <;> decide
    rw [hnone, if_neg hpairs]
    exact Or.inl ⟨rfl, rfl, rfl⟩
  | none =>
    by_cases hpairs : name = ListConverter.pairsName
    · have hnone : r.custom.get? name = none := get?_custom_of_reserved (by simp [reserved, hpairs])
      rw [hnone, if_pos hpairs, hpairs]
      exact Or.inr (Or.inl ⟨rfl, rfl, rfl⟩)
    · have hb : (name == ListConverter.pairsName) = false := by simpa using hpairs
      rw [if_neg hpairs, hb]
      cases r.custom.get? name with
      | none => exact Or.inr (Or.inr ⟨rfl, rfl, rfl⟩)
      | some c =>
        cases c with
        | value c => exact Or.inl ⟨rfl, rfl, rfl⟩
        | list c => exact Or.inr (Or.inl ⟨rfl, rfl, rfl⟩)

/-- A value converter is a built-in one or was registered. -/
theorem lookup_eq_ok_iff {d : Converter} :
    (afterAll attempts).lookup name = .ok d ↔
      (∃ c : BuiltinConverter, c.name = name ∧ d = .builtin c) ∨
        ∃ c, (Registered attempts (.value c) ∧ c.name = name) ∧ d = .custom c := by
  have hregistered : ∀ c : CustomValueConverter, Registered attempts (.value c) ∧ c.name = name ↔
      (afterAll attempts).custom.get? name = some (.value c) := fun _ => registered_iff
  simp only [hregistered, ← BuiltinConverter.ofName?_eq_some_iff]
  unfold lookup
  cases hbuiltin : BuiltinConverter.ofName? name with
  | some c =>
    have hnone : (afterAll attempts).custom.get? name = none :=
      get?_custom_of_reserved (by rw [reserved, hbuiltin]; rfl)
    simp [hnone, eq_comm]
  | none =>
    cases hcustom : (afterAll attempts).custom.get? name with
    | none => simp
    | some c => cases c <;> simp [eq_comm]

/-- A list converter is the built-in one or was registered. -/
theorem lookupList_eq_ok_iff {d : ListConverter} :
    (afterAll attempts).lookupList name = .ok d ↔
      (name = ListConverter.pairsName ∧ d = .pairs) ∨
        ∃ c, (Registered attempts (.list c) ∧ c.name = name) ∧ d = .custom c := by
  have hregistered : ∀ c : CustomListConverter, Registered attempts (.list c) ∧ c.name = name ↔
      (afterAll attempts).custom.get? name = some (.list c) := fun _ => registered_iff
  simp only [hregistered]
  unfold lookupList
  by_cases hpairs : name = ListConverter.pairsName
  · have hnone : (afterAll attempts).custom.get? name = none :=
      get?_custom_of_reserved (by simp [reserved, hpairs])
    rw [if_pos hpairs, hnone]
    simp [hpairs, eq_comm]
  · rw [if_neg hpairs]
    cases hcustom : (afterAll attempts).custom.get? name with
    | none => simp [hpairs]
    | some c => cases c <;> simp [hpairs, eq_comm]

theorem contains_afterAll_iff :
    (afterAll attempts).contains name = true ↔
      name ∈ builtinNames ∨ ∃ c, Registered attempts c ∧ c.name = name := by
  simp only [registered_iff]
  rw [contains, ← reserved, Bool.or_eq_true, reserved_iff, Dict.contains_eq,
    Option.isSome_iff_exists]

theorem Registered.append (h : Registered attempts c) (later : List CustomConverter) :
    Registered (attempts ++ later) c := by
  obtain ⟨earlier, between, rfl, hregister⟩ := h
  exact ⟨earlier, between ++ later, by simp, hregister⟩

theorem bindsOnce (attempts : List CustomConverter) : BindsOnce attempts where
  refused c e := by
    rw [register_eq_some_iff, contains_afterAll_iff]
  unchanged c e h := by
    rw [afterAll, List.foldl_append, ← afterAll, List.foldl_cons, List.foldl_nil, attempt,
      register_of_contains (register_eq_some_iff.1 h).2]
  contains name := by
    rcases cases_of_name attempts name with ⟨hbound, hvalue, hlist⟩ | ⟨hbound, hvalue, hlist⟩ |
      ⟨hbound, hvalue, hlist⟩
    all_goals rw [hbound, hvalue, hlist]; rfl
  not_both name := by
    rcases cases_of_name attempts name with ⟨-, hvalue, hlist⟩ | ⟨-, hvalue, hlist⟩ |
      ⟨-, hvalue, hlist⟩
    all_goals rw [hvalue, hlist]; rfl
  name name d h := by
    rcases lookup_eq_ok_iff.1 h with ⟨c, rfl, rfl⟩ | ⟨c, ⟨-, rfl⟩, rfl⟩
    · rfl
    · rfl
  nameList name d h := by
    rcases lookupList_eq_ok_iff.1 h with ⟨rfl, rfl⟩ | ⟨c, ⟨-, rfl⟩, rfl⟩
    · rfl
    · rfl
  builtin c := lookup_eq_ok_iff.2 (Or.inl ⟨c, rfl, rfl⟩)
  builtinList := lookupList_eq_ok_iff.2 (Or.inl ⟨rfl, rfl⟩)
  registered c h := lookup_eq_ok_iff.2 (Or.inr ⟨c, ⟨h, rfl⟩, rfl⟩)
  registeredList c h := lookupList_eq_ok_iff.2 (Or.inr ⟨c, ⟨h, rfl⟩, rfl⟩)
  kept name d h later := by
    refine lookup_eq_ok_iff.2 ((lookup_eq_ok_iff.1 h).imp_right ?_)
    rintro ⟨c, ⟨hregistered, hname⟩, hd⟩
    exact ⟨c, ⟨hregistered.append later, hname⟩, hd⟩
  keptList name d h later := by
    refine lookupList_eq_ok_iff.2 ((lookupList_eq_ok_iff.1 h).imp_right ?_)
    rintro ⟨c, ⟨hregistered, hname⟩, hd⟩
    exact ⟨c, ⟨hregistered.append later, hname⟩, hd⟩

end ConverterRegistry

/-- **Names are bound once and for ever.** Whatever registrations of validators and of converters
are attempted, each registry refuses exactly the names that are built in or were registered, and a
bound name means at all times what it was bound to first, in the shape that this has. -/
theorem Registries.names_bound_once :
    (∀ attempts, ValidatorRegistry.BindsOnce attempts) ∧
      ∀ attempts, ConverterRegistry.BindsOnce attempts :=
  ⟨ValidatorRegistry.bindsOnce, ConverterRegistry.bindsOnce⟩

/-- A name that was registered for a leaf is refused to an object, and one that was registered for a
list converter is no value converter. -/
theorem Registries.names_bound_once_shape :
    let shape : CustomLeaf := ⟨"type:shape", fun _ _ => Verdict.pass⟩
    let another : CustomStructured := ⟨"type:shape", fun _ _ => Verdict.pass⟩
    let validators := ValidatorRegistry.afterAll [.leaf shape, .structured another]
    let toList : CustomListConverter := ⟨"to_list", fun items => .ok (.array items)⟩
    let asIs : CustomValueConverter := ⟨"to_list", .ok⟩
    let converters := ConverterRegistry.afterAll [.list toList, .value asIs]
    validators.lookup "type:shape" = .ok (.leaf (.custom shape)) ∧
      (validators.register (.structured another)).2 = some (.duplicateValidator "type:shape") ∧
      "type:shape" ∈ validators.names ∧
      converters.lookupList "to_list" = .ok (.custom toList) ∧
      (converters.lookup "to_list").isOk = false := by
  intro shape another validators toList asIs converters
  obtain ⟨hvalidators, hconverters⟩ := Registries.names_bound_once
  have hv := hvalidators [.leaf shape, .structured another]
  have hc := hconverters [.list toList, .value asIs]
  have hshape : ValidatorRegistry.Registered [.leaf shape, .structured another] (.leaf shape) :=
    ⟨[], [.structured another], rfl, ValidatorRegistry.register_eq_none_iff.2 ⟨by decide, by decide⟩⟩
  have hlist : ConverterRegistry.Registered [.list toList, .value asIs] (.list toList) :=
    ⟨[], [.value asIs], rfl, ConverterRegistry.register_eq_none_iff.2 ⟨by decide, by decide⟩⟩
  have hlookup := hv.registered _ hshape
  have hcollapse := hc.registeredList _ hlist
  refine ⟨hlookup, (hv.refused _ _).2 ⟨rfl, Or.inr ⟨_, hshape, rfl⟩⟩, ?_, hcollapse, ?_⟩
  · rw [hv.mem_names, hv.contains]
    exact congrArg Except.isOk hlookup
  · have hnot := hc.not_both "to_list"
    rw [hcollapse] at hnot
    simpa [Except.isOk, Except.toBool] using hnot

end AttributeSchema
