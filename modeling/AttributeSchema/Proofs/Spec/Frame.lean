import AttributeSchema.Proofs.Spec.Conversion

/-!
# What conversion leaves alone

A specification without converters of its own touches the members that its structured rules name and
nothing else: scalars, the items of an array that are not objects and all other members stay, and so
do the order of items and of members. This holds of the value and of every member that is converted
in it, at every depth. Main statement: `Conversion.convert_framed`.
-/

namespace AttributeSchema

/-- The specifications that some members have under a key, in order. -/
def Members.under (specs : List (String × Spec)) (key : String) : List Spec :=
  (specs.filter fun m => m.1 == key).map Prod.snd

/-- The specifications that the structured rules have for a key, in the order of the rules. -/
def SpecOf.under (spec : Spec) : String → List Spec :=
  Members.under spec.structuredMembers.flatten

/-- The namings of all other keys. -/
def Members.except (named : String → List Spec) (key : String) : String → List Spec :=
  fun k => if k = key then [] else named k

namespace Conversion

open Members (under except)

mutual

/-- What a value becomes under a specification. Only its own converters change the value as a whole;
after that members are converted. -/
inductive Framed : Spec → Json → Json → Prop
  | kept {spec : Spec} {v w : Json} (unconverted : spec.Unconverted)
      (inside : FramedInside spec.under v w) : Framed spec v w
  | converted {spec : Spec} {v x w : Json} (declared : ¬ spec.Unconverted)
      (first : whole spec.convertTo spec.convertListTo v = .ok x)
      (inside : FramedInside spec.under x w) : Framed spec v w

/-- What a value becomes inside. A scalar stays. -/
inductive FramedInside : (String → List Spec) → Json → Json → Prop
  | scalar {named : String → List Spec} {v : Json} (isScalar : v.isScalar = true) :
      FramedInside named v v
  | object {named : String → List Spec} {ms ms' : List (String × Json)}
      (members : FramedMembers named ms ms') : FramedInside named (.object ms) (.object ms')
  | array {named : String → List Spec} {items items' : List Json}
      (inOrder : FramedItems named items items') :
      FramedInside named (.array items) (.array items')

/-- What items become: each one that is not an object stays. -/
inductive FramedItems : (String → List Spec) → List Json → List Json → Prop
  | nil {named : String → List Spec} : FramedItems named [] []
  | other {named : String → List Spec} {item : Json} {items items' : List Json}
      (notObject : ∀ ms, item ≠ .object ms) (rest : FramedItems named items items') :
      FramedItems named (item :: items) (item :: items')
  | object {named : String → List Spec} {ms ms' : List (String × Json)} {items items' : List Json}
      (members : FramedMembers named ms ms') (rest : FramedItems named items items') :
      FramedItems named (.object ms :: items) (.object ms' :: items')

/-- What members become: each stays in its place under its key. If a key were repeated, only its
first member would be converted. -/
inductive FramedMembers :
    (String → List Spec) → List (String × Json) → List (String × Json) → Prop
  | nil {named : String → List Spec} : FramedMembers named [] []
  | cons {named : String → List Spec} {key : String} {v w : Json} {ms ms' : List (String × Json)}
      (member : FramedInTurn (named key) v w) (others : FramedMembers (except named key) ms ms') :
      FramedMembers named ((key, v) :: ms) ((key, w) :: ms')

/-- What a value becomes under specifications in turn. Without any it stays. -/
inductive FramedInTurn : List Spec → Json → Json → Prop
  | nil {v : Json} : FramedInTurn [] v v
  | cons {spec : Spec} {specs : List Spec} {v x w : Json} (first : Framed spec v x)
      (rest : FramedInTurn specs x w) : FramedInTurn (spec :: specs) v w

end

/-! ## Inversion -/

variable {named named' : String → List Spec} {key : String} {spec : Spec} {specs : List Spec}
  {v w : Json} {ms ms' : List (String × Json)}

theorem framedInTurn_nil_iff : FramedInTurn [] v w ↔ w = v := by
  constructor
  · rintro ⟨⟩
    rfl
  · rintro rfl
    exact .nil

theorem framedInTurn_cons_iff :
    FramedInTurn (spec :: specs) v w ↔ ∃ x, Framed spec v x ∧ FramedInTurn specs x w := by
  constructor
  · rintro (_ | ⟨first, rest⟩)
    exact ⟨_, first, rest⟩
  · rintro ⟨x, first, rest⟩
    exact .cons first rest

theorem framedMembers_nil_iff : FramedMembers named [] ms' ↔ ms' = [] := by
  constructor
  · rintro ⟨⟩
    rfl
  · rintro rfl
    exact .nil

theorem framedMembers_cons_iff :
    FramedMembers named ((key, v) :: ms) ms' ↔
      ∃ w rest, FramedInTurn (named key) v w ∧ FramedMembers (except named key) ms rest ∧
        (key, w) :: rest = ms' := by
  constructor
  · rintro (_ | ⟨member, others⟩)
    exact ⟨_, _, member, others, rfl⟩
  · rintro ⟨w, rest, member, others, rfl⟩
    exact .cons member others

/-- The first converter step and the pass over the members. -/
theorem framed_iff :
    Framed spec v w ↔
      ∃ x, whole spec.convertTo spec.convertListTo v = .ok x ∧ FramedInside spec.under x w := by
  constructor
  · rintro (⟨unconverted, inside⟩ | ⟨-, first, inside⟩)
    · refine ⟨v, ?_, inside⟩
      rw [unconverted.1, unconverted.2]
      rfl
    · exact ⟨_, first, inside⟩
  · rintro ⟨x, first, inside⟩
    by_cases h : spec.Unconverted
    · rw [h.1, h.2] at first
      obtain rfl : v = x := Except.ok.inj first
      exact .kept h inside
    · exact .converted h first inside

/-! ## Members -/

theorem except_of_ne {k : String} (h : k ≠ key) : except named key k = named k := if_neg h

theorem except_self : except named key key = [] := if_pos rfl

/-- Only the namings of keys that are there matter. -/
theorem framedMembers_congr (h : ∀ m ∈ ms, named m.1 = named' m.1) :
    FramedMembers named ms ms' ↔ FramedMembers named' ms ms' := by
  induction ms generalizing named named' ms' with
  | nil => rw [framedMembers_nil_iff, framedMembers_nil_iff]
  | cons m ms ih =>
    obtain ⟨key, v⟩ := m
    obtain ⟨hkey, hms⟩ := List.forall_mem_cons.1 h
    have hrest : ∀ m ∈ ms, except named key m.1 = except named' key m.1 := by
      intro m hm
      rw [except, except, hms m hm]
    have hkey : named key = named' key := hkey
    simp only [framedMembers_cons_iff, hkey, ih hrest]

theorem framedMembers_of_nothing_iff (h : ∀ m ∈ ms, named m.1 = []) :
    FramedMembers named ms ms' ↔ ms' = ms := by
  induction ms generalizing named ms' with
  | nil => exact framedMembers_nil_iff
  | cons m ms ih =>
    obtain ⟨key, v⟩ := m
    obtain ⟨hkey, hms⟩ := List.forall_mem_cons.1 h
    have hrest : ∀ m ∈ ms, except named key m.1 = [] := by
      intro m hm
      rw [except, hms m hm, ite_self]
    have hkey : named key = [] := hkey
    rw [framedMembers_cons_iff, hkey]
    simp only [framedInTurn_nil_iff, ih hrest, exists_and_left, exists_eq_left]
    exact eq_comm

/-- A specification for one more key is applied to its member first. -/
theorem framedMembers_add_iff (hkey : named' key = spec :: named key)
    (hother : ∀ k, k ≠ key → named' k = named k) (hv : ms.lookup key = some v) :
    FramedMembers named' ms ms' ↔
      ∃ x, Framed spec v x ∧ FramedMembers named (Members.insert key x ms) ms' := by
  induction ms generalizing named named' ms' with
  | nil => simp at hv
  | cons m ms ih =>
    obtain ⟨k, u⟩ := m
    rw [framedMembers_cons_iff]
    by_cases hk : k = key
    · -- Here is the member, and what follows is not looked at under its key.
      subst hk
      obtain rfl : u = v := by simpa using hv
      have hexcept : except named' k = except named k := by
        funext j
        by_cases hj : j = k
        · rw [hj, except_self, except_self]
        · rw [except_of_ne hj, except_of_ne hj, hother j hj]
      have hinsert : ∀ x, Members.insert k x ((k, u) :: ms) = (k, x) :: ms := fun x => by
        simp [Members.insert]
      simp only [hinsert, framedMembers_cons_iff, hkey, hexcept, framedInTurn_cons_iff]
      constructor
      · rintro ⟨w, rest, ⟨x, hx, hw⟩, hrest, rfl⟩
        exact ⟨x, hx, w, rest, hw, hrest, rfl⟩
      · rintro ⟨x, hx, w, rest, hw, hrest, rfl⟩
        exact ⟨w, rest, ⟨x, hx, hw⟩, hrest, rfl⟩
    · -- The member is further on, where the two namings still differ by the one specification.
      have hv : ms.lookup key = some v := by
        have hb : (key == k) = false := by simpa using fun e => hk e.symm
        simpa [List.lookup_cons, hb] using hv
      have hinsert : ∀ x, Members.insert key x ((k, u) :: ms) = (k, u) :: Members.insert key x ms :=
        fun x => by simp [Members.insert, hk]
      have hkey' : except named' k key = spec :: except named k key := by
        rw [except_of_ne (Ne.symm hk), except_of_ne (Ne.symm hk), hkey]
      have hother' : ∀ j, j ≠ key → except named' k j = except named k j := by
        intro j hj
        rw [except, except, hother j hj]
      simp only [hinsert, framedMembers_cons_iff, hother k hk, ih hkey' hother' hv]
      constructor
      · rintro ⟨w, rest, hw, ⟨x, hx, hrest⟩, rfl⟩
        exact ⟨x, hx, w, rest, hw, hrest, rfl⟩
      · rintro ⟨x, hx, w, rest, hw, hrest, rfl⟩
        exact ⟨w, rest, hw, ⟨x, hx, hrest⟩, rfl⟩

theorem under_cons_self (spec : Spec) (specs : List (String × Spec)) :
    under ((key, spec) :: specs) key = spec :: under specs key := by
  simp [under]

theorem under_cons_of_ne {k : String} (h : k ≠ key) (spec : Spec) (specs : List (String × Spec)) :
    under ((key, spec) :: specs) k = under specs k := by
  have hb : (key == k) = false := by simpa using fun e => h e.symm
  simp [under, hb]

theorem convertMembers_eq_ok_iff {specs : List (String × Spec)}
    (hspecs : ∀ m ∈ specs, ∀ v w, convert m.2 v = .ok w ↔ Framed m.2 v w) :
    convertMembers specs ms = .ok ms' ↔ FramedMembers (under specs) ms ms' := by
  induction specs generalizing ms with
  | nil =>
    rw [convertMembers, framedMembers_of_nothing_iff fun _ _ => rfl, Except.ok.injEq, eq_comm]
  | cons m specs ih =>
    obtain ⟨key, spec⟩ := m
    obtain ⟨hspec, hspecs⟩ := List.forall_mem_cons.1 hspecs
    rw [convertMembers]
    split
    case h_1 hnone =>
      rw [ih hspecs]
      refine framedMembers_congr fun m hm => (under_cons_of_ne ?_ spec specs).symm
      exact Entries.lookup_eq_none_iff.1 hnone m hm
    case h_2 v hv =>
      rw [framedMembers_add_iff (under_cons_self spec specs)
        (fun k hk => under_cons_of_ne hk spec specs) hv]
      cases hconvert : convert spec v with
      | ok x =>
        have hx : ∀ y, Framed spec v y ↔ y = x := fun y => by
          rw [← hspec v y, hconvert, Except.ok.injEq, eq_comm]
        simp only [hx, exists_eq_left]
        exact ih hspecs
      | error e =>
        have hx : ∀ y, ¬ Framed spec v y := fun y hy => by
          rw [(hspec v y).2 hy] at hconvert
          cases hconvert
        simp [hx]

/-! ## Rules in turn -/

section Passes

variable {f g : List (String × Json) → Except ConvertError (List (String × Json))}

theorem onObject_bind (v : Json) :
    onObject f v >>= onObject g = onObject (fun ms => (f ms).bind g) v := by
  cases v with
  | object ms =>
    rw [onObject, onObject]
    cases f ms <;> rfl
  | _ => rfl

/-- Two passes over the objects of a value are one. -/
theorem exists_onObjects_then_iff :
    (∃ x, onObjects f v = .ok x ∧ onObjects g x = .ok w) ↔
      onObjects (fun ms => (f ms).bind g) v = .ok w := by
  cases v with
  | array items =>
    have hitem : onObject (fun ms => (f ms).bind g) = fun item => onObject f item >>= onObject g :=
      (funext onObject_bind).symm
    simp only [onObjects_array_eq_ok_iff, hitem, ← Traversal.exists_mapM_then_iff]
    constructor
    · rintro ⟨_, ⟨items₁, hf, rfl⟩, hg⟩
      obtain ⟨items₂, hitems, rfl⟩ := onObjects_array_eq_ok_iff.1 hg
      exact ⟨items₂, ⟨items₁, hf, hitems⟩, rfl⟩
    · rintro ⟨items₂, ⟨items₁, hf, hg⟩, rfl⟩
      exact ⟨_, ⟨items₁, hf, rfl⟩, onObjects_array_eq_ok_iff.2 ⟨items₂, hg, rfl⟩⟩
  | object ms =>
    rw [onObjects, onObjects, onObject, onObject]
    · cases f ms <;> simp [onObjects, onObject, Except.map, Except.bind]
    all_goals simp
  | _ => simp [onObjects, onObject]

end Passes

theorem convertMembers_append (specs specs' : List (String × Spec)) (ms : List (String × Json)) :
    convertMembers (specs ++ specs') ms =
      (convertMembers specs ms).bind (convertMembers specs') := by
  induction specs generalizing ms with
  | nil =>
    rw [convertMembers]
    rfl
  | cons m specs ih =>
    obtain ⟨key, spec⟩ := m
    rw [List.cons_append, convertMembers, convertMembers]
    split
    · exact ih ms
    · split
      · exact ih _
      · rfl

/-- The rules of a specification convert the objects of a value in one pass. -/
theorem convertByRules_eq_ok_iff {rules : List Rule} :
    convertByRules rules v = .ok w ↔
      onObjects (convertMembers (rules.filterMap Rule.members?).flatten) v = .ok w := by
  induction rules generalizing v with
  | nil =>
    rw [convertByRules, List.filterMap_nil, List.flatten_nil,
      onObjects_eq_self fun ms => by rw [convertMembers]]
  | cons r rules ih =>
    cases r with
    | leaf kind param regex =>
      rw [convertByRules]
      exact ih
    | structured kind specs =>
      have happend : convertMembers (((Rule.structured kind specs) :: rules).filterMap
          Rule.members?).flatten = fun ms => (convertMembers specs ms).bind
            (convertMembers (rules.filterMap Rule.members?).flatten) := by
        funext ms
        exact convertMembers_append _ _ _
      rw [happend, ← exists_onObjects_then_iff, convertByRules]
      cases onObjects (convertMembers specs) v <;> simp [ih]

/-! ## Conversion -/

theorem framedItems_iff {f : List (String × Json) → Except ConvertError (List (String × Json))}
    (hf : ∀ ms ms', f ms = .ok ms' ↔ FramedMembers named ms ms') {items items' : List Json} :
    items.mapM (onObject f) = .ok items' ↔ FramedItems named items items' := by
  rw [Traversal.mapM_eq_ok_iff]
  constructor
  · intro h
    induction h with
    | nil => exact .nil
    | @cons item _ _ _ hitem _ ih =>
      cases item with
      | object ms =>
        obtain ⟨ms', hms, rfl⟩ := onObject_object_eq_ok_iff.1 hitem
        exact .object ((hf _ _).1 hms) ih
      | _ =>
        obtain rfl := Except.ok.inj hitem
        exact .other (by simp) ih
  · intro h
    induction items generalizing items' with
    | nil =>
      cases h
      exact .nil
    | cons item items ih =>
      cases h with
      | other hnot hrest =>
        refine .cons ?_ (ih hrest)
        cases item with
        | object ms => exact absurd rfl (hnot ms)
        | _ => rfl
      | object hmembers hrest =>
        exact .cons (onObject_object_eq_ok_iff.2 ⟨_, (hf _ _).2 hmembers, rfl⟩) (ih hrest)

theorem framedInside_iff {f : List (String × Json) → Except ConvertError (List (String × Json))}
    (hf : ∀ ms ms', f ms = .ok ms' ↔ FramedMembers named ms ms') :
    onObjects f v = .ok w ↔ FramedInside named v w := by
  cases v with
  | array items =>
    rw [onObjects_array_eq_ok_iff]
    constructor
    · rintro ⟨items', hitems, rfl⟩
      exact .array ((framedItems_iff hf).1 hitems)
    · rintro (hscalar | _ | hitems)
      · cases hscalar
      · exact ⟨_, (framedItems_iff hf).2 hitems, rfl⟩
  | object ms =>
    refine onObject_object_eq_ok_iff.trans ?_
    constructor
    · rintro ⟨ms', hms, rfl⟩
      exact .object ((hf _ _).1 hms)
    · rintro (hscalar | hmembers | _)
      · cases hscalar
      · exact ⟨_, (hf _ _).2 hmembers, rfl⟩
  | _ =>
    constructor
    · intro h
      obtain rfl := Except.ok.inj h
      exact .scalar rfl
    · rintro ⟨⟩
      rfl

/-- A conversion succeeds with just what the specification frames. -/
theorem convert_eq_ok_iff_framed (spec : Spec) :
    ∀ v w, convert spec v = .ok w ↔ Framed spec v w := by
  have hall : spec.Everywhere fun _ => True := SpecOf.everywhere_of_forall (fun _ => trivial) spec
  induction hall with
  | @intro spec _ _ ih =>
    intro v w
    have hmembers : ∀ ms ms', convertMembers spec.structuredMembers.flatten ms = .ok ms' ↔
        FramedMembers spec.under ms ms' := fun _ _ => convertMembers_eq_ok_iff fun m hm => by
      obtain ⟨members, hmem, hm⟩ := List.mem_flatten.1 hm
      exact ih members hmem m hm
    have hfirst : convert spec v = .ok w ↔
        ∃ x, whole spec.convertTo spec.convertListTo v = .ok x ∧
          convertByRules spec.rules x = .ok w := by
      rw [convert_eq]
      exact Traversal.bind_eq_ok_iff
    rw [hfirst, framed_iff]
    refine exists_congr fun x => and_congr_right fun _ => ?_
    rw [convertByRules_eq_ok_iff]
    exact framedInside_iff hmembers

/-! ## What stays -/

/-- Each member stays in its place under its key, and one that no specification names stays as it
is. -/
def KeepsMembers (named : String → List Spec) (ms ms' : List (String × Json)) : Prop :=
  List.Forall₂ (fun m m' => m'.1 = m.1 ∧ (named m.1 = [] → m' = m)) ms ms'

/-- An item of an array stays as it is if it is not an object. -/
def KeepsItem (named : String → List Spec) (item item' : Json) : Prop :=
  ((∀ ms, item ≠ .object ms) → item' = item) ∧
    ∀ ms, item = .object ms → ∃ ms', item' = .object ms' ∧ KeepsMembers named ms ms'

/-- What stays of a value in which members are converted: a scalar, the length and the order of an
array, and the keys of an object and their order. -/
structure Keeps (named : String → List Spec) (v w : Json) : Prop where
  scalar : v.isScalar = true → w = v
  object : ∀ ms, v = .object ms → ∃ ms', w = .object ms' ∧ KeepsMembers named ms ms'
  array : ∀ items, v = .array items →
    ∃ items', w = .array items' ∧ List.Forall₂ (KeepsItem named) items items'

theorem FramedMembers.keeps (h : FramedMembers named ms ms') : KeepsMembers named ms ms' := by
  induction ms generalizing named ms' with
  | nil =>
    obtain rfl := framedMembers_nil_iff.1 h
    exact .nil
  | cons m ms ih =>
    obtain ⟨key, v⟩ := m
    obtain ⟨w, rest, hmember, hothers, rfl⟩ := framedMembers_cons_iff.1 h
    refine .cons ⟨rfl, fun hnone => ?_⟩ ((ih hothers).imp fun m m' hm => ⟨hm.1, fun hnone => ?_⟩)
    · have hnone : named key = [] := hnone
      rw [hnone, framedInTurn_nil_iff] at hmember
      rw [hmember]
    · exact hm.2 (by rw [except, hnone, ite_self])

theorem FramedItems.keeps {items items' : List Json} (h : FramedItems named items items') :
    List.Forall₂ (KeepsItem named) items items' := by
  induction items generalizing items' with
  | nil =>
    cases h
    exact .nil
  | cons item items ih =>
    cases h with
    | other hnot hrest => exact .cons ⟨fun _ => rfl, fun ms h => absurd h (hnot ms)⟩ (ih hrest)
    | object hmembers hrest =>
      refine .cons ⟨fun hnot => absurd rfl (hnot _), ?_⟩ (ih hrest)
      rintro ms ⟨⟩
      exact ⟨_, rfl, hmembers.keeps⟩

theorem FramedInside.keeps (h : FramedInside named v w) : Keeps named v w := by
  cases h with
  | scalar hscalar =>
    constructor
    · exact fun _ => rfl
    · rintro ms rfl
      cases hscalar
    · rintro items rfl
      cases hscalar
  | object hmembers =>
    refine ⟨nofun, ?_, nofun⟩
    rintro ms ⟨⟩
    exact ⟨_, rfl, hmembers.keeps⟩
  | array hitems =>
    refine ⟨nofun, nofun, ?_⟩
    rintro items ⟨⟩
    exact ⟨_, rfl, hitems.keeps⟩

theorem Framed.keeps (h : Framed spec v w) (hspec : spec.Unconverted) : Keeps spec.under v w := by
  cases h with
  | kept _ inside => exact inside.keeps
  | converted declared _ _ => exact absurd hspec declared

/-- **Conversion touches only what is declared.** A conversion yields exactly what the specification
frames, at every depth. Wherever a specification has no converters of its own it keeps the value but
for the members that its structured rules name, and where no converter is declared at any depth a
value is converted to itself. -/
theorem convert_framed :
    (∀ (spec : Spec) v w, spec.convert v = .ok w ↔ Framed spec v w) ∧
      (∀ (spec : Spec) v w, Framed spec v w → spec.Unconverted → Keeps spec.under v w) ∧
      ∀ spec : Spec, spec.Everywhere SpecOf.Unconverted → ∀ v, spec.convert v = .ok v :=
  ⟨convert_eq_ok_iff_framed, fun _ _ _ h hspec => h.keeps hspec, fun _ => convert_of_unconverted⟩

/-- Of some options the unit is converted, and a note stays; without the converter both stay. -/
theorem convert_framed_options :
    let options (unit : Spec) : Spec :=
      { rules := [.structured (.builtin .object) [("mtu", unit)]] }
    let sent := Json.object [("mtu", .string "1500"), ("note", .bool true)]
    let stored := Json.object [("mtu", .ofInt 1500), ("note", .bool true)]
    let number := options { convertTo := some [.builtin .integer] }
    Framed number sent stored ∧ Keeps number.under sent stored ∧
      (options {}).convert sent = .ok sent := by
  intro options sent stored number
  obtain ⟨hiff, hkeeps, hself⟩ := convert_framed
  have hframed : Framed number sent stored := (hiff number sent stored).1 (by cbv)
  have hplain : (options {}).Everywhere SpecOf.Unconverted := by
    refine .of_single ⟨rfl, rfl⟩ rfl fun m hm => ?_
    obtain rfl : m = _ := List.mem_singleton.1 hm
    exact .of_leaf ⟨rfl, rfl⟩ rfl
  exact ⟨hframed, hkeeps number sent stored hframed ⟨rfl, rfl⟩, hself (options {}) hplain sent⟩

end Conversion

end AttributeSchema
