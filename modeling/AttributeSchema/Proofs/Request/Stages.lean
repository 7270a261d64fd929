import AttributeSchema.Request.Basic

/-!
# Stages, attribute by attribute

The stages of the preparation treat the attributes one after the other, and what is done for one
attribute neither reads nor writes another one. So a stage that succeeds does to each attribute what
it would do to it alone. Main statements: `Request.fillDefaults_eq_done_iff` and
`Request.convertValues_eq_done_iff`, which say this of two stages, and
`Request.prepare_create_eq_done_iff` and `Request.prepare_update_eq_done_iff`, which take a
preparation apart into its stages.
-/

namespace AttributeSchema

/-! ## Success of combined stages -/

namespace Outcome

theorem done_inj {b f : Body} : done b = done f ↔ b = f := by simp [done]

theorem eq_done_iff {o : Outcome} {f : Body} : o = done f ↔ o.error? = none ∧ o.body = f := by
  obtain ⟨body, error?⟩ := o
  simp only [done, Outcome.mk.injEq]
  exact and_comm

theorem andThen_eq_done_iff {o : Outcome} {next : Body → Outcome} {f : Body} :
    o.andThen next = done f ↔ ∃ b, o = done b ∧ next b = done f := by
  obtain ⟨body, error?⟩ := o
  cases error? with
  | none =>
    constructor
    · intro h
      exact ⟨body, rfl, h⟩
    · rintro ⟨b, hb, hnext⟩
      obtain rfl : body = b := done_inj.1 hb
      exact hnext
  | some e => simp [andThen, done]

theorem andAlso_eq_done_iff {o : Outcome} {next : Body → Outcome} {f : Body} :
    o.andAlso next = done f ↔ ∃ b, o = done b ∧ next b = done f := by
  obtain ⟨body, error?⟩ := o
  rw [eq_done_iff]
  cases error? with
  | none =>
    constructor
    · rintro ⟨herror, hbody⟩
      exact ⟨body, rfl, eq_done_iff.2 ⟨by simpa [andAlso] using herror, hbody⟩⟩
    · rintro ⟨b, hb, hnext⟩
      obtain rfl : body = b := done_inj.1 hb
      obtain ⟨herror, hbody⟩ := eq_done_iff.1 hnext
      exact ⟨by simpa [andAlso] using herror, hbody⟩
  | some e => simp [andAlso, done]

/-! ## Stages that act at one attribute -/

/-- The stage reads and writes one attribute only. -/
structure ActsAt (key : String) (stage : Body → Outcome) : Prop where
  frame : ∀ b k, k ≠ key → (stage b).body.get? k = b.get? k
  body : ∀ {b b'}, b.get? key = b'.get? key → (stage b).body.get? key = (stage b').body.get? key
  error : ∀ {b b'}, b.get? key = b'.get? key → (stage b).error? = (stage b').error?

/-- What a stage does to its attribute in one body it does in each body that agrees there. -/
theorem ActsAt.transport {key : String} {stage : Body → Outcome} (h : ActsAt key stage)
    {b b' f : Body} (hb : stage b = done f) (hagree : b'.get? key = b.get? key) :
    ∃ f', stage b' = done f' ∧ f'.get? key = f.get? key := by
  obtain ⟨herror, rfl⟩ := eq_done_iff.1 hb
  refine ⟨(stage b').body, eq_done_iff.2 ⟨?_, rfl⟩, h.body hagree⟩
  rw [h.error hagree]
  exact herror

/-- A stage that changes nothing in one body changes nothing in one that agrees at its attribute. -/
theorem ActsAt.fix {key : String} {stage : Body → Outcome} (h : ActsAt key stage) {b b' : Body}
    (hb : stage b = done b) (hagree : b'.get? key = b.get? key) : stage b' = done b' := by
  obtain ⟨f, hf, hkey⟩ := h.transport hb hagree
  have heq : f = b' := by
    ext k
    by_cases hk : k = key
    · rw [hk, hkey, hagree]
    · rw [← h.frame b' k hk, hf]
      rfl
  rw [hf, heq]

/-- The stages of some attributes succeed one after the other and lead from one body to another. -/
inductive InTurn (stage : String → Spec → Body → Outcome) :
    List (String × Spec) → Body → Body → Prop
  | nil (b : Body) : InTurn stage [] b b
  | cons {name : String} {spec : Spec} {rest : List (String × Spec)} {b b' f : Body}
      (first : stage name spec b = done b') (later : InTurn stage rest b' f) :
      InTurn stage ((name, spec) :: rest) b f

/-- Stages that act at different attributes do together what each of them does alone. -/
theorem inTurn_iff {stage : String → Spec → Body → Outcome}
    (hstage : ∀ name spec, ActsAt name (stage name spec)) {es : List (String × Spec)}
    (hdistinct : es.Pairwise fun a b => a.1 ≠ b.1) {b f : Body} :
    InTurn stage es b f ↔
      (∀ name spec, (name, spec) ∈ es →
        ∃ b', stage name spec b = done b' ∧ f.get? name = b'.get? name) ∧
      ∀ k, (∀ e ∈ es, e.1 ≠ k) → f.get? k = b.get? k := by
  induction es generalizing b with
  | nil =>
    constructor
    · rintro ⟨⟩
      simp
    · rintro ⟨-, hframe⟩
      obtain rfl : f = b := Dict.ext fun k => hframe k (by simp)
      exact InTurn.nil f
  | cons e es ih =>
    obtain ⟨name, spec⟩ := e
    obtain ⟨hne, hrest⟩ := List.pairwise_cons.1 hdistinct
    constructor
    · rintro (_ | ⟨first, later⟩)
      rename_i b₁
      obtain ⟨hlater, hframe⟩ := (ih hrest).1 later
      -- The later stages find their attributes as they were before the first stage.
      have hfirst : ∀ k, k ≠ name → b₁.get? k = b.get? k := by
        intro k hk
        rw [← (hstage name spec).frame b k hk, first]
        rfl
      constructor
      · intro n s hmem
        rcases List.mem_cons.1 hmem with he | hmem
        · obtain ⟨rfl, rfl⟩ := Prod.mk.inj he
          exact ⟨b₁, first, hframe n fun e he heq => hne e he heq.symm⟩
        · have hn : n ≠ name := fun heq => hne _ hmem heq.symm
          obtain ⟨b₂, hb₂, hget⟩ := hlater n s hmem
          obtain ⟨b₃, hb₃, hsame⟩ := (hstage n s).transport hb₂ (hfirst n hn).symm
          exact ⟨b₃, hb₃, hget.trans hsame.symm⟩
      · intro k hk
        rw [hframe k fun e he => hk e (by simp [he])]
        exact hfirst k fun heq => hk (name, spec) (by simp) heq.symm
    · rintro ⟨heach, hframe⟩
      obtain ⟨b₁, first, hname⟩ := heach name spec (by simp)
      have hfirst : ∀ k, k ≠ name → b₁.get? k = b.get? k := by
        intro k hk
        rw [← (hstage name spec).frame b k hk, first]
        rfl
      -- What is left to do leads from the result of the first stage to the same body.
      refine InTurn.cons first ((ih hrest).2 ⟨?_, ?_⟩)
      · intro n s hmem
        have hn : n ≠ name := fun heq => hne _ hmem heq.symm
        obtain ⟨b₂, hb₂, hget⟩ := heach n s (by simp [hmem])
        obtain ⟨b₃, hb₃, hsame⟩ := (hstage n s).transport hb₂ (hfirst n hn)
        exact ⟨b₃, hb₃, hget.trans hsame.symm⟩
      · intro k hk
        by_cases hkname : k = name
        · rw [hkname, hname]
        · rw [hfirst k hkname]
          apply hframe
          intro e he
          rcases List.mem_cons.1 he with rfl | he
          · exact fun heq => hkname heq.symm
          · exact hk e he

end Outcome

/-! ## States of attributes -/

theorem Dict.insert_of_get? {α : Type} {d : Dict α} {key : String} {value : α}
    (h : d.get? key = some value) : d.insert key value = d := by
  ext k
  rw [Dict.get?_insert]
  split
  case isTrue hk => rw [hk, h]
  case isFalse => rfl

namespace Body

theorem slot_congr {b b' : Body} {key : String} (h : b.get? key = b'.get? key) :
    b.slot key = b'.slot key := by
  unfold slot
  rw [h]

theorem isSupplied_congr {b b' : Body} {key : String} (h : b.get? key = b'.get? key) :
    b.isSupplied key = b'.isSupplied key := by
  unfold isSupplied
  rw [slot_congr h]

theorem toJson?_set_self (b : Body) (key : String) (v : Json) :
    ((b.set key v).slot key).toJson? = some v := by
  rw [slot_set, if_pos rfl, Slot.toJson?_ofJson]

/-- An attribute with a state other than the unspecified one has an entry. -/
theorem get?_eq_some_slot {b : Body} {key : String} (h : b.isSupplied key = true) :
    b.get? key = some (b.slot key) := by
  unfold isSupplied slot at h
  unfold slot
  cases hget : b.get? key with
  | none => simp [hget, Slot.isSupplied] at h
  | some s => rfl

theorem contains_of_isSupplied {b : Body} {key : String} (h : b.isSupplied key = true) :
    b.contains key = true := by
  rw [Dict.contains_eq, get?_eq_some_slot h]
  rfl

theorem isSupplied_iff_toJson? {b : Body} {key : String} :
    b.isSupplied key = true ↔ ∃ v, (b.slot key).toJson? = some v := by
  unfold isSupplied
  cases b.slot key <;> simp [Slot.isSupplied, Slot.toJson?]

theorem isSupplied_set_self (b : Body) (key : String) (v : Json) :
    (b.set key v).isSupplied key = true :=
  isSupplied_iff_toJson?.2 ⟨v, toJson?_set_self b key v⟩

theorem toJson?_eq_none_iff {b : Body} {key : String} :
    (b.slot key).toJson? = none ↔ b.isSupplied key = false := by
  unfold isSupplied
  cases b.slot key <;> simp [Slot.isSupplied, Slot.toJson?]

/-- Null is kept in its own state throughout the body. -/
def Proper (b : Body) : Prop := ∀ key, (b.slot key).Proper

theorem Proper.insert {b : Body} (h : b.Proper) {s : Slot} (hs : s.Proper) (key : String) :
    Proper (b.insert key s) := by
  intro k
  rw [slot_insert]
  split
  · exact hs
  · exact h k

/-- The state of an attribute in the body of an object stems from a member. -/
theorem slot_ofObject (members : List (String × Json)) (key : String) :
    (ofObject members).slot key = .unspecified ∨
      ∃ v, (key, v) ∈ members ∧ (ofObject members).slot key = .ofJson v := by
  cases hget : (ofObject members).get? key with
  | none => exact Or.inl (by simp [slot, hget])
  | some s =>
    obtain ⟨⟨k, v⟩, hmem, he⟩ := List.mem_map.1 (Dict.mem_of_get?_ofPairs hget)
    obtain ⟨rfl, rfl⟩ := Prod.mk.inj he
    exact Or.inr ⟨v, hmem, by simp [slot, hget]⟩

theorem proper_ofObject (members : List (String × Json)) : (ofObject members).Proper := by
  intro key
  rcases slot_ofObject members key with hnone | ⟨v, -, hv⟩
  · simp [hnone, Slot.Proper]
  · rw [hv]
    exact Slot.proper_ofJson v

/-- Setting the value that an attribute has changes nothing. -/
theorem set_eq_self {b : Body} {key : String} {v : Json} (h : (b.slot key).Proper)
    (hv : (b.slot key).toJson? = some v) : b.set key v = b := by
  apply Dict.insert_of_get?
  rw [get?_eq_some_slot (isSupplied_iff_toJson?.2 ⟨v, hv⟩), Slot.ofJson_of_toJson? h hv]

theorem get?_fillDefault_of_ne (b : Body) (spec : Spec) {key k : String} (h : k ≠ key) :
    (b.fillDefault key spec).get? k = b.get? k := by
  unfold fillDefault
  split
  · rw [Dict.get?_insert, if_neg h]
  · rfl

theorem get?_fillDefault_congr (spec : Spec) {b b' : Body} {key : String}
    (h : b.get? key = b'.get? key) :
    (b.fillDefault key spec).get? key = (b'.fillDefault key spec).get? key := by
  unfold fillDefault
  rw [slot_congr h]
  split
  · simp
  · exact h

end Body

namespace Request

theorem get?_populateNested_of_ne (spec : Spec) (b : Body) {name k : String} (h : k ≠ name) :
    (populateNested name spec b).get? k = b.get? k := by
  unfold populateNested
  split
  · split
    · rw [Dict.get?_insert, if_neg h]
    · rfl
  · rfl

theorem get?_populateNested_congr (spec : Spec) {b b' : Body} {name : String}
    (h : b.get? name = b'.get? name) :
    (populateNested name spec b).get? name = (populateNested name spec b').get? name := by
  unfold populateNested
  rw [Body.slot_congr h]
  split
  · split
    · simp
    · exact h
  · exact h

/-! ## One attribute on creation -/

theorem fillAttribute_body (name : String) (spec : Spec) (b : Body) :
    (fillAttribute name spec b).body =
      if spec.default?.isNone && !(populateNested name spec b).isSupplied name then
        populateNested name spec b
      else (populateNested name spec b).fillDefault name spec := by
  unfold fillAttribute
  dsimp only
  split <;> rfl

theorem fillAttribute_error? (name : String) (spec : Spec) (b : Body) :
    (fillAttribute name spec b).error? =
      if spec.default?.isNone && !(populateNested name spec b).isSupplied name then
        some (.missing name)
      else none := by
  unfold fillAttribute
  dsimp only
  split <;> rfl

theorem actsAt_fillAttribute (name : String) (spec : Spec) :
    Outcome.ActsAt name (fillAttribute name spec) where
  frame b k h := by
    rw [fillAttribute_body]
    split
    · exact get?_populateNested_of_ne spec b h
    · rw [Body.get?_fillDefault_of_ne _ spec h]
      exact get?_populateNested_of_ne spec b h
  body h := by
    have hpopulate := get?_populateNested_congr spec h
    rw [fillAttribute_body, fillAttribute_body, Body.isSupplied_congr hpopulate]
    split
    · exact hpopulate
    · exact Body.get?_fillDefault_congr spec hpopulate
  error h := by
    rw [fillAttribute_error?, fillAttribute_error?,
      Body.isSupplied_congr (get?_populateNested_congr spec h)]

theorem actsAt_createAttribute (checkAllowPost : Bool) (name : String) (spec : Spec) :
    Outcome.ActsAt name (createAttribute checkAllowPost name spec) where
  frame b k h := by
    unfold createAttribute
    split
    · exact (actsAt_fillAttribute name spec).frame b k h
    · split <;> rfl
  body h := by
    unfold createAttribute
    rw [Body.isSupplied_congr h]
    split
    · exact (actsAt_fillAttribute name spec).body h
    · split <;> exact h
  error h := by
    unfold createAttribute
    rw [Body.isSupplied_congr h]
    split
    · exact (actsAt_fillAttribute name spec).error h
    · split <;> rfl

/-- When an attribute that may be given on creation is treated with success, and to what effect. -/
theorem createAttribute_of_allowPost {checkAllowPost : Bool} {name : String} {spec : Spec}
    (hpost : spec.allowPost = true) {b f : Body} :
    createAttribute checkAllowPost name spec b = .done f ↔
      (spec.default? = none → (populateNested name spec b).isSupplied name = true) ∧
        (populateNested name spec b).fillDefault name spec = f := by
  rw [createAttribute, if_pos hpost, Outcome.eq_done_iff, fillAttribute_error?, fillAttribute_body]
  cases hdefault : spec.default? <;>
    cases hsupplied : (populateNested name spec b).isSupplied name <;> simp

/-- When an attribute that may not be given on creation is treated with success. -/
theorem createAttribute_of_not_allowPost {checkAllowPost : Bool} {name : String} {spec : Spec}
    (hpost : spec.allowPost = false) {b f : Body} :
    createAttribute checkAllowPost name spec b = .done f ↔
      (checkAllowPost = true → b.isSupplied name = false) ∧ b = f := by
  have hnot : ¬ spec.allowPost = true := by simp [hpost]
  rw [createAttribute, if_neg hnot]
  cases checkAllowPost <;> cases hsupplied : b.isSupplied name <;>
    simp [Outcome.fail, Outcome.done]

/-! ## Conversion of one attribute -/

/-- When the value of an attribute is converted and accepted, and to what effect. -/
theorem convertAttribute_eq_done_iff {name : String} {spec : Spec} {b f : Body} :
    convertAttribute name spec b = .done f ↔
      (b.isSupplied name = false ∧ b = f) ∨
        ∃ raw v, (b.slot name).toJson? = some raw ∧ spec.convert raw = .ok v ∧
          spec.check v = Verdict.pass ∧ b.set name v = f := by
  unfold convertAttribute
  cases hraw : (b.slot name).toJson? with
  | none => simp [Body.toJson?_eq_none_iff.1 hraw, Outcome.done_inj]
  | some raw =>
    have hsupplied : b.isSupplied name = true := Body.isSupplied_iff_toJson?.2 ⟨raw, hraw⟩
    cases hv : spec.convert raw with
    | error e => simp [hsupplied, hv, Outcome.fail, Outcome.done]
    | ok v =>
      cases hcheck : spec.check v with
      | error reason => simp [hsupplied, hv, hcheck, Outcome.fail, Outcome.done, Verdict.pass]
      | ok u => simp [hsupplied, hv, hcheck, Outcome.done_inj, Verdict.pass]

theorem actsAt_convertAttribute (name : String) (spec : Spec) :
    Outcome.ActsAt name (convertAttribute name spec) where
  frame b k h := by
    unfold convertAttribute
    split
    · rfl
    · split
      · rfl
      · split
        · exact (Dict.get?_insert b name k _).trans (if_neg h)
        · exact (Dict.get?_insert b name k _).trans (if_neg h)
  body {b b'} h := by
    unfold convertAttribute
    rw [Body.slot_congr h]
    split
    · exact h
    · split
      · exact h
      · split
        · exact (Dict.get?_insert_self b name _).trans (Dict.get?_insert_self b' name _).symm
        · exact (Dict.get?_insert_self b name _).trans (Dict.get?_insert_self b' name _).symm
  error h := by
    unfold convertAttribute
    rw [Body.slot_congr h]
    split
    · rfl
    · split
      · rfl
      · split <;> rfl

/-! ## All attributes of a schema -/

theorem fillAll_eq_done_iff {checkAllowPost : Bool} {es : List (String × Spec)} {b f : Body} :
    fillAll checkAllowPost es b = .done f ↔
      Outcome.InTurn (createAttribute checkAllowPost) es b f := by
  induction es generalizing b with
  | nil =>
    rw [fillAll, Outcome.done_inj]
    constructor
    · rintro rfl
      exact .nil b
    · rintro ⟨⟩
      rfl
  | cons e es ih =>
    rw [fillAll, Outcome.andAlso_eq_done_iff]
    constructor
    · rintro ⟨b', hfirst, hlater⟩
      exact .cons hfirst (ih.1 hlater)
    · rintro (_ | ⟨hfirst, hlater⟩)
      exact ⟨_, hfirst, ih.2 hlater⟩

theorem convertAll_eq_done_iff {es : List (String × Spec)} {b f : Body} :
    convertAll es b = .done f ↔ Outcome.InTurn convertAttribute es b f := by
  induction es generalizing b with
  | nil =>
    rw [convertAll, Outcome.done_inj]
    constructor
    · rintro rfl
      exact .nil b
    · rintro ⟨⟩
      rfl
  | cons e es ih =>
    rw [convertAll, Outcome.andThen_eq_done_iff]
    constructor
    · rintro ⟨b', hfirst, hlater⟩
      exact .cons hfirst (ih.1 hlater)
    · rintro (_ | ⟨hfirst, hlater⟩)
      exact ⟨_, hfirst, ih.2 hlater⟩

/-- From one body to another, each declared attribute is treated by its stage with success, and the
others are left alone. -/
structure SlotWise (schema : Schema) (stage : String → Spec → Body → Outcome) (b f : Body) :
    Prop where
  declared : ∀ {name spec}, schema.spec? name = some spec →
    ∃ b', stage name spec b = .done b' ∧ f.get? name = b'.get? name
  undeclared : ∀ {name}, schema.spec? name = none → f.get? name = b.get? name

/-- Two stages after each other treat each declared attribute one after the other. -/
theorem SlotWise.exists_of_then {schema : Schema} {first second : String → Spec → Body → Outcome}
    (hsecond : ∀ name spec, Outcome.ActsAt name (second name spec)) {b c f : Body}
    (hbc : SlotWise schema first b c) (hcf : SlotWise schema second c f) {name : String}
    {spec : Spec} (hspec : schema.spec? name = some spec) :
    ∃ c' f', first name spec b = .done c' ∧ c.get? name = c'.get? name ∧
      second name spec c' = .done f' ∧ f.get? name = f'.get? name := by
  obtain ⟨c', hc', hc⟩ := hbc.declared hspec
  obtain ⟨f₁, hf₁, hf⟩ := hcf.declared hspec
  obtain ⟨f', hf', hsame⟩ := (hsecond name spec).transport hf₁ hc.symm
  exact ⟨c', f', hc', hc, hf', hf.trans hsame.symm⟩

/-- A body that each stage leaves as it is is left as it is. -/
theorem slotWise_self {schema : Schema} {stage : String → Spec → Body → Outcome} {b : Body}
    (h : ∀ name spec, schema.spec? name = some spec → stage name spec b = .done b) :
    SlotWise schema stage b b := by
  constructor
  · intro name spec hspec
    exact ⟨b, h name spec hspec, rfl⟩
  · intro name _
    rfl

theorem inTurn_iff_slotWise {schema : Schema} {stage : String → Spec → Body → Outcome}
    (hstage : ∀ name spec, Outcome.ActsAt name (stage name spec)) {b f : Body} :
    Outcome.InTurn stage schema.attributes.entries b f ↔ SlotWise schema stage b f := by
  rw [Outcome.inTurn_iff hstage schema.attributes.ascending.pairwise_ne]
  constructor
  · rintro ⟨heach, hframe⟩
    refine ⟨fun {name spec} h => heach name spec (Dict.mem_entries_iff.2 h), fun {name} h => ?_⟩
    exact hframe name (Dict.get?_eq_none_iff.1 h)
  · intro h
    refine ⟨fun name spec hmem => h.declared (Dict.mem_entries_iff.1 hmem), fun k hk => ?_⟩
    exact h.undeclared (Dict.get?_eq_none_iff.2 hk)

theorem fillDefaults_eq_done_iff {schema : Schema} {checkAllowPost : Bool} {b f : Body} :
    fillDefaults schema checkAllowPost b = .done f ↔
      SlotWise schema (createAttribute checkAllowPost) b f := by
  rw [fillDefaults, fillAll_eq_done_iff]
  exact inTurn_iff_slotWise (actsAt_createAttribute checkAllowPost)

theorem convertValues_eq_done_iff {schema : Schema} {b f : Body} :
    convertValues schema b = .done f ↔ SlotWise schema convertAttribute b f := by
  rw [convertValues, convertAll_eq_done_iff]
  exact inTurn_iff_slotWise actsAt_convertAttribute

theorem verifyAttributes_eq_done_iff {schema : Schema} {b f : Body} :
    verifyAttributes schema b = .done f ↔
      (∀ key ∈ b.keys, schema.declares key = true) ∧ b = f := by
  unfold verifyAttributes
  split
  case h_1 hnil =>
    have hall : ∀ key ∈ b.keys, schema.declares key = true := by
      simpa [List.filter_eq_nil_iff] using hnil
    rw [Outcome.done_inj]
    exact ⟨fun h => ⟨hall, h⟩, fun h => h.2⟩
  case h_2 hne =>
    have hnot : ¬ ∀ key ∈ b.keys, schema.declares key = true := by
      intro hall
      apply hne
      simpa [List.filter_eq_nil_iff] using hall
    simp [Outcome.fail, Outcome.done, hnot]

theorem checkUpdatable_eq_done_iff {schema : Schema} {b f : Body} :
    checkUpdatable schema b = .done f ↔
      (∀ name spec, schema.spec? name = some spec → b.isSupplied name = true →
        spec.allowPut = true) ∧ b = f := by
  unfold checkUpdatable
  split
  case h_1 name spec hfind =>
    have hmem : schema.spec? name = some spec :=
      Dict.mem_entries_iff.1 (List.mem_of_find?_eq_some hfind)
    have hbad : spec.allowPut = false ∧ b.isSupplied name = true := by
      simpa using List.find?_some hfind
    have hnot : ¬ ∀ name spec, schema.spec? name = some spec → b.isSupplied name = true →
        spec.allowPut = true := by
      intro hall
      have := hall name spec hmem hbad.2
      simp [hbad.1] at this
    simp [Outcome.fail, Outcome.done, hnot]
  case h_2 hfind =>
    rw [Outcome.done_inj]
    constructor
    · intro h
      refine ⟨fun name spec hspec hsupplied => ?_, h⟩
      have hno := List.find?_eq_none.1 hfind (name, spec) (Dict.mem_entries_iff.2 hspec)
      simpa [hsupplied] using hno
    · exact fun h => h.2

/-! ## The whole preparation -/

/-- The last check of a preparation, which a configuration may leave out. -/
theorem verify_eq_done_iff {schema : Schema} {config : Config} {b f : Body} :
    (if config.verifyAttributes then verifyAttributes schema b else .done b) = .done f ↔
      (config.verifyAttributes = true → ∀ key ∈ b.keys, schema.declares key = true) ∧ b = f := by
  split
  case isTrue h => simp [verifyAttributes_eq_done_iff, h]
  case isFalse h => simp [Outcome.done_inj, h]

theorem prepare_create_eq_done_iff {schema : Schema} {config : Config} {caller : Caller}
    {b f : Body} :
    prepare schema config caller .create b = .done f ↔
      ∃ settled filled, Ownership.settle schema caller true b = .done settled ∧
        fillDefaults schema config.checkAllowPost settled = .done filled ∧
        convertValues schema filled = .done f ∧
        (config.verifyAttributes = true → ∀ key ∈ f.keys, schema.declares key = true) := by
  simp only [prepare, Outcome.andThen_eq_done_iff, verify_eq_done_iff, decide_true]
  constructor
  · rintro ⟨filled, ⟨settled, hsettle, hfill⟩, f', hconvert, hverify, rfl⟩
    exact ⟨settled, filled, hsettle, hfill, hconvert, hverify⟩
  · rintro ⟨settled, filled, hsettle, hfill, hconvert, hverify⟩
    exact ⟨filled, ⟨settled, hsettle, hfill⟩, f, hconvert, hverify, rfl⟩

theorem prepare_update_eq_done_iff {schema : Schema} {config : Config} {caller : Caller}
    {b f : Body} :
    prepare schema config caller .update b = .done f ↔
      ∃ settled, Ownership.settle schema caller false b = .done settled ∧
        checkUpdatable schema settled = .done settled ∧
        convertValues schema settled = .done f ∧
        (config.verifyAttributes = true → ∀ key ∈ f.keys, schema.declares key = true) := by
  have hupdate : decide (Action.update = Action.create) = false := by decide
  simp only [prepare, Outcome.andThen_eq_done_iff, verify_eq_done_iff, hupdate]
  constructor
  · rintro ⟨filled, ⟨settled, hsettle, hcheck⟩, f', hconvert, hverify, rfl⟩
    obtain ⟨-, rfl⟩ := checkUpdatable_eq_done_iff.1 hcheck
    exact ⟨settled, hsettle, hcheck, hconvert, hverify⟩
  · rintro ⟨settled, hsettle, hcheck, hconvert, hverify⟩
    exact ⟨settled, ⟨settled, hsettle, hcheck⟩, f, hconvert, hverify, rfl⟩

end Request

end AttributeSchema
