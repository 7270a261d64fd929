import AttributeSchema.Proofs.Request.Attribute

/-!
# Filling in defaults, whatever fails

Filling in the defaults of a body treats all attributes even if some of them fail, so it makes of each
attribute what it would make of it alone, and it reports the first failure in order. An explicit null
that a default overrides gets this default as it stands, while an attribute that is absent may have
its members filled in instead. Main statements: `Request.get?_fillDefaults`,
`Request.error?_fillDefaults` and `Request.fillDefaults_null`.
-/

namespace AttributeSchema

/-- Among ascending entries, the first answer is that of the least key which has one. -/
theorem Entries.Ascending.findSome?_eq_some_iff {α β : Type} {es : List (String × α)}
    (h : Ascending es) {f : String × α → Option β} {y : β} :
    es.findSome? f = some y ↔
      ∃ e ∈ es, f e = some y ∧ ∀ e' ∈ es, e'.1 < e.1 → f e' = none := by
  rw [List.findSome?_eq_some_iff]
  constructor
  · rintro ⟨pre, e, post, rfl, he, hpre⟩
    refine ⟨e, by simp, he, fun e' he' hlt => ?_⟩
    obtain ⟨-, hpost, -⟩ := List.pairwise_append.1 h
    rcases List.mem_append.1 he' with hmem | hmem
    · exact hpre e' hmem
    · -- Neither the entry itself nor a later one comes before it.
      rcases List.mem_cons.1 hmem with rfl | hmem
      · exact absurd hlt (String.lt_irrefl _)
      · exact absurd (String.lt_trans hlt ((List.pairwise_cons.1 hpost).1 e' hmem))
          (String.lt_irrefl _)
  · rintro ⟨e, he, hy, hfirst⟩
    obtain ⟨pre, post, rfl⟩ := List.append_of_mem he
    obtain ⟨-, -, hbetween⟩ := List.pairwise_append.1 h
    refine ⟨pre, e, post, rfl, hy, fun e' he' => ?_⟩
    exact hfirst e' (List.mem_append_left _ he') (hbetween e' he' e List.mem_cons_self)

namespace Request

variable {schema : Schema} {checkAllowPost : Bool} {name : String} {spec : Spec} {b b' : Body}

/-! ## Each attribute by itself -/

theorem findSome?_congr {α β : Type} {f g : α → Option β} {l : List α} (h : ∀ x ∈ l, f x = g x) :
    l.findSome? f = l.findSome? g := by
  induction l with
  | nil => rfl
  | cons x l ih =>
    obtain ⟨hx, hl⟩ := List.forall_mem_cons.1 h
    rw [List.findSome?_cons, List.findSome?_cons, hx, ih hl]

section
variable {es : List (String × Spec)}

/-- Stages fail alike on bodies that agree about their attributes. -/
theorem findSome?_error?_congr {stage : String → Spec → Body → Outcome}
    (hstage : ∀ name spec, Outcome.ActsAt name (stage name spec))
    (hagree : ∀ e ∈ es, b.get? e.1 = b'.get? e.1) :
    (es.findSome? fun e => (stage e.1 e.2 b).error?) =
      es.findSome? fun e => (stage e.1 e.2 b').error? :=
  findSome?_congr fun e he => (hstage e.1 e.2).error (hagree e he)

theorem get?_fillAll_of_not_mem (hname : ∀ e ∈ es, e.1 ≠ name) :
    (fillAll checkAllowPost es b).body.get? name = b.get? name := by
  induction es generalizing b with
  | nil => rfl
  | cons e es ih =>
    obtain ⟨he, hes⟩ := List.forall_mem_cons.1 hname
    calc
      (fillAll checkAllowPost es (createAttribute checkAllowPost e.1 e.2 b).body).body.get? name
      _ = (createAttribute checkAllowPost e.1 e.2 b).body.get? name := ih hes
      _ = b.get? name := (actsAt_createAttribute checkAllowPost e.1 e.2).frame b name he.symm

theorem get?_fillAll_of_mem (hdistinct : es.Pairwise fun a b => a.1 ≠ b.1)
    (hmem : (name, spec) ∈ es) :
    (fillAll checkAllowPost es b).body.get? name =
      (createAttribute checkAllowPost name spec b).body.get? name := by
  induction es generalizing b with
  | nil => simp at hmem
  | cons e es ih =>
    obtain ⟨hne, hrest⟩ := List.pairwise_cons.1 hdistinct
    rcases List.mem_cons.1 hmem with rfl | hlater
    · exact get?_fillAll_of_not_mem fun e he heq => hne e he heq.symm
    · -- The attribute comes later, and the first stage leaves it as it is.
      have hagree : (createAttribute checkAllowPost e.1 e.2 b).body.get? name = b.get? name :=
        (actsAt_createAttribute checkAllowPost e.1 e.2).frame b name (hne _ hlater).symm
      exact (ih hrest hlater).trans ((actsAt_createAttribute checkAllowPost name spec).body hagree)

theorem error?_fillAll (hdistinct : es.Pairwise fun a b => a.1 ≠ b.1) :
    (fillAll checkAllowPost es b).error? =
      es.findSome? fun e => (createAttribute checkAllowPost e.1 e.2 b).error? := by
  induction es generalizing b with
  | nil => rfl
  | cons e es ih =>
    obtain ⟨hne, hrest⟩ := List.pairwise_cons.1 hdistinct
    -- The later stages fail as they would on the first body, in which their attributes are the same.
    have hagree : ∀ e' ∈ es,
        (createAttribute checkAllowPost e.1 e.2 b).body.get? e'.1 = b.get? e'.1 := fun e' he' =>
      (actsAt_createAttribute checkAllowPost e.1 e.2).frame b e'.1 (hne e' he').symm
    have hlater := findSome?_error?_congr (actsAt_createAttribute checkAllowPost) hagree
    rw [List.findSome?_cons, fillAll, Outcome.andAlso, ih hrest, hlater]
    cases (createAttribute checkAllowPost e.1 e.2 b).error? <;> rfl

end

/-- What filling in defaults makes of a declared attribute, be there failures or not. -/
theorem get?_fillDefaults (hspec : schema.spec? name = some spec) :
    (fillDefaults schema checkAllowPost b).body.get? name =
      (createAttribute checkAllowPost name spec b).body.get? name :=
  get?_fillAll_of_mem schema.attributes.ascending.pairwise_ne (Dict.mem_entries_iff.2 hspec)

theorem get?_fillDefaults_of_undeclared (hspec : schema.spec? name = none) :
    (fillDefaults schema checkAllowPost b).body.get? name = b.get? name :=
  get?_fillAll_of_not_mem (Dict.get?_eq_none_iff.1 hspec)

/-- The failure that is reported is the first one in the order of the attributes. -/
theorem error?_fillDefaults :
    (fillDefaults schema checkAllowPost b).error? = schema.attributes.entries.findSome? fun e =>
      (createAttribute checkAllowPost e.1 e.2 b).error? :=
  error?_fillAll schema.attributes.ascending.pairwise_ne

/-- What filling in defaults makes of an attribute depends on this attribute alone. -/
theorem get?_fillDefaults_congr (h : b.get? name = b'.get? name) :
    (fillDefaults schema checkAllowPost b).body.get? name =
      (fillDefaults schema checkAllowPost b').body.get? name := by
  cases hspec : schema.spec? name with
  | none => rw [get?_fillDefaults_of_undeclared hspec, get?_fillDefaults_of_undeclared hspec, h]
  | some spec =>
    rw [get?_fillDefaults hspec, get?_fillDefaults hspec]
    exact (actsAt_createAttribute checkAllowPost name spec).body h

/-! ## Null under a default that overrides it -/

/-- An attribute with a default is not found missing. -/
theorem error?_createAttribute_of_default {d : Default} (hpost : spec.allowPost = true)
    (hdefault : spec.default? = some d) :
    (createAttribute checkAllowPost name spec b).error? = none := by
  rw [createAttribute, if_pos hpost, fillAttribute_error?, hdefault]
  rfl

theorem body_createAttribute_of_default {d : Default} (hpost : spec.allowPost = true)
    (hdefault : spec.default? = some d) :
    (createAttribute checkAllowPost name spec b).body =
      (populateNested name spec b).fillDefault name spec := by
  rw [createAttribute, if_pos hpost, fillAttribute_body, hdefault]
  rfl

/-- No state of an attribute with a default makes filling in defaults fail. -/
theorem error?_fillDefaults_insert {d : Default} (hspec : schema.spec? name = some spec)
    (hpost : spec.allowPost = true) (hdefault : spec.default? = some d) (s : Slot) :
    (fillDefaults schema checkAllowPost (b.insert name s)).error? =
      (fillDefaults schema checkAllowPost b).error? := by
  rw [error?_fillDefaults, error?_fillDefaults]
  refine findSome?_congr ?_
  rintro ⟨k, spec'⟩ hmem
  by_cases hk : k = name
  · subst hk
    obtain rfl : spec = spec' := Option.some.inj (hspec.symm.trans (Dict.mem_entries_iff.1 hmem))
    rw [error?_createAttribute_of_default hpost hdefault,
      error?_createAttribute_of_default hpost hdefault]
  · refine (actsAt_createAttribute checkAllowPost k spec').error ?_
    rw [Dict.get?_insert, if_neg hk]

/-- Where a default overrides null, null gives way to the default as it stands. -/
theorem get?_createAttribute_of_null {d : Default} (hpost : spec.allowPost = true)
    (hoverrides : spec.defaultOverridesNull = true) (hdefault : spec.default? = some d)
    (hnull : b.slot name = .null) :
    (createAttribute checkAllowPost name spec b).body.get? name = some d.slot := by
  have hkept : populateNested name spec b = b := by
    have hpopulate : spec.populate .null = .null :=
      SpecOf.populate_eq_self (v := .null) rfl (by simp)
    rw [populateNested, hnull, hpopulate]
    split <;> rfl
  have hover : spec.defaultOver? (b.slot name) = some d.slot := by
    rw [SpecOf.defaultOver?, hdefault, hnull]
    simp [hoverrides]
  rw [body_createAttribute_of_default hpost hdefault, hkept, Body.fillDefault_of_some hover,
    Dict.get?_insert_self]

/-- The state that an absent attribute is put into: its members are filled in, if it is structured
and asks for that, and else it gets the default. -/
def absentState (spec : Spec) (d : Default) : Slot :=
  if spec.populateMembers && spec.isStructured then spec.populate .unspecified else d.slot

/-- An absent attribute that is structured, and asks for nested defaults, gets nothing but these. -/
theorem createAttribute_of_populates {ms : List (String × Json)} (hpost : spec.allowPost = true)
    (hpopulates : (spec.populateMembers && spec.isStructured) = true)
    (hms : spec.populate .unspecified = .value (.object ms))
    (habsent : b.slot name = .unspecified) :
    createAttribute checkAllowPost name spec b = .done (b.insert name (.value (.object ms))) := by
  have hnested : populateNested name spec b = b.insert name (.value (.object ms)) := by
    rw [populateNested, if_pos hpopulates, habsent, hms]
    rfl
  have hslot : Body.slot (b.insert name (.value (.object ms))) name = .value (.object ms) :=
    Body.slot_insert_self b name _
  rw [createAttribute_of_allowPost hpost, hnested]
  constructor
  · intro _
    rw [Body.isSupplied, hslot]
    rfl
  · -- The object that was filled in leaves nothing for the default to do.
    exact Body.fillDefault_of_none
      (SpecOf.defaultOver?_eq_none (v := .object ms) (by rw [hslot]; rfl) (by simp))

theorem get?_createAttribute_of_absent {d : Default} (hpost : spec.allowPost = true)
    (hdefault : spec.default? = some d) (habsent : b.slot name = .unspecified) :
    (createAttribute checkAllowPost name spec b).body.get? name = some (absentState spec d) := by
  rw [absentState]
  split
  case isTrue hpopulates =>
    obtain ⟨ms, hms⟩ : ∃ ms, spec.populate .unspecified = .value (.object ms) := by
      rw [SpecOf.populate, if_pos (Bool.and_eq_true_iff.1 hpopulates).1]
      exact ⟨_, rfl⟩
    rw [createAttribute_of_populates hpost hpopulates hms habsent, hms]
    exact Dict.get?_insert_self b name _
  case isFalse hplain =>
    have hover : spec.defaultOver? (b.slot name) = some d.slot := by
      rw [SpecOf.defaultOver?, hdefault, habsent]
    rw [body_createAttribute_of_default hpost hdefault, populateNested, if_neg hplain,
      Body.fillDefault_of_some hover, Dict.get?_insert_self]

/-- **Null where the default overrides it.** Filling in defaults treats an explicit null like absence
but for one thing: the attribute gets its default as it stands, although it might have its members
filled in if it were absent. So the two come to the same exactly if the attribute does not ask for
nested defaults, is not structured, or has as its default what filling in its members makes of it. -/
theorem fillDefaults_null (schema : Schema) (checkAllowPost : Bool) (name : String) (spec : Spec)
    (d : Default) (b : Body) (hspec : schema.spec? name = some spec)
    (hpost : spec.allowPost = true) (hoverrides : spec.defaultOverridesNull = true)
    (hdefault : spec.default? = some d) (habsent : b.slot name = .unspecified) :
    (fillDefaults schema checkAllowPost b).body.get? name = some (absentState spec d) ∧
      fillDefaults schema checkAllowPost (b.insert name .null) =
        ⟨(fillDefaults schema checkAllowPost b).body.insert name d.slot,
          (fillDefaults schema checkAllowPost b).error?⟩ ∧
      (fillDefaults schema checkAllowPost (b.insert name .null) =
          fillDefaults schema checkAllowPost b ↔
        (spec.populateMembers = true → spec.isStructured = true →
          spec.populate .unspecified = d.slot)) := by
  have hfilled : (fillDefaults schema checkAllowPost b).body.get? name =
      some (absentState spec d) := by
    rw [get?_fillDefaults hspec]
    exact get?_createAttribute_of_absent hpost hdefault habsent
  have hbody : (fillDefaults schema checkAllowPost (b.insert name .null)).body =
      (fillDefaults schema checkAllowPost b).body.insert name d.slot := by
    ext k : 1
    rw [Dict.get?_insert]
    split
    case isTrue hk =>
      rw [hk, get?_fillDefaults hspec]
      exact get?_createAttribute_of_null hpost hoverrides hdefault (Body.slot_insert_self b name _)
    case isFalse hk =>
      -- Nothing else depends on the attribute that was set to null.
      exact get?_fillDefaults_congr ((Dict.get?_insert b name k _).trans (if_neg hk))
  have hnull : fillDefaults schema checkAllowPost (b.insert name .null) =
      ⟨(fillDefaults schema checkAllowPost b).body.insert name d.slot,
        (fillDefaults schema checkAllowPost b).error?⟩ := by
    rw [← hbody, ← error?_fillDefaults_insert hspec hpost hdefault .null]
  refine ⟨hfilled, hnull, ?_⟩
  calc
    fillDefaults schema checkAllowPost (b.insert name .null) = fillDefaults schema checkAllowPost b
    _ ↔ (fillDefaults schema checkAllowPost b).body.insert name d.slot =
        (fillDefaults schema checkAllowPost b).body := by
      rw [hnull]
      exact ⟨congrArg Outcome.body, fun h => by rw [h]⟩
    _ ↔ absentState spec d = d.slot := by
      constructor
      · intro h
        rw [← h, Dict.get?_insert_self] at hfilled
        exact (Option.some.inj hfilled).symm
      · intro h
        exact Dict.insert_of_get? (h ▸ hfilled)
    _ ↔ _ := by
      unfold absentState
      cases spec.populateMembers <;> cases spec.isStructured <;> simp

/-- Options with a default of their own and a network to fill in. -/
def portOptions : Spec where
  allowPost := true
  default? := some (.value (.object []))
  defaultOverridesNull := true
  populateMembers := true
  rules := [.structured (.builtin .object) [("vlan", { default? := some (.value (.ofInt 1)) })]]

def portSchema : Schema := ⟨"ports", Dict.ofPairs [("options", portOptions)]⟩

theorem spec?_portSchema : portSchema.spec? "options" = some portOptions := rfl

theorem default?_portOptions : portOptions.default? = some (.value (.object [])) := rfl

theorem absentState_portOptions :
    absentState portOptions (.value (.object [])) = .value (.object [("vlan", .ofInt 1)]) := by
  cbv

/-- The network is filled in for a port without options, and not for one whose options are null. -/
theorem fillDefaults_null_port :
    (fillDefaults portSchema true ∅).body.get? "options" =
        some (.value (.object [("vlan", .ofInt 1)])) ∧
      fillDefaults portSchema true (Dict.insert ∅ "options" .null) =
        ⟨(fillDefaults portSchema true ∅).body.insert "options" (.value (.object [])),
          (fillDefaults portSchema true ∅).error?⟩ := by
  have hnull := fillDefaults_null portSchema true "options" portOptions (.value (.object [])) ∅
    spec?_portSchema rfl rfl default?_portOptions rfl
  rw [absentState_portOptions] at hnull
  exact ⟨hnull.1, hnull.2.1⟩

/-- An explicit null that the default overrides is not always the same as absence. -/
theorem fillDefaults_null_ne :
    ¬ ∀ (schema : Schema) (checkAllowPost : Bool) (name : String) (spec : Spec) (d : Default)
        (b : Body), schema.spec? name = some spec → spec.allowPost = true →
        spec.defaultOverridesNull = true → spec.default? = some d → b.get? name = none →
        fillDefaults schema checkAllowPost (b.insert name .null) =
          fillDefaults schema checkAllowPost b := by
  intro hsame
  have heq := hsame portSchema true "options" portOptions (.value (.object [])) ∅
    spec?_portSchema rfl rfl default?_portOptions rfl
  have hnull : (fillDefaults portSchema true (Dict.insert ∅ "options" .null)).body.get? "options" =
      some (.value (.object [])) := by
    rw [get?_fillDefaults spec?_portSchema]
    exact get?_createAttribute_of_null rfl rfl default?_portOptions
      (Body.slot_insert_self ∅ "options" _)
  have habsent : (fillDefaults portSchema true ∅).body.get? "options" =
      some (.value (.object [("vlan", .ofInt 1)])) := by
    rw [get?_fillDefaults spec?_portSchema, ← absentState_portOptions]
    exact get?_createAttribute_of_absent rfl default?_portOptions rfl
  rw [heq, habsent] at hnull
  simp at hnull

end Request

end AttributeSchema
