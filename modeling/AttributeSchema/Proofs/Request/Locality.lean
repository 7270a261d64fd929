import AttributeSchema.Proofs.Request.Congruence

/-!
# Attributes do not leak into one another

Apart from the owner, each attribute is prepared from its own state alone: no value, no presence and
no failure of another attribute shows in it. An attribute that is neither declared nor about the owner
is carried along unread, unless the check for such attributes finds it. Main statement:
`Request.prepare_local`.
-/

namespace AttributeSchema

/-! ## Writing to different keys -/

namespace Dict

variable {α : Type} {j k : String}

theorem insert_comm (d : Dict α) (h : j ≠ k) (x y : α) :
    (d.insert j x).insert k y = (d.insert k y).insert j x := by
  ext l
  simp only [get?_insert]
  grind

theorem erase_insert_of_ne (d : Dict α) (h : j ≠ k) (x : α) :
    (d.insert j x).erase k = (d.erase k).insert j x := by
  ext l
  simp only [get?_insert, get?_erase]
  grind

end Dict

/-! ## What bodies may have in common -/

namespace Body

/-- Bodies stay in the same state at an attribute when the same is done to both there. -/
theorem congruence_slot (name : String) :
    Congruence (· = name) fun b b' => b.slot name = b'.slot name where
  slot := by
    rintro b b' key h rfl
    exact h
  insert := by
    rintro b b' key - rfl s
    rw [slot_insert_self, slot_insert_self]
  erase := by
    rintro b b' key - rfl
    rw [slot_erase, slot_erase, if_pos rfl, if_pos rfl]

/-- Bodies also keep saying the same about an attribute, be it mentioned or not. -/
theorem congruence_get? (name : String) :
    Congruence (· = name) fun b b' => b.get? name = b'.get? name where
  slot := by
    rintro b b' key h rfl
    exact slot_congr h
  insert := by
    rintro b b' key - rfl s
    rw [Dict.get?_insert_self, Dict.get?_insert_self]
  erase := by
    rintro b b' key - rfl
    rw [Dict.get?_erase, Dict.get?_erase, if_pos rfl, if_pos rfl]

/-- What was set at an attribute that nobody watches stays what sets the two bodies apart. -/
theorem congruence_insert {watched : String → Prop} {name : String} (hname : ¬ watched name)
    (s : Slot) : Congruence watched fun b b' => b' = b.insert name s where
  slot := by
    rintro b b' key rfl hkey
    have hne : key ≠ name := fun e => hname (e ▸ hkey)
    rw [slot_insert, if_neg hne]
  insert := by
    rintro b b' key rfl hkey t
    have hne : name ≠ key := fun e => hname (e ▸ hkey)
    exact Dict.insert_comm b hne s t
  erase := by
    rintro b b' key rfl hkey
    have hne : name ≠ key := fun e => hname (e ▸ hkey)
    exact Dict.erase_insert_of_ne b hne s

end Body

namespace Request

open Outcome (Alike)

variable {schema : Schema} {config : Config} {caller : Caller} {action : Action} {b b' f f' : Body}
  {name : String}

/-! ## One attribute alone -/

/-- What a preparation does about one attribute, apart from the owner. -/
def treat (schema : Schema) (config : Config) (action : Action) (name : String) (b : Body) :
    Outcome :=
  match schema.spec? name with
  | none => .done b
  | some spec =>
    (match action with
      | .create => createAttribute config.checkAllowPost name spec b
      | .update => .done b).andThen (convertAttribute name spec)

theorem alike_treat {R : Body → Body → Prop} (hR : Body.Congruence (· = name) R) (h : R b b') :
    Alike R (treat schema config action name b) (treat schema config action name b') := by
  unfold treat
  split
  · exact .done h
  · refine Alike.andThen ?_ fun hc => alike_convertAttribute hR rfl hc _
    cases action with
    | create => exact alike_createAttribute hR rfl h _ _
    | update => exact .done h

/-- A preparation makes of an attribute what it would make of it alone. -/
theorem exists_treat_of_prepare (hname : name ∉ Ownership.keys)
    (h : prepare schema config caller action b = .done f) :
    ∃ g, treat schema config action name b = .done g ∧ f.get? name = g.get? name := by
  suffices ∃ settled : Body, settled.get? name = b.get? name ∧
      ∃ g, treat schema config action name settled = .done g ∧ f.get? name = g.get? name by
    obtain ⟨settled, hsettled, g, hg, hfg⟩ := this
    obtain ⟨g', hg', hsame⟩ := (alike_treat (Body.congruence_get? name) hsettled).exists_done hg
    exact ⟨g', hg', hfg.trans hsame⟩
  cases action with
  | create =>
    obtain ⟨settled, filled, hsettle, hfill, hconvert, -⟩ := prepare_create_eq_done_iff.1 h
    refine ⟨settled, Ownership.get?_settle_of_not_mem hsettle hname, ?_⟩
    have hfilled := fillDefaults_eq_done_iff.1 hfill
    have hconverted := convertValues_eq_done_iff.1 hconvert
    unfold treat
    cases hspec : schema.spec? name with
    | none => exact ⟨settled, rfl, (hconverted.undeclared hspec).trans (hfilled.undeclared hspec)⟩
    | some spec =>
      obtain ⟨c, g, hc, -, hg, hsame⟩ :=
        hfilled.exists_of_then actsAt_convertAttribute hconverted hspec
      exact ⟨g, Outcome.andThen_eq_done_iff.2 ⟨c, hc, hg⟩, hsame⟩
  | update =>
    obtain ⟨settled, hsettle, -, hconvert, -⟩ := prepare_update_eq_done_iff.1 h
    refine ⟨settled, Ownership.get?_settle_of_not_mem hsettle hname, ?_⟩
    have hconverted := convertValues_eq_done_iff.1 hconvert
    unfold treat
    cases hspec : schema.spec? name with
    | none => exact ⟨settled, rfl, hconverted.undeclared hspec⟩
    | some spec => exact hconverted.declared hspec

/-- What two bodies have in common at an attribute they still have in common, at that attribute,
once both are prepared. -/
theorem exists_related_of_prepare {R : Body → Body → Prop} (hR : Body.Congruence (· = name) R)
    (hname : name ∉ Ownership.keys) (hb : prepare schema config caller action b = .done f)
    (hb' : prepare schema config caller action b' = .done f') (h : R b b') :
    ∃ g g', R g g' ∧ f.get? name = g.get? name ∧ f'.get? name = g'.get? name := by
  obtain ⟨g, hg, hfg⟩ := exists_treat_of_prepare hname hb
  obtain ⟨g', hg', hfg'⟩ := exists_treat_of_prepare hname hb'
  obtain ⟨g'', hg'', hrelated⟩ := (alike_treat hR h).exists_done hg
  obtain rfl : g'' = g' := Outcome.done_inj.1 (hg''.symm.trans hg')
  exact ⟨g, g'', hrelated, hfg, hfg'⟩

/-! ## The whole preparation -/

/-- **Attributes are prepared independently of one another.** Two bodies in the same state at an
attribute that is not about the owner are in the same state there when both are prepared. If moreover
the attribute is not declared, and such attributes are not looked for, then setting it to any state
before the preparation comes to setting it afterwards, with the same verdict. -/
theorem prepare_local (schema : Schema) (config : Config) (caller : Caller) (action : Action)
    (name : String) (hname : name ∉ Ownership.keys) :
    (∀ b b' f f', prepare schema config caller action b = .done f →
      prepare schema config caller action b' = .done f' →
        (b.slot name = b'.slot name → f.slot name = f'.slot name) ∧
        (b.get? name = b'.get? name → f.get? name = f'.get? name)) ∧
    (config.verifyAttributes = false → schema.declares name = false → ∀ b s,
      prepare schema config caller action (b.insert name s) =
        ⟨(prepare schema config caller action b).body.insert name s,
          (prepare schema config caller action b).error?⟩) := by
  constructor
  · intro b b' f f' hb hb'
    constructor
    · intro hslot
      obtain ⟨g, g', hrelated, hf, hf'⟩ :=
        exists_related_of_prepare (Body.congruence_slot name) hname hb hb' hslot
      rw [Body.slot_congr hf, Body.slot_congr hf']
      exact hrelated
    · intro hget
      obtain ⟨g, g', hrelated, hf, hf'⟩ :=
        exists_related_of_prepare (Body.congruence_get? name) hname hb hb' hget
      rw [hf, hf']
      exact hrelated
  · intro hverify hdeclares b s
    have hwatched : ¬ Watched schema name := by
      rintro (hdeclared | hkey)
      · simp [hdeclares] at hdeclared
      · exact hname hkey
    have halike : Alike (fun b b' => b' = b.insert name s)
        (prepare schema config caller action b)
        (prepare schema config caller action (b.insert name s)) :=
      alike_prepare (Body.congruence_insert hwatched s) (by simp [hverify]) rfl
    rw [← halike.body, halike.error]

/-- A name makes no difference to the options, which are converted, and a note that is not declared
makes none to anything. -/
theorem prepare_local_port :
    let mtu : Spec := { convertTo := some [.builtin .integer] }
    let options : Spec :=
      { allowPost := true, rules := [.structured (.builtin .object) [("mtu", mtu)]] }
    let schema : Schema := ⟨"ports", Dict.ofPairs
      [("name", { allowPost := true, default? := some (.value (.string "")) }),
        ("options", options)]⟩
    let config : Config := { verifyAttributes := false }
    let sent := Body.ofObject [("options", .object [("mtu", .string "1500")])]
    let named := Body.ofObject
      [("name", .string "uplink"), ("options", .object [("mtu", .string "1500")])]
    let prepared (name : String) := Body.ofObject
      [("name", .string name), ("options", .object [("mtu", .ofInt 1500)])]
    (prepare schema config .anonymous .create sent = .done (prepared "") ∧
      prepare schema config .anonymous .create named = .done (prepared "uplink") ∧
      (prepared "").slot "options" = (prepared "uplink").slot "options") ∧
    prepare schema config .anonymous .create (sent.insert "note" .null) =
      ⟨(prepare schema config .anonymous .create sent).body.insert "note" .null,
        (prepare schema config .anonymous .create sent).error?⟩ := by
  intro mtu options schema config sent named prepared
  have hsent : prepare schema config .anonymous .create sent = .done (prepared "") := by
    subst mtu options schema config sent named prepared
    cbv
  have hnamed : prepare schema config .anonymous .create named = .done (prepared "uplink") := by
    subst mtu options schema config sent named prepared
    cbv
  have hslot : sent.slot "options" = named.slot "options" := by cbv
  have hdeclares : schema.declares "note" = false := by cbv
  have hlocal := prepare_local schema config .anonymous .create
  exact ⟨⟨hsent, hnamed, ((hlocal "options" (by decide)).1 _ _ _ _ hsent hnamed).1 hslot⟩,
    (hlocal "note" (by decide)).2 rfl hdeclares sent .null⟩

end Request

end AttributeSchema
