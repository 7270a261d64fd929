import AttributeSchema.Proofs.Request.FirstFailure
import AttributeSchema.Proofs.Request.Locality
import AttributeSchema.Proofs.Request.Settlement
import AttributeSchema.Proofs.Spec.SelfSufficiency

/-!
# Leaving out an attribute

A creation that does not mention an attribute fares as if the schema did not declare it, provided that
the attribute alone can be made out of nothing. A self-sufficient specification says how it is made,
and only a rule that wants a list, or a converter, stands between what is made and its acceptance.
Main statement: `Request.omission_of_selfSufficient`.
-/

namespace AttributeSchema

/-! ## Schemas without an attribute -/

theorem findSome?_filter_of_none {α β : Type} {p : α → Bool} {f : α → Option β} {l : List α}
    (h : ∀ x ∈ l, p x = false → f x = none) : (l.filter p).findSome? f = l.findSome? f := by
  induction l with
  | nil => rfl
  | cons x l ih =>
    obtain ⟨hx, hl⟩ := List.forall_mem_cons.1 h
    cases hp : p x with
    | true =>
      rw [List.filter_cons_of_pos hp, List.findSome?_cons, List.findSome?_cons, ih hl]
    | false =>
      have hnot : ¬ p x = true := by simp [hp]
      rw [List.filter_cons_of_neg hnot, List.findSome?_cons, hx hp, ih hl]

namespace Schema

/-- The schema without one attribute. -/
def without (schema : Schema) (name : String) : Schema :=
  { schema with attributes := schema.attributes.erase name }

variable {schema : Schema} {name key : String}

theorem spec?_without :
    (schema.without name).spec? key = if key = name then none else schema.spec? key :=
  Dict.get?_erase schema.attributes name key

theorem declares_without_of_ne (h : key ≠ name) :
    (schema.without name).declares key = schema.declares key := by
  have hspec : (schema.without name).spec? key = schema.spec? key := spec?_without.trans (if_neg h)
  exact congrArg Option.isSome hspec

end Schema

theorem Dict.erase_of_get? {α : Type} {d : Dict α} {key : String} (h : d.get? key = none) :
    d.erase key = d := by
  ext k : 1
  rw [Dict.get?_erase]
  split
  case isTrue hk => rw [hk, h]
  case isFalse => rfl

/-- Stages that fail alike, and go on alike after a success, fail alike together. -/
theorem Outcome.error?_andThen_congr {o o' : Outcome} {next next' : Body → Outcome}
    (herror : o'.error? = o.error?)
    (hnext : o.error? = none → (next' o'.body).error? = (next o.body).error?) :
    (o'.andThen next').error? = (o.andThen next).error? := by
  rw [error?_andThen, error?_andThen, herror]
  cases h : o.error? with
  | none => rw [hnext h]
  | some e => rfl

namespace Request

open Outcome (ActsAt error?_andThen_congr)

variable {schema : Schema} {config : Config} {caller : Caller} {name : String} {spec : Spec}
  {stage : String → Spec → Body → Outcome} {b f f' : Body} {v : Json}

/-- Without an attribute that a stage does not fail at, the first failure is the same. -/
theorem findSome?_error?_without (hstage : ∀ name spec, ActsAt name (stage name spec))
    (hspec : schema.spec? name = some spec) (hnone : (stage name spec b).error? = none) :
    ((schema.without name).attributes.entries.findSome? fun e =>
        (stage e.1 e.2 (b.erase name)).error?) =
      schema.attributes.entries.findSome? fun e => (stage e.1 e.2 b).error? := by
  have hagree : ∀ e ∈ (schema.without name).attributes.entries,
      Dict.get? (b.erase name) e.1 = b.get? e.1 := by
    intro e he
    rw [Dict.get?_erase, if_neg]
    simpa using (List.mem_filter.1 he).2
  rw [findSome?_error?_congr hstage hagree]
  refine findSome?_filter_of_none fun e he hdropped => ?_
  obtain rfl : e.1 = name := by simpa using hdropped
  obtain rfl : spec = e.2 := Option.some.inj (hspec.symm.trans (Dict.mem_entries_iff.1 he))
  exact hnone

/-- Without an attribute, the stages leave the body that they leave with it, but for the attribute. -/
theorem SlotWise.eq_erase (hstage : ∀ name spec, ActsAt name (stage name spec))
    (h : SlotWise schema stage b f) (h' : SlotWise (schema.without name) stage (b.erase name) f') :
    f' = f.erase name := by
  ext key : 1
  rw [Dict.get?_erase]
  split
  case isTrue hkey =>
    rw [h'.undeclared (Schema.spec?_without.trans (if_pos hkey)), Dict.get?_erase, if_pos hkey]
  case isFalse hkey =>
    have hsame : Dict.get? (b.erase name) key = b.get? key :=
      (Dict.get?_erase b name key).trans (if_neg hkey)
    have hspec' : (schema.without name).spec? key = schema.spec? key :=
      Schema.spec?_without.trans (if_neg hkey)
    cases hspec : schema.spec? key with
    | none => rw [h'.undeclared (hspec'.trans hspec), h.undeclared hspec, hsame]
    | some spec =>
      obtain ⟨g, hg, hfg⟩ := h.declared hspec
      obtain ⟨g', hg', hfg'⟩ := h'.declared (hspec'.trans hspec)
      obtain ⟨g'', hg'', hgg''⟩ := (hstage key spec).transport hg hsame
      obtain rfl : g'' = g' := Outcome.done_inj.1 (hg''.symm.trans hg')
      rw [hfg', hgg'', hfg]

/-- What is not declared is the same without an attribute that is declared, and its state. -/
theorem error?_verifyAttributes_without (hdeclared : schema.declares name = true) :
    (verifyAttributes (schema.without name) (b.erase name)).error? =
      (verifyAttributes schema b).error? := by
  have hkeys : (b.erase name).keys.filter (fun key => !(schema.without name).declares key) =
      b.keys.filter fun key => !schema.declares key := by
    have herase : (b.erase name).keys = b.keys.filter (· != name) := by
      rw [Dict.keys, Dict.keys, List.filter_map]
      rfl
    rw [herase, List.filter_filter]
    refine List.filter_congr fun key _ => ?_
    by_cases hkey : key = name
    · simp [hkey, hdeclared]
    · simp [hkey, Schema.declares_without_of_ne hkey]
  rw [verifyAttributes, verifyAttributes, hkeys]
  cases b.keys.filter fun key => !schema.declares key <;> rfl

/-! ## A creation without an attribute -/

/-- A run over the attributes that fails with the first of them, and treats each of them if none
fails, does not notice that an attribute is missing which does not fail. -/
theorem run_without (run : Schema → Body → Outcome)
    (hstage : ∀ name spec, ActsAt name (stage name spec))
    (herror : ∀ schema b, (run schema b).error? =
      schema.attributes.entries.findSome? fun e => (stage e.1 e.2 b).error?)
    (hdone : ∀ schema b f, run schema b = .done f ↔ SlotWise schema stage b f)
    (hspec : schema.spec? name = some spec) (hnone : (stage name spec b).error? = none) :
    (run (schema.without name) (b.erase name)).error? = (run schema b).error? ∧
      ((run schema b).error? = none →
        (run (schema.without name) (b.erase name)).body = (run schema b).body.erase name) := by
  have hsame : (run (schema.without name) (b.erase name)).error? = (run schema b).error? := by
    rw [herror, herror]
    exact findSome?_error?_without hstage hspec hnone
  refine ⟨hsame, fun hsuccess => ?_⟩
  have hwith : SlotWise schema stage b (run schema b).body :=
    (hdone schema b _).1 (Outcome.eq_done_iff.2 ⟨hsuccess, rfl⟩)
  have hwithout : SlotWise (schema.without name) stage (b.erase name)
      (run (schema.without name) (b.erase name)).body :=
    (hdone _ _ _).1 (Outcome.eq_done_iff.2 ⟨hsame.trans hsuccess, rfl⟩)
  exact hwith.eq_erase hstage hwithout

/-- After the settlement, a creation fails as it does without an attribute that is not mentioned and
can be made alone. -/
theorem error?_create_without {c g : Body} (hspec : schema.spec? name = some spec)
    (habsent : b.get? name = none)
    (hcreate : createAttribute config.checkAllowPost name spec b = .done c)
    (hconvert : convertAttribute name spec c = .done g) :
    ((fillDefaults (schema.without name) config.checkAllowPost b).andThen fun b =>
        (convertValues (schema.without name) b).andThen fun b =>
          if config.verifyAttributes then verifyAttributes (schema.without name) b
          else .done b).error? =
      ((fillDefaults schema config.checkAllowPost b).andThen fun b =>
        (convertValues schema b).andThen fun b =>
          if config.verifyAttributes then verifyAttributes schema b else .done b).error? := by
  have hdeclared : schema.declares name = true := by
    rw [Schema.declares, Dict.contains_eq, ← Schema.spec?, hspec]
    rfl
  have hfirst : (createAttribute config.checkAllowPost name spec b).error? = none := by
    rw [hcreate]
    rfl
  obtain ⟨hfill, hfilled⟩ := run_without (fun schema b => fillDefaults schema config.checkAllowPost b)
    (actsAt_createAttribute config.checkAllowPost) (fun _ _ => error?_fillDefaults)
    (fun _ _ _ => fillDefaults_eq_done_iff) hspec hfirst
  rw [Dict.erase_of_get? habsent] at hfill hfilled
  refine error?_andThen_congr hfill fun hsuccess => ?_
  rw [hfilled hsuccess]
  -- The attribute is converted from the state that it was filled in with.
  have hstate : (fillDefaults schema config.checkAllowPost b).body.get? name = c.get? name := by
    rw [get?_fillDefaults hspec, hcreate]
    rfl
  have hnone : (convertAttribute name spec
      (fillDefaults schema config.checkAllowPost b).body).error? = none := by
    rw [(actsAt_convertAttribute name spec).error hstate, hconvert]
    rfl
  obtain ⟨hconverts, hconverted⟩ := run_without convertValues actsAt_convertAttribute
    (fun _ _ => error?_convertValues) (fun _ _ _ => convertValues_eq_done_iff) hspec hnone
  refine error?_andThen_congr hconverts fun hsuccess => ?_
  rw [hconverted hsuccess]
  cases config.verifyAttributes with
  | true => exact error?_verifyAttributes_without hdeclared
  | false => rfl

/-- **An attribute that is made alone may be left out.** The creation fails, or not, as it does if the
schema does not declare the attribute. -/
theorem error?_prepare_without (hspec : schema.spec? name = some spec)
    (hname : name ∉ Ownership.keys) (habsent : b.get? name = none)
    (htreat : ∃ g, treat schema config .create name b = .done g) :
    (prepare (schema.without name) config caller .create b).error? =
      (prepare schema config caller .create b).error? := by
  have hdeclares : ∀ key ∈ Ownership.keys,
      (schema.without name).declares key = schema.declares key := fun key hkey =>
    Schema.declares_without_of_ne fun heq => hname (heq ▸ hkey)
  rw [prepare, prepare, Outcome.andThen_assoc, Outcome.andThen_assoc,
    Ownership.settle_congr hdeclares]
  refine error?_andThen_congr rfl fun _ => ?_
  -- The settlement does not touch the attribute.
  have hsettled : (Ownership.settle schema caller (decide (Action.create = .create)) b).body.get?
      name = b.get? name := Ownership.get?_body_settle hname
  obtain ⟨g, hg⟩ := htreat
  obtain ⟨g', hg', -⟩ := (alike_treat (Body.congruence_get? name) hsettled.symm).exists_done hg
  rw [treat, hspec] at hg'
  obtain ⟨c, hcreate, hconvert⟩ := Outcome.andThen_eq_done_iff.1 hg'
  exact error?_create_without hspec (hsettled.trans habsent) hcreate hconvert

/-! ## An attribute that is filled in out of nothing -/

/-- An attribute that was left out is made alone exactly if what is filled in passes. -/
theorem exists_treat_iff {ms : List (String × Json)} (hspec : schema.spec? name = some spec)
    (hpost : spec.allowPost = true) (hfills : spec.FillsInside)
    (hpopulate : spec.populate .unspecified = .value (.object ms))
    (habsent : b.slot name = .unspecified) :
    (∃ g, treat schema config .create name b = .done g) ↔ spec.Passes (.object ms) := by
  rw [treat, hspec]
  dsimp only
  rw [createAttribute_of_populates hpost (Bool.and_eq_true_iff.2 hfills) hpopulate habsent,
    Outcome.andThen_done, exists_convertAttribute_iff, Body.slot_insert_self]
  simp [Slot.toJson?]

/-- Nothing is made of an attribute that was left out and may not be given. -/
theorem exists_treat_of_not_allowPost (hspec : schema.spec? name = some spec)
    (hpost : spec.allowPost = false) (habsent : b.slot name = .unspecified) :
    ∃ g, treat schema config .create name b = .done g := by
  have hnot : b.isSupplied name = false := by
    rw [Body.isSupplied, habsent]
    rfl
  have hcreate : createAttribute config.checkAllowPost name spec b = .done b :=
    (createAttribute_of_not_allowPost hpost).2 ⟨fun _ => hnot, rfl⟩
  rw [treat, hspec]
  dsimp only
  rw [hcreate, Outcome.andThen_done]
  exact ⟨b, convertAttribute_eq_done_iff.2 (Or.inl ⟨hnot, rfl⟩)⟩

/-- What it means for creations that an attribute with this specification is left out, if a value is
filled in for it. -/
structure Omission (spec : Spec) (v : Json) : Prop where
  /-- The rules accept the value if and only if none of those that count wants a list. -/
  accepted_iff : spec.check v = Verdict.pass ↔ spec.SelfSufficient (· ≠ .listOfObjects)
  /-- Without converters the verdict of the rules is all that matters. -/
  passes_iff : spec.Everywhere SpecOf.Unconverted → (spec.Passes v ↔ spec.check v = Verdict.pass)
  harmless : spec.Passes v → ∀ {schema : Schema} {config : Config} {caller : Caller} {name : String}
    {b : Body}, schema.spec? name = some spec → name ∉ Ownership.keys → b.get? name = none →
      (prepare schema config caller .create b).error? =
        (prepare (schema.without name) config caller .create b).error?
  harmful : ¬ spec.Passes v → ∀ {schema : Schema} {config : Config} {caller : Caller}
    {name : String} {b : Body}, schema.spec? name = some spec → spec.allowPost = true →
      name ∉ Ownership.keys → b.get? name = none →
        (prepare schema config caller .create b).error? ≠ none

/-- **Leaving out a self-sufficient attribute.** An object is filled in. If it can be converted and is
accepted, the creation fares as if the attribute were not declared. Otherwise it fails, provided that
the attribute may be given on creation. -/
theorem omission_of_selfSufficient (spec : Spec) (hordered : spec.Everywhere SpecOf.OrderedMembers)
    (hself : spec.SelfSufficient fun _ => True) :
    ∃ ms, spec.populate .unspecified = .value (.object ms) ∧ Omission spec (.object ms) := by
  have hfills := hself.fillsInside
  have haccepts := hself.acceptsAbsence_iff hordered
  cases hself with
  | @intro _ kind members populates rules _ _ =>
    have hpopulate := SpecOf.populate_of_rules populates rules
    rw [SpecOf.acceptsAbsence_of_rules_iff populates rules] at haccepts
    refine ⟨_, hpopulate, ?_⟩
    constructor
    case accepted_iff => exact haccepts
    case passes_iff =>
      intro hunconverted
      have hconvert := Conversion.convert_of_unconverted hunconverted
      unfold SpecOf.Passes
      simp [SpecOf.convert, hconvert]
    case harmless =>
      intro hpasses schema config caller name b hspec hname habsent
      have hslot : b.slot name = .unspecified := by simp [Body.slot, habsent]
      refine (error?_prepare_without hspec hname habsent ?_).symm
      cases hpost : spec.allowPost with
      | true => exact (exists_treat_iff hspec hpost hfills hpopulate hslot).2 hpasses
      | false => exact exists_treat_of_not_allowPost hspec hpost hslot
    case harmful =>
      intro hfails schema config caller name b hspec hpost hname habsent hsuccess
      have hslot : b.slot name = .unspecified := by simp [Body.slot, habsent]
      obtain ⟨g, hg, -⟩ := exists_treat_of_prepare hname (Outcome.eq_done_iff.2 ⟨hsuccess, rfl⟩)
      exact hfails ((exists_treat_iff hspec hpost hfills hpopulate hslot).1 ⟨g, hg⟩)

/-- The binding and the network in it are filled in for a port without options. -/
theorem omission_of_selfSufficient_port :
    let vlan : Spec := { default? := some (.value (.ofInt 1)), rules := [.ofLeaf .nonNegative none] }
    let binding : Spec :=
      { populateMembers := true, required := true
        rules := [.structured (.builtin .objectOrNull) [("vlan", vlan)]] }
    let options : Spec :=
      { allowPost := true, populateMembers := true
        rules := [.structured (.builtin .object) [("binding", binding), ("note", {})]] }
    options.Everywhere SpecOf.OrderedMembers ∧ options.SelfSufficient (fun _ => True) ∧
      ∃ ms, options.populate .unspecified = .value (.object ms) ∧ Omission options (.object ms) := by
  intro vlan binding options
  have hvlan : vlan.Everywhere SpecOf.OrderedMembers := .of_leaf (.of_leaf rfl) rfl
  have hbinding : binding.Everywhere SpecOf.OrderedMembers :=
    .of_single (.of_single rfl (List.pairwise_singleton _ _)) rfl (by simpa using hvlan)
  have hnote : SpecOf.Everywhere SpecOf.OrderedMembers {} := .of_leaf (.of_leaf rfl) rfl
  have hoptions : options.Everywhere SpecOf.OrderedMembers := by
    refine .of_single (.of_single rfl (List.pairwise_pair.2 (by decide))) rfl ?_
    simpa using ⟨hbinding, hnote⟩
  have hdefault : vlan.Dispensable fun _ => True :=
    .defaulted (fun h => Bool.false_ne_true h.1) rfl rfl
  have hwhole : binding.SelfSufficient fun _ => True := .intro rfl rfl trivial (by simpa using hdefault)
  have hoptional : SpecOf.Dispensable (fun _ => True) {} :=
    .optional (fun h => Bool.false_ne_true h.1) (Or.inl rfl) rfl
  have hself : options.SelfSufficient fun _ => True := by
    refine .intro rfl rfl trivial ?_
    simpa using ⟨.populated hwhole, hoptional⟩
  exact ⟨hoptions, hself, omission_of_selfSufficient options hoptions hself⟩

/-- Three self-sufficient attributes without which a port is not created. The rule of the first one
wants a list, the default in the second one cannot be converted although the rules accept it, and the
third one is the owner. -/
theorem omission_not_harmless :
    let structured (kind : StructuredValidator) (vlan : Spec) : Spec :=
      { allowPost := true, populateMembers := true
        rules := [.structured (.builtin kind) [("vlan", vlan)]] }
    let listed := structured .listOfObjects { default? := some (.value (.ofInt 1)) }
    let converted := structured .object
      { default? := some (.value (.string "any")), convertTo := some [.builtin .integer] }
    let owner := structured .object { default? := some (.value (.ofInt 1)) }
    let create (name : String) (spec : Spec) : Outcome :=
      prepare ⟨"ports", Dict.ofPairs [(name, spec)]⟩ {} .anonymous .create ∅
    let vlan (v : Json) : Json := .object [("vlan", v)]
    (listed.SelfSufficient (fun _ => True) ∧
      listed.populate .unspecified = .value (vlan (.ofInt 1)) ∧
      listed.check (vlan (.ofInt 1)) = .error (.notList (vlan (.ofInt 1))) ∧
      (create "options" listed).error? = some (.rejected "options" (.notList (vlan (.ofInt 1))))) ∧
    (converted.SelfSufficient (fun _ => True) ∧
      converted.populate .unspecified = .value (vlan (.string "any")) ∧
      converted.check (vlan (.string "any")) = Verdict.pass ∧
      (create "options" converted).error? = some (.conversion (.notInteger (.string "any")))) ∧
    (owner.SelfSufficient (fun _ => True) ∧
      owner.populate .unspecified = .value (vlan (.ofInt 1)) ∧
      owner.check (vlan (.ofInt 1)) = Verdict.pass ∧
      (create "tenant_id" owner).error? = some .noOwner) := by
  intro structured listed converted owner create vlan
  have hself : ∀ kind (member : Spec), member.Dispensable (fun _ => True) →
      (structured kind member).SelfSufficient fun _ => True := fun kind member hmember =>
    .intro rfl rfl trivial (by simpa using hmember)
  have hplain : ∀ (d : Option Default) (cs : Option (List Converter)),
      ¬ SpecOf.FillsInside ({ default? := d, convertTo := cs } : Spec) := fun _ _ h => Bool.false_ne_true h.1
  refine ⟨?list, ?converter, ?ownership⟩
  case list =>
    refine ⟨hself .listOfObjects _ (.defaulted (hplain _ _) rfl rfl), ?_, rfl, ?_⟩
    · subst structured listed vlan
      cbv
    · subst structured listed vlan create
      cbv
  case converter =>
    refine ⟨hself .object _ (.defaulted (hplain _ _) rfl rfl), ?_, rfl, ?_⟩
    · subst structured converted vlan
      cbv
    · subst structured converted create
      cbv
  case ownership =>
    refine ⟨hself .object _ (.defaulted (hplain _ _) rfl rfl), ?_, rfl, ?_⟩
    · subst structured owner vlan
      cbv
    · subst structured owner create
      cbv

end Request

end AttributeSchema
