import AttributeSchema.Proofs.Request.Filling

/-!
# Conversion up to the first failure

A conversion goes through the attributes in ascending order and stops at the first one whose value
cannot be converted or is rejected. What comes before it has been converted, and what comes after it
has not been touched. The attribute itself keeps its value if that cannot be converted, and holds the
converted value if a rule rejects that. Main statement: `Request.convertValues_stops`.
-/

namespace AttributeSchema

/-! ## Stages that succeed one after the other -/

namespace Outcome

theorem andThen_assoc (o : Outcome) (next last : Body → Outcome) :
    (o.andThen next).andThen last = o.andThen fun b => (next b).andThen last := by
  obtain ⟨body, error?⟩ := o
  cases error? <;> rfl

theorem error?_andThen (o : Outcome) (next : Body → Outcome) :
    (o.andThen next).error? = o.error?.or (next o.body).error? := by
  obtain ⟨body, error?⟩ := o
  cases error? <;> rfl

theorem andThen_of_error {o : Outcome} {e : RequestError} (h : o.error? = some e)
    (next : Body → Outcome) : o.andThen next = o := by
  rw [andThen, h]

/-- Stages that act at different attributes, and each succeed alone, succeed one after the other. -/
theorem exists_inTurn {stage : String → Spec → Body → Outcome}
    (hstage : ∀ name spec, ActsAt name (stage name spec)) {es : List (String × Spec)}
    (hdistinct : es.Pairwise fun a b => a.1 ≠ b.1) {b : Body}
    (h : ∀ e ∈ es, ∃ b', stage e.1 e.2 b = done b') : ∃ f, InTurn stage es b f := by
  induction es generalizing b with
  | nil => exact ⟨b, .nil b⟩
  | cons e es ih =>
    obtain ⟨name, spec⟩ := e
    obtain ⟨hne, hrest⟩ := List.pairwise_cons.1 hdistinct
    obtain ⟨⟨c, hc⟩, hlater⟩ := List.forall_mem_cons.1 h
    have halone : ∀ e ∈ es, ∃ b', stage e.1 e.2 c = done b' := by
      intro e he
      obtain ⟨b', hb'⟩ := hlater e he
      have hagree : c.get? e.1 = b.get? e.1 := by
        rw [← (hstage name spec).frame b e.1 (hne e he).symm, hc]
        rfl
      obtain ⟨f', hf', -⟩ := (hstage e.1 e.2).transport hb' hagree
      exact ⟨f', hf'⟩
    obtain ⟨f, hf⟩ := ih hrest halone
    exact ⟨f, .cons hc hf⟩

end Outcome

/-- The value can be converted, and the result passes the rules. -/
def SpecOf.Passes (spec : Spec) (raw : Json) : Prop :=
  ∃ v, spec.convert raw = .ok v ∧ spec.check v = Verdict.pass

namespace Request

variable {schema : Schema} {name : String} {spec : Spec} {raw : Json} {b c f : Body}

theorem convertAll_append (es fs : List (String × Spec)) (b : Body) :
    convertAll (es ++ fs) b = (convertAll es b).andThen (convertAll fs) := by
  induction es generalizing b with
  | nil => rfl
  | cons e es ih =>
    have hlater : convertAll (es ++ fs) = fun c => (convertAll es c).andThen (convertAll fs) :=
      funext ih
    rw [List.cons_append, convertAll, convertAll, hlater, Outcome.andThen_assoc]

/-- The failure that is reported is the first one in order, each attribute being judged alone. -/
theorem error?_convertAll {es : List (String × Spec)}
    (hdistinct : es.Pairwise fun a b => a.1 ≠ b.1) :
    (convertAll es b).error? = es.findSome? fun e => (convertAttribute e.1 e.2 b).error? := by
  induction es generalizing b with
  | nil => rfl
  | cons e es ih =>
    obtain ⟨hne, hrest⟩ := List.pairwise_cons.1 hdistinct
    have hagree : ∀ e' ∈ es,
        (convertAttribute e.1 e.2 b).body.get? e'.1 = b.get? e'.1 := fun e' he' =>
      (actsAt_convertAttribute e.1 e.2).frame b e'.1 (hne e' he').symm
    have hlater := findSome?_error?_congr actsAt_convertAttribute hagree
    rw [List.findSome?_cons, convertAll, Outcome.error?_andThen, ih hrest, hlater]
    cases (convertAttribute e.1 e.2 b).error? <;> rfl

theorem error?_convertValues :
    (convertValues schema b).error? = schema.attributes.entries.findSome? fun e =>
      (convertAttribute e.1 e.2 b).error? :=
  error?_convertAll schema.attributes.ascending.pairwise_ne

/-! ## One attribute -/

theorem exists_convertAttribute_iff :
    (∃ f, convertAttribute name spec b = .done f) ↔
      ∀ raw, (b.slot name).toJson? = some raw → spec.Passes raw := by
  simp only [convertAttribute_eq_done_iff]
  constructor
  · rintro ⟨f, ⟨hnot, -⟩ | ⟨raw, v, hraw, hconvert, hcheck, -⟩⟩ raw' hraw'
    · simp [Body.toJson?_eq_none_iff.2 hnot] at hraw'
    · obtain rfl : raw = raw' := Option.some.inj (hraw.symm.trans hraw')
      exact ⟨v, hconvert, hcheck⟩
  · intro h
    cases hraw : (b.slot name).toJson? with
    | none => exact ⟨b, Or.inl ⟨Body.toJson?_eq_none_iff.1 hraw, rfl⟩⟩
    | some raw =>
      obtain ⟨v, hconvert, hcheck⟩ := h raw hraw
      exact ⟨b.set name v, Or.inr ⟨raw, v, rfl, hconvert, hcheck, rfl⟩⟩

/-- The stage ended with an invalid input and a message. -/
def Invalid (o : Outcome) (message : String) : Prop :=
  ∃ e, o.error? = some e ∧ e.kind = .invalidInput ∧ e.message = message

/-- How an attribute with a value may fail, and the state that it is left in: a value that cannot be
converted stays as it was, and one that is rejected is stored as it was converted. -/
inductive Failure (name : String) (spec : Spec) (raw : Json) (b : Body) (o : Outcome) : Prop
  | conversion {e : ConvertError} (convert : spec.convert raw = .error e)
      (error : Invalid o e.message) (kept : o.body.get? name = b.get? name) :
      Failure name spec raw b o
  | rejected {v : Json} {pre post : List Rule} {r : Rule} {reason : Diagnostic}
      (convert : spec.convert raw = .ok v) (rules : spec.rules = pre ++ r :: post)
      (before : ∀ r' ∈ pre, r'.check v = Verdict.pass) (rejects : r.check v = .error reason)
      (error : Invalid o
        ("Invalid input for " ++ name ++ ". Reason: " ++ reason.message ++ "."))
      (stored : o.body.get? name = some (.ofJson v)) : Failure name spec raw b o

theorem failure_of_convertAttribute (hraw : (b.slot name).toJson? = some raw)
    (hfails : ¬ spec.Passes raw) :
    (∃ e, (convertAttribute name spec b).error? = some e) ∧
      Failure name spec raw b (convertAttribute name spec b) := by
  unfold convertAttribute
  rw [hraw]
  dsimp only
  cases hconvert : spec.convert raw with
  | error e => exact ⟨⟨_, rfl⟩, .conversion hconvert ⟨_, rfl, rfl, rfl⟩ rfl⟩
  | ok v =>
    dsimp only
    cases hcheck : spec.check v with
    | ok u => exact absurd ⟨v, hconvert, hcheck⟩ hfails
    | error reason =>
      obtain ⟨pre, r, post, hrules, hpre, hr⟩ := Verdict.exists_of_all_error hcheck
      refine ⟨⟨_, rfl⟩, .rejected hconvert hrules hpre hr ⟨_, rfl, rfl, rfl⟩ ?_⟩
      exact Dict.get?_insert_self b name _

theorem Failure.congr {o : Outcome} (h : Failure name spec raw c o)
    (hagree : c.get? name = b.get? name) : Failure name spec raw b o := by
  cases h with
  | conversion convert error kept => exact .conversion convert error (kept.trans hagree)
  | rejected convert rules before rejects error stored =>
    exact .rejected convert rules before rejects error stored

/-! ## The whole body -/

/-- Of the attributes with some property, those that are declared and have a value hold it converted.
Whatever has no value or is not declared is left alone. -/
structure Converted (schema : Schema) (treated : String → Prop) (b f : Body) : Prop where
  converted : ∀ {name spec raw}, schema.spec? name = some spec → treated name →
    (b.slot name).toJson? = some raw →
      ∃ v, spec.convert raw = .ok v ∧ f.get? name = some (.ofJson v)
  unsupplied : ∀ {name}, b.isSupplied name = false → f.get? name = b.get? name
  undeclared : ∀ {name}, schema.spec? name = none → f.get? name = b.get? name

/-- The first attribute in order that has a value which cannot be converted or is rejected. -/
structure FirstFailure (schema : Schema) (b : Body) (name : String) (spec : Spec) (raw : Json) :
    Prop where
  declared : schema.spec? name = some spec
  supplied : (b.slot name).toJson? = some raw
  fails : ¬ spec.Passes raw
  earlier : ∀ {name' spec' raw'}, schema.spec? name' = some spec' → name' < name →
    (b.slot name').toJson? = some raw' → spec'.Passes raw'

/-- A conversion that stopped at an attribute: it did its work before, none of it afterwards, and
failed there. -/
structure StopsAt (schema : Schema) (b : Body) (name : String) (spec : Spec) (raw : Json)
    (o : Outcome) : Prop where
  before : Converted schema (· < name) b o.body
  after : ∀ {name'}, name < name' → o.body.get? name' = b.get? name'
  failure : Failure name spec raw b o

/-- The attributes before some other one are converted in turn if each of them alone passes. -/
theorem exists_convertAll {es : List (String × Spec)}
    (hdistinct : es.Pairwise fun a b => a.1 ≠ b.1)
    (h : ∀ e ∈ es, ∀ raw, (b.slot e.1).toJson? = some raw → e.2.Passes raw) :
    ∃ f, convertAll es b = .done f ∧
      (∀ e ∈ es, ∃ c, convertAttribute e.1 e.2 b = .done c ∧ f.get? e.1 = c.get? e.1) ∧
      ∀ k, (∀ e ∈ es, e.1 ≠ k) → f.get? k = b.get? k := by
  obtain ⟨f, hf⟩ := Outcome.exists_inTurn actsAt_convertAttribute hdistinct fun e he =>
    exists_convertAttribute_iff.2 (h e he)
  obtain ⟨heach, hframe⟩ := (Outcome.inTurn_iff actsAt_convertAttribute hdistinct).1 hf
  exact ⟨f, convertAll_eq_done_iff.2 hf, fun e he => heach e.1 e.2 he, hframe⟩

/-- The attributes in a list were converted each by itself, and the others were left alone. -/
theorem Converted.of_each {treated : String → Prop} {es : List (String × Spec)}
    (hdeclared : ∀ e ∈ es, schema.spec? e.1 = some e.2)
    (htreated : ∀ {name spec}, schema.spec? name = some spec → treated name → (name, spec) ∈ es)
    (heach : ∀ e ∈ es, ∃ c, convertAttribute e.1 e.2 b = .done c ∧ f.get? e.1 = c.get? e.1)
    (hframe : ∀ k, (∀ e ∈ es, e.1 ≠ k) → f.get? k = b.get? k) :
    Converted schema treated b f where
  converted := by
    intro name spec raw hspec htreat hraw
    obtain ⟨c, hc, hsame⟩ := heach _ (htreated hspec htreat)
    obtain ⟨v, hconvert, hv, -⟩ := exists_of_convertAttribute hraw hc
    exact ⟨v, hconvert, hsame.trans hv⟩
  unsupplied := by
    intro name hnot
    by_cases hmem : ∃ e ∈ es, e.1 = name
    · obtain ⟨e, he, rfl⟩ := hmem
      obtain ⟨c, hc, hsame⟩ := heach e he
      rw [hsame, eq_of_convertAttribute_of_not_isSupplied hnot hc]
    · exact hframe name fun e he heq => hmem ⟨e, he, heq⟩
  undeclared := by
    intro name hspec
    refine hframe name fun e he heq => ?_
    have hsome := hdeclared e he
    rw [heq, hspec] at hsome
    simp at hsome

/-- What is done afterwards at a declared attribute with a value does not concern the others. -/
theorem Converted.of_frame {treated : String → Prop} (h : Converted schema treated b c)
    (hdeclared : schema.spec? name = some spec) (hsupplied : b.isSupplied name = true)
    (hnot : ¬ treated name) (hframe : ∀ k, k ≠ name → f.get? k = c.get? k) :
    Converted schema treated b f where
  converted := by
    intro name' spec' raw' hspec' htreat hraw'
    rw [hframe name' fun heq => hnot (heq ▸ htreat)]
    exact h.converted hspec' htreat hraw'
  unsupplied := by
    intro name' hnot'
    rw [hframe name' fun heq => by simp [heq, hsupplied] at hnot']
    exact h.unsupplied hnot'
  undeclared := by
    intro name' hspec'
    rw [hframe name' fun heq => by simp [heq, hdeclared] at hspec']
    exact h.undeclared hspec'

/-- The attributes before the first failure are converted, and the conversion stops there. -/
theorem stopsAt_of_firstFailure (h : FirstFailure schema b name spec raw) :
    StopsAt schema b name spec raw (convertValues schema b) := by
  obtain ⟨pre, post, hentries⟩ := List.append_of_mem (Dict.mem_entries_iff.2 h.declared)
  have hascending : Entries.Ascending (pre ++ (name, spec) :: post) :=
    hentries ▸ schema.attributes.ascending
  obtain ⟨hpre, hpost, hbetween⟩ := List.pairwise_append.1 hascending
  have hlt : ∀ e ∈ pre, e.1 < name := fun e he => hbetween e he _ List.mem_cons_self
  have hgt : ∀ e ∈ post, name < e.1 := (List.pairwise_cons.1 hpost).1
  have hdeclared : ∀ e ∈ pre, schema.spec? e.1 = some e.2 := fun e he =>
    Dict.mem_entries_iff.1 (hentries ▸ List.mem_append_left _ he)
  obtain ⟨c, hc, heach, hframe⟩ :=
    exists_convertAll (Entries.Ascending.pairwise_ne hpre) fun e he raw' hraw' =>
      h.earlier (hdeclared e he) (hlt e he) hraw'
  have hconverted : Converted schema (· < name) b c := by
    refine .of_each hdeclared ?_ heach hframe
    intro name' spec' hspec' hlt'
    have hmem : (name', spec') ∈ pre ++ (name, spec) :: post :=
      hentries ▸ Dict.mem_entries_iff.2 hspec'
    rcases List.mem_append.1 hmem with hmem | hmem
    · exact hmem
    · rcases List.mem_cons.1 hmem with heq | hmem
      · obtain ⟨rfl, -⟩ := Prod.mk.inj heq
        exact absurd hlt' (String.lt_irrefl _)
      · exact absurd (String.lt_trans hlt' (hgt _ hmem)) (String.lt_irrefl _)
  -- The conversion arrives at the attribute with the state that it had in the first body.
  have hsame : c.get? name = b.get? name :=
    hframe name fun e he heq => String.lt_irrefl _ (heq ▸ hlt e he)
  have hraw : (c.slot name).toJson? = some raw := by
    rw [Body.slot_congr hsame]
    exact h.supplied
  obtain ⟨⟨e, herror⟩, hfailure⟩ := failure_of_convertAttribute hraw h.fails
  have hstops : convertValues schema b = convertAttribute name spec c := by
    rw [convertValues, hentries, convertAll_append, hc, Outcome.andThen_done, convertAll,
      Outcome.andThen_of_error herror]
  have hrest := (actsAt_convertAttribute name spec).frame c
  rw [hstops]
  refine ⟨?before, ?after, hfailure.congr hsame⟩
  case before =>
    exact hconverted.of_frame h.declared (Body.isSupplied_iff_toJson?.2 ⟨raw, h.supplied⟩)
      (String.lt_irrefl _) hrest
  case after =>
    intro name' hlt'
    rw [hrest name' fun heq => String.lt_irrefl _ (heq ▸ hlt')]
    exact hframe name' fun e he heq =>
      String.lt_irrefl _ (String.lt_trans hlt' (heq ▸ hlt e he))

/-- All values can be converted and pass the rules. -/
def AllPass (schema : Schema) (b : Body) : Prop :=
  ∀ name spec raw, schema.spec? name = some spec → (b.slot name).toJson? = some raw →
    spec.Passes raw

/-- Where not all values pass, there is a first one that fails. -/
theorem allPass_or_firstFailure (schema : Schema) (b : Body) :
    AllPass schema b ∨ ∃ name spec raw, FirstFailure schema b name spec raw := by
  have hpasses : ∀ {name spec}, (convertAttribute name spec b).error? = none →
      ∀ raw, (b.slot name).toJson? = some raw → spec.Passes raw := fun hnone =>
    exists_convertAttribute_iff.1 ⟨_, Outcome.eq_done_iff.2 ⟨hnone, rfl⟩⟩
  cases herror : (convertValues schema b).error? with
  | none =>
    rw [error?_convertValues, List.findSome?_eq_none_iff] at herror
    exact Or.inl fun name spec raw hspec => hpasses (herror _ (Dict.mem_entries_iff.2 hspec)) raw
  | some e =>
    rw [error?_convertValues, schema.attributes.ascending.findSome?_eq_some_iff] at herror
    obtain ⟨⟨name, spec⟩, hmem, he, hfirst⟩ := herror
    have hfails : ¬ ∀ raw, (b.slot name).toJson? = some raw → spec.Passes raw := by
      rw [← exists_convertAttribute_iff]
      rintro ⟨f, hf⟩
      simp [hf, Outcome.done] at he
    simp only [not_forall] at hfails
    obtain ⟨raw, hraw, hnot⟩ := hfails
    refine Or.inr ⟨name, spec, raw, Dict.mem_entries_iff.1 hmem, hraw, hnot, ?_⟩
    intro name' spec' raw' hspec' hlt
    exact hpasses (hfirst _ (Dict.mem_entries_iff.2 hspec') hlt) raw'

/-- **A conversion works up to the first failure.** If no value fails, the conversion succeeds and
every value is converted. Otherwise it fails with the first value that does: the values before it are
converted, those after it are not, and its own attribute is left in the state that the failure says. -/
theorem convertValues_stops (schema : Schema) (b : Body) :
    (AllPass schema b ∨ ∃ name spec raw, FirstFailure schema b name spec raw) ∧
    (AllPass schema b → (convertValues schema b).error? = none ∧
      Converted schema (fun _ => True) b (convertValues schema b).body) ∧
    ∀ name spec raw, FirstFailure schema b name spec raw →
      StopsAt schema b name spec raw (convertValues schema b) := by
  refine ⟨allPass_or_firstFailure schema b, ?_, ?_⟩
  · intro hpasses
    obtain ⟨f, hf, heach, hframe⟩ :=
      exists_convertAll schema.attributes.ascending.pairwise_ne fun e he raw hraw =>
        hpasses e.1 e.2 raw (Dict.mem_entries_iff.1 he) hraw
    rw [convertValues, hf]
    refine ⟨rfl, .of_each (fun e he => Dict.mem_entries_iff.1 he) ?_ heach hframe⟩
    intro name spec hspec _
    exact Dict.mem_entries_iff.2 hspec
  · intro name spec raw h
    exact stopsAt_of_firstFailure h

/-- A network number is converted, rejected as negative and stored nevertheless. The number before it
was converted, and the flag after it stays a text. -/
theorem convertValues_stops_port :
    let mtu : Spec := { convertTo := some [.builtin .integer] }
    let vlan : Spec :=
      { convertTo := some [.builtin .integer], rules := [.ofLeaf .nonNegative none] }
    let options : Spec := { rules := [.structured (.builtin .object) [("vlan", vlan)]] }
    let schema : Schema := ⟨"ports", Dict.ofPairs
      [("mtu", mtu), ("options", options), ("up", { convertTo := some [.builtin .boolean] })]⟩
    let sent := Body.ofObject
      [("mtu", .string "1500"), ("options", .object [("vlan", .string "-1")]), ("up", .string "true")]
    StopsAt schema sent "options" options (.object [("vlan", .string "-1")])
        (convertValues schema sent) ∧
      (convertValues schema sent).body = Body.ofObject
        [("mtu", .ofInt 1500), ("options", .object [("vlan", .ofInt (-1))]),
          ("up", .string "true")] := by
  intro mtu vlan options schema sent
  have hfirst : FirstFailure schema sent "options" options (.object [("vlan", .string "-1")]) := by
    constructor
    case declared => rfl
    case supplied =>
      subst sent
      cbv
    case fails =>
      rintro ⟨v, hconvert, hcheck⟩
      have hv : options.convert (.object [("vlan", .string "-1")]) =
          .ok (.object [("vlan", .ofInt (-1))]) := by
        subst options vlan
        cbv
      obtain rfl := Except.ok.inj (hv.symm.trans hconvert)
      have hrejected : (options.check (.object [("vlan", .ofInt (-1))])).isOk = false := by
        subst options vlan
        cbv
      rw [hcheck] at hrejected
      simp [Verdict.pass, Except.isOk, Except.toBool] at hrejected
    case earlier =>
      intro name spec raw hspec hlt hraw
      have hmem := Dict.mem_of_get?_ofPairs hspec
      simp only [List.mem_cons, Prod.mk.injEq, List.not_mem_nil, or_false] at hmem
      rcases hmem with ⟨rfl, rfl⟩ | ⟨rfl, -⟩ | ⟨rfl, -⟩
      · have hsent : (sent.slot "mtu").toJson? = some (.string "1500") := by
          subst sent
          cbv
        obtain rfl : .string "1500" = raw := Option.some.inj (hsent.symm.trans hraw)
        refine ⟨.ofInt 1500, ?_, rfl⟩
        subst mtu
        cbv
      · exact absurd hlt (String.lt_irrefl _)
      · exact absurd hlt (by decide)
  refine ⟨(convertValues_stops schema sent).2.2 "options" options _ hfirst, ?_⟩
  subst schema options vlan mtu sent
  cbv

end Request

end AttributeSchema
