import AttributeSchema.Document.Resolve
import AttributeSchema.Proofs.Traversal
import Mathlib.Logic.Relation

/-!
# Resolving documents at every depth

A document resolves if the names in all its entries are bound and the parameters of their rules can be
used, also in the entries that the parameters of structured rules declare, at every depth. What it
resolves to has the shape of the document: each rule is of the kind that its name is bound to, rules
keep their order and members their keys. Main statement:
`Registries.schemaSet_iff_admissible_and_resolves`.
-/

namespace AttributeSchema

namespace Entry

/-- What a member of the parameter of a structured rule declares: null stands for an entry without
fields. -/
def ofMember? (v : Json) : Option Entry := if v.isNull then some {} else read? v

theorem exists_ofMember?_iff {v : Json} :
    (∃ e, ofMember? v = some e) ↔ v = .null ∨ ∃ e : Entry, read? v = some e := by
  rw [ofMember?]
  cases v <;> simp [Json.isNull]

theorem sizeOf_param_lt_of_ofMember? {v : Json} {e : Entry} (h : ofMember? v = some e)
    {r : String × Json} (hr : r ∈ e.spec.rules) : sizeOf r.2 < sizeOf v := by
  unfold ofMember? at h
  split at h
  · obtain rfl : {} = e := Option.some.inj h
    simp at hr
  · exact sizeOf_param_lt h hr

end Entry

/-- An entry of an attribute of a resource or of a sub-resource. -/
inductive Document.Declares (doc : Document) (e : Entry) : Prop
  | inResource {name key : String} {entries : Dict Entry}
      (resource : doc.resources.get? name = some entries) (entry : entries.get? key = some e)
  | inSubResource {name key : String} {sub : SubEntry}
      (resource : doc.subResources.get? name = some sub) (entry : sub.attributes.get? key = some e)

namespace LeafKind

/-- Whether the rules of the validator carry a compiled pattern: those of the built-in pattern
validators do. -/
def isPattern : LeafKind → Bool
  | .builtin v => v.isPattern
  | .custom _ => false

/-- The compiled pattern that goes with the parameter of a rule, if there is one. -/
def patternOf (kind : LeafKind) (param : Option Json) : Option Regex :=
  match kind with
  | .builtin v => Rule.patternOf v param
  | .custom _ => none

theorem compile_of_patternOf {kind : LeafKind} {param : Option Json} {c : Regex}
    (h : kind.patternOf param = some c) : LeafValidator.compile param = .ok c := by
  cases kind with
  | custom v => simp [patternOf] at h
  | builtin v =>
    rw [patternOf, Rule.patternOf] at h
    split at h
    · cases hc : LeafValidator.compile param with
      | ok c' =>
        rw [hc] at h
        rw [Option.some.inj h]
      | error fault => simp [hc, Except.toOption] at h
    · simp at h

end LeafKind

/-- A pattern validator takes the parameters that compile. -/
theorem LeafValidator.checkParam_of_isPattern {v : LeafValidator} (h : v.isPattern = true)
    (param : Option Json) : v.checkParam param = (compile param).map fun _ => () := by
  cases v <;> first | rfl | simp [isPattern] at h

theorem Rule.givenParam_ne_null (param : Json) : Rule.givenParam param ≠ some .null := by
  rw [Rule.givenParam]
  cases param <;> simp [Json.isNull]

theorem Rule.ofLeaf?_eq_ok_iff {v : LeafValidator} {param : Option Json} {r : Rule} :
    Rule.ofLeaf? v param = .ok r ↔ v.checkParam param = .ok () ∧ Rule.ofLeaf v param = r := by
  rw [Rule.ofLeaf?]
  cases v.checkParam param <;> simp

namespace Registries

open Traversal

variable {reg : Registries} {path key : String} {e : Entry} {r : String × Json} {rule : Rule}

/-! ## What success says -/

theorem spec_eq_ok_iff {spec : Spec} :
    reg.spec path e = .ok spec ↔
      ∃ convertTo convertListTo rules,
        e.converters?.mapM reg.converters.lookupAll = .ok convertTo ∧
        e.listConverter?.mapM reg.converters.lookupList = .ok convertListTo ∧
        e.spec.rules.mapM (fun r => reg.rule path r.1 r.2) = .ok rules ∧
        { e.spec with convertTo, convertListTo, rules } = spec := by
  rw [Registries.spec, complete]
  simp only [bind_eq_ok_iff, pure, Except.pure, Except.ok.injEq, exists_and_left]

/-- The specification of a member of the parameter of a structured rule. -/
def memberSpec (reg : Registries) (path key : String) (v : Json) : Except ConfigError Spec :=
  match Entry.ofMember? v with
  | none => .error (.malformedDocument (some (path ++ "." ++ key)))
  | some e => reg.spec (path ++ "." ++ key) e

theorem memberSpec_eq_ok_iff {v : Json} {spec : Spec} :
    reg.memberSpec path key v = .ok spec ↔
      ∃ e, Entry.ofMember? v = some e ∧ reg.spec (path ++ "." ++ key) e = .ok spec := by
  rw [memberSpec]
  cases Entry.ofMember? v <;> simp

theorem rule_object {name : String} {kind : StructuredKind} {members : List (String × Json)}
    (hname : reg.validators.lookup name = .ok (.structured kind)) :
    reg.rule path name (.object members) =
      (members.mapM (named (reg.memberSpec path))).map fun specs =>
        .structured kind (Entries.ofPairs specs) := by
  rw [Registries.rule]
  simp only [hname]
  -- The recursion passes on that what it visits is smaller; here that is dropped.
  rw [List.mapM_subtype (g := named (reg.memberSpec path)), List.unattach_attach]
  · rfl
  · rintro ⟨key, v⟩ hm
    rw [named, memberSpec, Entry.ofMember?]
    cases hnull : v.isNull with
    | true => rfl
    | false =>
      rw [if_neg Bool.false_ne_true, if_neg Bool.false_ne_true]
      split
      · rename_i hread
        rw [hread]
        rfl
      · rename_i e hread
        rw [hread, List.mapM_subtype (g := fun r => reg.rule (path ++ "." ++ key) r.1 r.2)
          fun _ _ => rfl, List.unattach_attach]
        rfl

theorem leafRule_eq_ok_iff {kind : LeafKind} {param : Option Json} :
    leafRule path kind param = .ok rule ↔
      (∀ v, kind = .builtin v → v.checkParam param = .ok ()) ∧
        .leaf kind param (kind.patternOf param) = rule := by
  cases kind with
  | custom v => simp [leafRule, Rule.ofCustom, LeafKind.patternOf]
  | builtin v =>
    have hof : leafRule path (.builtin v) param = .ok rule ↔ Rule.ofLeaf? v param = .ok rule := by
      rw [leafRule]
      cases Rule.ofLeaf? v param <;> simp
    rw [hof, Rule.ofLeaf?_eq_ok_iff, Rule.ofLeaf]
    simp [LeafKind.patternOf]

theorem isSome_patternOf {kind : LeafKind} {param : Option Json}
    (h : leafRule path kind param = .ok rule) : (kind.patternOf param).isSome = kind.isPattern := by
  obtain ⟨hcheck, -⟩ := leafRule_eq_ok_iff.1 h
  cases kind with
  | custom v => rfl
  | builtin v =>
    have hpass := hcheck v rfl
    rw [LeafKind.patternOf, LeafKind.isPattern, Rule.patternOf]
    cases hpattern : v.isPattern with
    | false => rfl
    | true =>
      -- The check of the parameter compiles it too, so the pattern cannot be missing.
      rw [LeafValidator.checkParam_of_isPattern hpattern, map_eq_ok_iff] at hpass
      obtain ⟨c, hc, -⟩ := hpass
      rw [hc]
      rfl

/-- What a rule resolves to, by what its name is bound to and the shape of its parameter. -/
theorem rule_eq_ok_iff :
    reg.rule path r.1 r.2 = .ok rule ↔
      (∃ kind, reg.validators.lookup r.1 = .ok (.leaf kind) ∧
        leafRule path kind (Rule.givenParam r.2) = .ok rule) ∨
      (∃ kind, reg.validators.lookup r.1 = .ok (.structured kind) ∧ r.2 = .null ∧
        .structured kind [] = rule) ∨
      ∃ kind members specs, reg.validators.lookup r.1 = .ok (.structured kind) ∧
        r.2 = .object members ∧ members.mapM (named (reg.memberSpec path)) = .ok specs ∧
        .structured kind (Entries.ofPairs specs) = rule := by
  obtain ⟨name, param⟩ := r
  dsimp only
  cases hname : reg.validators.lookup name with
  | error err =>
    rw [Registries.rule]
    simp [hname]
  | ok kind =>
    cases kind with
    | leaf kind =>
      rw [Registries.rule]
      simp [hname]
    | structured kind =>
      cases param with
      | object members =>
        rw [rule_object hname]
        simp [map_eq_ok_iff]
      | _ =>
        rw [Registries.rule]
        simp [hname]

/-! ## Entries inside entries -/

/-- The parameter of a structured rule declares an entry under a key. -/
def Nests (reg : Registries) (r : String × Json) (key : String) (e : Entry) : Prop :=
  ∃ kind members v, reg.validators.lookup r.1 = .ok (.structured kind) ∧ r.2 = .object members ∧
    (key, v) ∈ members ∧ Entry.ofMember? v = some e

/-- The first entry is declared in the parameter of a structured rule of the second one. -/
def Inside (reg : Registries) (e' e : Entry) : Prop := ∃ r ∈ e.spec.rules, ∃ key, reg.Nests r key e'

theorem Nests.sizeOf_param_lt (h : reg.Nests r key e) {r' : String × Json}
    (hr : r' ∈ e.spec.rules) : sizeOf r'.2 < sizeOf r.2 := by
  obtain ⟨kind, members, v, -, hobject, hmem, hread⟩ := h
  have hparam := Entry.sizeOf_param_lt_of_ofMember? hread hr
  have hmember := List.sizeOf_lt_of_mem hmem
  rw [hobject]
  simp only [Json.object.sizeOf_spec, Prod.mk.sizeOf_spec] at hmember ⊢
  omega

/-- Entries nest to a finite depth. -/
theorem wellFounded_inside (reg : Registries) : WellFounded reg.Inside := by
  -- The parameters get smaller on the way inside, so a bound on them bounds the depth.
  have hacc : ∀ n (e : Entry), (∀ r ∈ e.spec.rules, sizeOf r.2 < n) → Acc reg.Inside e := by
    intro n
    induction n with
    | zero =>
      intro e hsmall
      refine ⟨e, ?_⟩
      rintro e' ⟨r, hr, -⟩
      exact absurd (hsmall r hr) (Nat.not_lt_zero _)
    | succ n ih =>
      intro e hsmall
      refine ⟨e, ?_⟩
      rintro e' ⟨r, hr, key, hnests⟩
      refine ih e' fun r' hr' => ?_
      have hlt := hnests.sizeOf_param_lt hr'
      have hle := hsmall r hr
      omega
  refine ⟨fun e => hacc (sizeOf e.spec.rules) e fun r hr => ?_⟩
  have hmem := List.sizeOf_lt_of_mem hr
  obtain ⟨name, param⟩ := r
  simp only [Prod.mk.sizeOf_spec] at hmem ⊢
  omega

/-! ## When resolving succeeds -/

/-- The name of a rule is bound, and the parameter is one that the validator takes. Of the members of
a structured rule only the form is asked for. -/
structure AdmissibleRule (reg : Registries) (r : String × Json) : Prop where
  known : ∃ kind, reg.validators.lookup r.1 = .ok kind
  leafParam : ∀ v, reg.validators.lookup r.1 = .ok (.leaf (.builtin v)) →
    v.checkParam (Rule.givenParam r.2) = .ok ()
  mapping : ∀ kind, reg.validators.lookup r.1 = .ok (.structured kind) →
    r.2 = .null ∨ ∃ members, r.2 = .object members
  entries : ∀ kind members, reg.validators.lookup r.1 = .ok (.structured kind) →
    r.2 = .object members → ∀ m ∈ members, m.2 = .null ∨ ∃ e : Entry, Entry.read? m.2 = some e

/-- The names in an entry are bound and its rules are admissible. -/
structure Admissible (reg : Registries) (e : Entry) : Prop where
  converters : ∀ names, e.converters? = some names → ∀ name ∈ names,
    ∃ c, reg.converters.lookup name = .ok c
  listConverter : ∀ name, e.listConverter? = some name →
    ∃ c, reg.converters.lookupList name = .ok c
  rules : ∀ r ∈ e.spec.rules, reg.AdmissibleRule r

theorem AdmissibleRule.of_rule (h : reg.rule path r.1 r.2 = .ok rule) : reg.AdmissibleRule r := by
  -- What is asked of a rule depends on what its name is bound to, so in each case one clause says
  -- something and the others do not apply.
  rcases rule_eq_ok_iff.1 h with ⟨kind, hname, hleaf⟩ | ⟨kind, hname, hparam, -⟩ |
    ⟨kind, members, specs, hname, hparam, hspecs, -⟩
  · constructor
    case known => exact ⟨_, hname⟩
    case leafParam =>
      intro v hv
      have hkind : kind = .builtin v := by simpa [hname] using hv
      exact (leafRule_eq_ok_iff.1 hleaf).1 v hkind
    all_goals simp [hname]
  · constructor
    case known => exact ⟨_, hname⟩
    all_goals simp [hname, hparam]
  · constructor
    case known => exact ⟨_, hname⟩
    case entries =>
      rintro - members' - hobject m hm
      obtain rfl : members = members' := by simpa [hparam] using hobject
      obtain ⟨spec, hspec⟩ := exists_mapM_named_iff.1 ⟨specs, hspecs⟩ m hm
      obtain ⟨e, he, -⟩ := memberSpec_eq_ok_iff.1 hspec
      exact Entry.exists_ofMember?_iff.1 ⟨e, he⟩
    all_goals simp [hname, hparam]

/-- If a rule resolves then so does each entry that its parameter declares. -/
theorem Nests.exists_spec (h : reg.Nests r key e) (hrule : reg.rule path r.1 r.2 = .ok rule) :
    ∃ spec, reg.spec (path ++ "." ++ key) e = .ok spec := by
  obtain ⟨kind, members, v, hname, hobject, hmem, hread⟩ := h
  rw [hobject, rule_object hname, map_eq_ok_iff] at hrule
  obtain ⟨specs, hspecs, -⟩ := hrule
  obtain ⟨spec, hspec⟩ := exists_mapM_named_iff.1 ⟨specs, hspecs⟩ (key, v) hmem
  obtain ⟨e', he', hspec⟩ := memberSpec_eq_ok_iff.1 hspec
  obtain rfl : e = e' := Option.some.inj (hread.symm.trans he')
  exact ⟨spec, hspec⟩

theorem AdmissibleRule.exists_rule (h : reg.AdmissibleRule r)
    (hnested : ∀ key e, reg.Nests r key e → ∃ spec, reg.spec (path ++ "." ++ key) e = .ok spec) :
    ∃ rule, reg.rule path r.1 r.2 = .ok rule := by
  simp only [rule_eq_ok_iff]
  obtain ⟨kind, hname⟩ := h.known
  cases kind with
  | leaf kind =>
    have hcheck : ∀ v, kind = .builtin v → v.checkParam (Rule.givenParam r.2) = .ok () := by
      rintro v rfl
      exact h.leafParam v hname
    exact ⟨_, Or.inl ⟨kind, hname, leafRule_eq_ok_iff.2 ⟨hcheck, rfl⟩⟩⟩
  | structured kind =>
    rcases h.mapping kind hname with hnull | ⟨members, hobject⟩
    · exact ⟨_, Or.inr (Or.inl ⟨kind, hname, hnull, rfl⟩)⟩
    · have hmembers : ∀ m ∈ members, ∃ spec, reg.memberSpec path m.1 m.2 = .ok spec := by
        intro m hm
        obtain ⟨e, he⟩ := Entry.exists_ofMember?_iff.2 (h.entries kind members hname hobject m hm)
        obtain ⟨spec, hspec⟩ := hnested m.1 e ⟨kind, members, m.2, hname, hobject, hm, he⟩
        exact ⟨spec, memberSpec_eq_ok_iff.2 ⟨e, he, hspec⟩⟩
      obtain ⟨specs, hspecs⟩ := exists_mapM_named_iff.2 hmembers
      exact ⟨_, Or.inr (Or.inr ⟨kind, members, specs, hname, hobject, hspecs, rfl⟩)⟩

/-- An entry resolves if it is admissible and the entries directly inside it resolve. -/
theorem exists_spec_iff :
    (∃ spec, reg.spec path e = .ok spec) ↔
      reg.Admissible e ∧ ∀ r ∈ e.spec.rules, ∀ key e', reg.Nests r key e' →
        ∃ spec, reg.spec (path ++ "." ++ key) e' = .ok spec := by
  constructor
  · rintro ⟨spec, hspec⟩
    obtain ⟨convertTo, convertListTo, rules, hconvertTo, hconvertListTo, hrules, -⟩ :=
      spec_eq_ok_iff.1 hspec
    have hrule := exists_mapM_eq_ok_iff.1 ⟨rules, hrules⟩
    constructor
    · constructor
      case converters =>
        intro names hnames
        have hall := exists_mapM_option_eq_ok_iff.1 ⟨convertTo, hconvertTo⟩ names hnames
        exact exists_mapM_eq_ok_iff.1 hall
      case listConverter =>
        exact exists_mapM_option_eq_ok_iff.1 ⟨convertListTo, hconvertListTo⟩
      case rules =>
        intro r hr
        obtain ⟨rule, h⟩ := hrule r hr
        exact .of_rule h
    · intro r hr key e' hnests
      obtain ⟨rule, h⟩ := hrule r hr
      exact hnests.exists_spec h
  · rintro ⟨hadmissible, hnested⟩
    obtain ⟨convertTo, hconvertTo⟩ := exists_mapM_option_eq_ok_iff.2 fun names hnames =>
      exists_mapM_eq_ok_iff.2 (hadmissible.converters names hnames)
    obtain ⟨convertListTo, hconvertListTo⟩ :=
      exists_mapM_option_eq_ok_iff.2 hadmissible.listConverter
    obtain ⟨rules, hrules⟩ := exists_mapM_eq_ok_iff.2 fun r hr =>
      (hadmissible.rules r hr).exists_rule (hnested r hr)
    exact ⟨_, spec_eq_ok_iff.2
      ⟨convertTo, convertListTo, rules, hconvertTo, hconvertListTo, hrules, rfl⟩⟩

/-- An entry resolves if it and all entries inside it are admissible, at every depth. -/
theorem exists_spec_iff_forall_inside :
    (∃ spec, reg.spec path e = .ok spec) ↔
      ∀ e', Relation.ReflTransGen reg.Inside e' e → reg.Admissible e' := by
  -- The path is only used to say where an error is; on the way inside it grows.
  induction e using reg.wellFounded_inside.induction generalizing path with
  | h e ih =>
  rw [exists_spec_iff]
  constructor
  · rintro ⟨hadmissible, hnested⟩ e' hreach
    rcases hreach.cases_tail with rfl | ⟨e₁, hrest, r, hr, key, hnests⟩
    · exact hadmissible
    · exact (ih e₁ ⟨r, hr, key, hnests⟩).1 (hnested r hr key e₁ hnests) e' hrest
  · intro hall
    refine ⟨hall e .refl, fun r hr key e₁ hnests => ?_⟩
    exact (ih e₁ ⟨r, hr, key, hnests⟩).2 fun e' hreach =>
      hall e' (hreach.tail ⟨r, hr, key, hnests⟩)

/-! ## What is resolved -/

mutual

/-- A specification says what an entry declares, with the converters and rules that the names in it
are bound to, at every depth. -/
inductive Resolves (reg : Registries) : Entry → Spec → Prop
  | intro {e : Entry} {convertTo : Option (List Converter)} {convertListTo : Option ListConverter}
      {rules : List Rule}
      (converters : Option.Rel (List.Forall₂ fun name c => reg.converters.lookup name = .ok c)
        e.converters? convertTo)
      (listConverter : Option.Rel (fun name c => reg.converters.lookupList name = .ok c)
        e.listConverter? convertListTo)
      (inOrder : List.Forall₂ (ResolvesRule reg) e.spec.rules rules) :
      Resolves reg e { e.spec with convertTo, convertListTo, rules }

/-- A rule is of the kind that its name is bound to. A leaf rule never has null as its parameter, and
it carries a pattern, the compiled parameter, if it is a built-in pattern rule. A structured rule has
the keys of its parameter. -/
inductive ResolvesRule (reg : Registries) : String × Json → Rule → Prop
  | leaf {r : String × Json} {kind : LeafKind} {param : Option Json} {regex : Option Regex}
      (bound : reg.validators.lookup r.1 = .ok (.leaf kind))
      (given : param = Rule.givenParam r.2) (notNull : param ≠ some .null)
      (pattern : regex.isSome = kind.isPattern)
      (compiled : ∀ c, regex = some c → LeafValidator.compile param = .ok c) :
      ResolvesRule reg r (.leaf kind param regex)
  | structured {r : String × Json} {kind : StructuredKind} {specs : List (String × Spec)}
      (bound : reg.validators.lookup r.1 = .ok (.structured kind))
      (ascending : Entries.Ascending specs)
      (keys : ∀ key, key ∈ specs.map Prod.fst ↔
        ∃ members, r.2 = .object members ∧ key ∈ Members.keys members)
      (members : ∀ m ∈ specs, ResolvesMember reg r m.1 m.2) :
      ResolvesRule reg r (.structured kind specs)

/-- A specification says what an entry declares that the parameter of the rule holds under the key. -/
inductive ResolvesMember (reg : Registries) : String × Json → String → Spec → Prop
  | intro {r : String × Json} {key : String} {e : Entry} {spec : Spec}
      (declared : reg.Nests r key e) (resolved : Resolves reg e spec) :
      ResolvesMember reg r key spec

end

theorem ResolvesRule.of_rule (h : reg.rule path r.1 r.2 = .ok rule)
    (hnested : ∀ key e spec, reg.Nests r key e → reg.spec (path ++ "." ++ key) e = .ok spec →
      reg.Resolves e spec) : reg.ResolvesRule r rule := by
  rcases rule_eq_ok_iff.1 h with ⟨kind, hname, hleaf⟩ | ⟨kind, hname, hparam, rfl⟩ |
    ⟨kind, members, specs, hname, hparam, hspecs, rfl⟩
  · obtain ⟨-, rfl⟩ := leafRule_eq_ok_iff.1 hleaf
    exact .leaf hname rfl (Rule.givenParam_ne_null _) (isSome_patternOf hleaf)
      fun c => LeafKind.compile_of_patternOf
  · exact .structured hname List.Pairwise.nil (by simp [hparam]) (by simp)
  · -- Putting the members in order keeps their keys; each one that is left was read from the object.
    refine .structured hname (Entries.Ascending.ofPairs specs) (fun key => ?_) fun p hp => ?_
    · rw [Entries.mem_keys_ofPairs_iff, map_fst_of_mapM_named hspecs]
      simp [hparam, Members.keys]
    · obtain ⟨m, hm, hstep⟩ := exists_of_mem_mapM hspecs (Entries.mem_of_mem_ofPairs hp)
      obtain ⟨hkey, hmember⟩ := named_eq_ok_iff.1 hstep
      obtain ⟨e, he, hspec⟩ := memberSpec_eq_ok_iff.1 hmember
      have hnests : reg.Nests r m.1 e := ⟨kind, members, m.2, hname, hparam, hm, he⟩
      rw [hkey]
      exact .intro hnests (hnested m.1 e p.2 hnests hspec)

theorem Resolves.of_spec {spec : Spec} (h : reg.spec path e = .ok spec) : reg.Resolves e spec := by
  induction e using reg.wellFounded_inside.induction generalizing path spec with
  | h e ih =>
  obtain ⟨convertTo, convertListTo, rules, hconvertTo, hconvertListTo, hrules, rfl⟩ :=
    spec_eq_ok_iff.1 h
  have hrule : List.Forall₂ reg.ResolvesRule e.spec.rules rules := by
    -- The induction hypothesis asks for rules of the entry, so each one is kept with that fact.
    have hall := (List.forall₂_and_left _ _).2 ⟨fun r hr => hr, mapM_eq_ok_iff.1 hrules⟩
    refine hall.imp fun r rule hr => .of_rule hr.2 fun key e' spec hnests hspec => ?_
    exact ih e' ⟨r, hr.1, key, hnests⟩ hspec
  have hconverters := mapM_option_eq_ok_iff.1 hconvertTo
  simp only [ConverterRegistry.lookupAll, mapM_eq_ok_iff] at hconverters
  exact .intro hconverters (mapM_option_eq_ok_iff.1 hconvertListTo) hrule

/-! ## Documents -/

/-- The attributes of a schema are those that are declared, under the same names. -/
structure ResolvesSchema (reg : Registries) (name : String) (entries : Dict Entry)
    (schema : Schema) : Prop where
  resource : schema.resource = name
  attributes : ∀ key, Option.Rel reg.Resolves (entries.get? key) (schema.attributes.get? key)

/-- A sub-resource has the parent and the attributes that are declared. -/
structure ResolvesSub (reg : Registries) (name : String) (entry : SubEntry)
    (sub : SubResource) : Prop where
  parent : sub.parent = entry.parent
  schema : reg.ResolvesSchema name entry.attributes sub.schema

/-- The schemas are those that the document declares, under the same names. -/
structure ResolvesSet (reg : Registries) (doc : Document) (set : SchemaSet) : Prop where
  resources : ∀ name, Option.Rel (reg.ResolvesSchema name) (doc.resources.get? name)
    (set.resources.get? name)
  subResources : ∀ name, Option.Rel (reg.ResolvesSub name) (doc.subResources.get? name)
    (set.subResources.get? name)

variable {entries : Dict Entry} {doc : Document} {set : SchemaSet} {name : String}

/-- The schema of a resource. -/
def schema (reg : Registries) (name : String) (entries : Dict Entry) : Except ConfigError Schema :=
  (reg.attributes name entries).map fun attributes => { resource := name, attributes }

/-- A sub-resource with its schema. -/
def subResource (reg : Registries) (name : String) (entry : SubEntry) :
    Except ConfigError SubResource :=
  (reg.schema name entry.attributes).map fun schema => { parent := entry.parent, schema }

theorem attributes_eq (reg : Registries) (path : String) (entries : Dict Entry) :
    reg.attributes path entries =
      (entries.entries.mapM (named fun key e => reg.spec (path ++ "." ++ key) e)).map
        Dict.ofPairs := rfl

theorem schemaSet_eq (reg : Registries) (doc : Document) :
    reg.schemaSet doc = do
      let resources ← doc.resources.entries.mapM (named reg.schema)
      let subResources ← doc.subResources.entries.mapM (named reg.subResource)
      return ⟨Dict.ofPairs resources, Dict.ofPairs subResources⟩ := by
  have hschema : named reg.schema = fun m => do
      let attributes ← reg.attributes m.1 m.2
      return (m.1, { resource := m.1, attributes }) := by
    funext m
    rw [named, schema]
    cases reg.attributes m.1 m.2 <;> rfl
  have hsub : named reg.subResource = fun m => do
      let attributes ← reg.attributes m.1 m.2.attributes
      return (m.1, { parent := m.2.parent, schema := { resource := m.1, attributes } }) := by
    funext m
    rw [named, subResource, schema]
    cases reg.attributes m.1 m.2.attributes <;> rfl
  rw [hschema, hsub]
  rfl

theorem schemaSet_eq_ok_iff :
    reg.schemaSet doc = .ok set ↔
      ∃ resources subResources,
        doc.resources.entries.mapM (named reg.schema) = .ok resources ∧
        doc.subResources.entries.mapM (named reg.subResource) = .ok subResources ∧
        ⟨Dict.ofPairs resources, Dict.ofPairs subResources⟩ = set := by
  rw [schemaSet_eq]
  simp only [bind_eq_ok_iff, pure, Except.pure, Except.ok.injEq, exists_and_left]

theorem ResolvesSchema.of_schema {s : Schema} (h : reg.schema name entries = .ok s) :
    reg.ResolvesSchema name entries s := by
  obtain ⟨specs, hspecs, rfl⟩ := map_eq_ok_iff.1 h
  rw [attributes_eq] at hspecs
  obtain ⟨ps, hps, rfl⟩ := map_eq_ok_iff.1 hspecs
  exact ⟨rfl, fun key => Dict.rel_get?_of_mapM_named hps fun _ _ => .of_spec⟩

theorem ResolvesSub.of_subResource {entry : SubEntry} {sub : SubResource}
    (h : reg.subResource name entry = .ok sub) : reg.ResolvesSub name entry sub := by
  obtain ⟨schema, hschema, rfl⟩ := map_eq_ok_iff.1 h
  exact ⟨rfl, .of_schema hschema⟩

theorem ResolvesSet.of_schemaSet (h : reg.schemaSet doc = .ok set) : reg.ResolvesSet doc set := by
  obtain ⟨resources, subResources, hresources, hsubs, rfl⟩ := schemaSet_eq_ok_iff.1 h
  constructor
  · intro name
    exact Dict.rel_get?_of_mapM_named hresources fun _ _ => .of_schema
  · intro name
    exact Dict.rel_get?_of_mapM_named hsubs fun _ _ => .of_subResource

theorem exists_schema_iff :
    (∃ s, reg.schema name entries = .ok s) ↔
      ∀ key e, entries.get? key = some e →
        ∀ e', Relation.ReflTransGen reg.Inside e' e → reg.Admissible e' := by
  rw [schema, exists_map_eq_ok_iff, attributes_eq, exists_map_eq_ok_iff, Dict.exists_mapM_named_iff]
  exact forall₃_congr fun key e _ => exists_spec_iff_forall_inside

theorem exists_schemaSet_iff :
    (∃ set, reg.schemaSet doc = .ok set) ↔
      ∀ e, doc.Declares e → ∀ e', Relation.ReflTransGen reg.Inside e' e → reg.Admissible e' := by
  have hpairs : (∃ set, reg.schemaSet doc = .ok set) ↔
      (∃ rs, doc.resources.entries.mapM (named reg.schema) = .ok rs) ∧
        ∃ ss, doc.subResources.entries.mapM (named reg.subResource) = .ok ss := by
    simp only [schemaSet_eq_ok_iff]
    constructor
    · rintro ⟨-, rs, ss, hrs, hss, -⟩
      exact ⟨⟨rs, hrs⟩, ss, hss⟩
    · rintro ⟨⟨rs, hrs⟩, ss, hss⟩
      exact ⟨_, rs, ss, hrs, hss, rfl⟩
  rw [hpairs, Dict.exists_mapM_named_iff, Dict.exists_mapM_named_iff]
  simp only [subResource, exists_map_eq_ok_iff, exists_schema_iff]
  constructor
  · rintro ⟨hresources, hsubs⟩ e (⟨hresource, hentry⟩ | ⟨hresource, hentry⟩)
    · exact hresources _ _ hresource _ e hentry
    · exact hsubs _ _ hresource _ e hentry
  · intro hall
    exact ⟨fun _ _ hresource _ e hentry => hall e (.inResource hresource hentry),
      fun _ _ hresource _ e hentry => hall e (.inSubResource hresource hentry)⟩

/-- **Documents are resolved soundly and completely.** A document resolves if and only if every entry
in it is admissible, at every depth; and what it resolves to says what the document declares, at every
depth. -/
theorem schemaSet_iff_admissible_and_resolves (reg : Registries) (doc : Document) :
    ((∃ set, reg.schemaSet doc = .ok set) ↔
      ∀ e, doc.Declares e → ∀ e', Relation.ReflTransGen reg.Inside e' e → reg.Admissible e') ∧
    ∀ set, reg.schemaSet doc = .ok set → reg.ResolvesSet doc set :=
  ⟨exists_schemaSet_iff, fun _ => .of_schemaSet⟩

/-- A port with a binding, whose members are a name of bounded length and a mode. -/
def portDocument : Document where
  resources := Dict.ofPairs [("ports", Dict.ofPairs [("binding",
    { spec := { rules := [("type:dict", .object
      [("name", .object [("validate", .object [("type:string", .number (.integer 5))])]),
        ("mode", .null)])] } })])]
  subResources := ∅

theorem schemaSet_portDocument :
    ∃ set, schemaSet ⟨{}, {}⟩ portDocument = .ok set ∧ ResolvesSet ⟨{}, {}⟩ portDocument set := by
  have hok : (schemaSet ⟨{}, {}⟩ portDocument).isOk = true := by decide +kernel
  cases hset : schemaSet ⟨{}, {}⟩ portDocument with
  | ok set =>
    exact ⟨set, rfl, (schemaSet_iff_admissible_and_resolves _ portDocument).2 set hset⟩
  | error err =>
    rw [hset] at hok
    cases hok

end Registries

end AttributeSchema
