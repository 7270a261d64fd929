import AttributeSchema.Document.Format
import AttributeSchema.Proofs.Document.Resolution

/-!
# The effect of an extension

An extension adds attributes to the schemas that its resources name, in the order of the names, and
then its sub-resources. It stops at the first name that is unknown, and what was added before that
stays. Whatever is done to a schema set, each schema in it stands under the name of its own
resource. Main statement: `Registries.extendBy_effect`.
-/

namespace AttributeSchema

/-! ## Attributes added to a schema -/

namespace Schema

variable {schema schema₁ schema₂ : Schema} {added added₁ added₂ : Option (Dict Spec)}

/-- Attributes are added to a schema; one that it has already is replaced. -/
structure Extended (added : Dict Spec) (schema schema' : Schema) : Prop where
  resource : schema'.resource = schema.resource
  attributes : ∀ key, schema'.attributes.get? key =
    (added.get? key).or (schema.attributes.get? key)

/-- A schema is extended if there is anything to add, and stays as it is otherwise. -/
def Merged (added : Option (Dict Spec)) (schema schema' : Schema) : Prop :=
  match added with
  | none => schema' = schema
  | some added => Extended added schema schema'

theorem extended_extend (schema : Schema) (added : Dict Spec) :
    Extended added schema (schema.extend added) := ⟨rfl, Dict.get?_union _ _⟩

theorem merged_none (schema : Schema) : Merged none schema schema := rfl

theorem Merged.resource (h : Merged added schema schema₁) : schema₁.resource = schema.resource := by
  cases added with
  | none => rw [show schema₁ = schema from h]
  | some added => exact Extended.resource h

/-- Two additions, one of which is empty, are one. -/
theorem Merged.trans (h₁ : Merged added₁ schema schema₁) (h₂ : Merged added₂ schema₁ schema₂)
    (hone : added₁ = none ∨ added₂ = none) : Merged (added₁.or added₂) schema schema₂ := by
  rcases hone with rfl | rfl
  · obtain rfl : schema₁ = schema := h₁
    exact h₂
  · obtain rfl : schema₂ = schema₁ := h₂
    rwa [Option.or_none]

end Schema

/-- The schema of a sub-resource is extended, and its parent is kept. -/
structure SubResource.Merged (added : Option (Dict Spec)) (sub sub' : SubResource) : Prop where
  parent : sub'.parent = sub.parent
  schema : Schema.Merged added sub.schema sub'.schema

theorem SubResource.merged_none (sub : SubResource) : Merged none sub sub :=
  ⟨rfl, sub.schema.merged_none⟩

namespace SchemaSet

open Traversal (isSome_eq_of_rel rel_self rel_trans exists_of_rel_some)

variable {set set' set₁ set₂ ext : SchemaSet} {name : String}

/-! ## Attributes added to a schema set -/

/-- Whether a resource or a sub-resource has the name. -/
def knows (set : SchemaSet) (name : String) : Bool :=
  set.resources.contains name || set.subResources.contains name

/-- Attributes are added to the schemas that have the names. A sub-resource is out of reach under
the name of a resource. -/
structure Merged (added : String → Option (Dict Spec)) (set set' : SchemaSet) : Prop where
  resources : ∀ name, Option.Rel (Schema.Merged (added name))
    (set.resources.get? name) (set'.resources.get? name)
  subResources : ∀ name,
    Option.Rel (SubResource.Merged (if set.resources.contains name then none else added name))
      (set.subResources.get? name) (set'.subResources.get? name)

namespace Merged

variable {added added₁ added₂ : String → Option (Dict Spec)}

theorem refl (set : SchemaSet) : Merged (fun _ => none) set set := by
  constructor
  · exact fun name => rel_self Schema.merged_none _
  · intro name
    rw [ite_self]
    exact rel_self SubResource.merged_none _

theorem contains_resources (h : Merged added set set') (name : String) :
    set'.resources.contains name = set.resources.contains name :=
  isSome_eq_of_rel (h.resources name)

theorem knows_eq (h : Merged added set set') (name : String) :
    set'.knows name = set.knows name := by
  rw [knows, knows, h.contains_resources, Dict.contains_eq set'.subResources,
    isSome_eq_of_rel (h.subResources name), Dict.contains_eq set.subResources]

/-- What is added under different names is added in one go. -/
theorem trans (h₁ : Merged added₁ set set₁) (h₂ : Merged added₂ set₁ set₂)
    (hone : ∀ name, added₁ name = none ∨ added₂ name = none) :
    Merged (fun name => (added₁ name).or (added₂ name)) set set₂ := by
  constructor
  · intro name
    exact rel_trans (h₁.resources name) (h₂.resources name) fun _ _ _ h h' =>
      h.trans h' (hone name)
  · intro name
    have hsub := h₂.subResources name
    rw [h₁.contains_resources] at hsub
    refine rel_trans (h₁.subResources name) hsub fun _ _ _ h h' => ?_
    have hor : (if set.resources.contains name then none else (added₁ name).or (added₂ name)) =
        (if set.resources.contains name then none else added₁ name).or
          (if set.resources.contains name then none else added₂ name) := by
      split <;> rfl
    rw [hor]
    refine ⟨h'.parent.trans h.parent, h.schema.trans h'.schema ?_⟩
    split
    case isTrue => exact Or.inl rfl
    case isFalse => exact hone name

end Merged

/-! ## One name -/

theorem merged_of_resource {schema : Schema} (hresource : set.resources.get? name = some schema)
    (attributes : Dict Spec) :
    Merged (fun k => if k = name then some attributes else none) set
      { set with resources := set.resources.insert name (schema.extend attributes) } := by
  constructor
  · intro k
    rw [Dict.get?_insert]
    by_cases hk : k = name
    · rw [if_pos hk, if_pos hk, hk, hresource]
      exact .some (schema.extended_extend attributes)
    · rw [if_neg hk, if_neg hk]
      exact rel_self Schema.merged_none _
  · intro k
    have hnone : (if set.resources.contains k then none
        else if k = name then some attributes else none) = none := by
      by_cases hk : k = name
      · rw [hk, Dict.contains_eq, hresource]
        rfl
      · rw [if_neg hk, ite_self]
    rw [hnone]
    exact rel_self SubResource.merged_none _

theorem merged_of_subResource {sub : SubResource} (hresource : set.resources.get? name = none)
    (hsub : set.subResources.get? name = some sub) (attributes : Dict Spec) :
    Merged (fun k => if k = name then some attributes else none) set
      { set with
        subResources := set.subResources.insert name
          { sub with schema := sub.schema.extend attributes } } := by
  constructor
  · intro k
    by_cases hk : k = name
    · rw [hk, hresource]
      exact .none
    · rw [if_neg hk]
      exact rel_self Schema.merged_none _
  · intro k
    rw [Dict.get?_insert]
    by_cases hk : k = name
    · rw [if_pos hk, if_pos hk, hk, hsub, Dict.contains_eq, hresource]
      exact .some ⟨rfl, sub.schema.extended_extend attributes⟩
    · rw [if_neg hk, if_neg hk, ite_self]
      exact rel_self SubResource.merged_none _

theorem extend_of_knows (h : set.knows name = true) (attributes : Dict Spec) :
    ∃ set', set.extend name attributes = .ok set' ∧
      Merged (fun k => if k = name then some attributes else none) set set' := by
  rw [extend]
  cases hresource : set.resources.get? name with
  | some schema => exact ⟨_, rfl, merged_of_resource hresource attributes⟩
  | none =>
    cases hsub : set.subResources.get? name with
    | some sub => exact ⟨_, rfl, merged_of_subResource hresource hsub attributes⟩
    | none => simp [knows, Dict.contains_eq, hresource, hsub] at h

theorem extend_of_not_knows (h : set.knows name = false) (attributes : Dict Spec) :
    set.extend name attributes = .error (.unknownResource name) := by
  rw [knows, Bool.or_eq_false_iff, Dict.contains_eq, Dict.contains_eq, Option.isSome_eq_false_iff,
    Option.isSome_eq_false_iff, Option.isNone_iff_eq_none, Option.isNone_iff_eq_none] at h
  rw [extend, h.1, h.2]

/-! ## Names in turn -/

/-- What entries add to the schema of each name. -/
def additions (es : List (String × Schema)) (name : String) : Option (Dict Spec) :=
  (es.lookup name).map (·.attributes)

theorem extendAll_append_of_knows {pre : List (String × Schema)}
    (hdistinct : pre.Pairwise fun a b => a.1 ≠ b.1) (hknown : ∀ m ∈ pre, set.knows m.1 = true) :
    ∃ set', Merged (additions pre) set set' ∧
      ∀ post, set.extendAll (pre ++ post) = set'.extendAll post := by
  induction pre generalizing set with
  | nil => exact ⟨set, .refl set, fun _ => rfl⟩
  | cons m pre ih =>
    obtain ⟨name, schema⟩ := m
    obtain ⟨hname, hdistinct⟩ := List.pairwise_cons.1 hdistinct
    obtain ⟨hhead, hknown⟩ := List.forall_mem_cons.1 hknown
    obtain ⟨set₁, hextend, hmerged₁⟩ := extend_of_knows hhead schema.attributes
    obtain ⟨set₂, hmerged₂, hrest⟩ := ih hdistinct fun m hm => by
      rw [hmerged₁.knows_eq]
      exact hknown m hm
    have hlater : additions pre name = none := by
      rw [additions, Entries.lookup_eq_none_iff.2 fun e he heq => hname e he heq.symm]
      rfl
    have hadded : additions ((name, schema) :: pre) = fun k =>
        (if k = name then some schema.attributes else none).or (additions pre k) := by
      funext k
      rw [additions, List.lookup_cons]
      by_cases hk : k = name
      · simp [hk]
      · have hb : (k == name) = false := by simpa using hk
        simp [hk, hb, additions]
    refine ⟨set₂, ?_, fun post => ?_⟩
    · rw [hadded]
      refine hmerged₁.trans hmerged₂ fun k => ?_
      by_cases hk : k = name
      · exact Or.inr (hk ▸ hlater)
      · exact Or.inl (if_neg hk)
    · rw [List.cons_append, extendAll, hextend]
      exact hrest post

/-! ## Sub-resources and names -/

/-- Each schema stands under the name of its own resource. -/
structure Filed (set : SchemaSet) : Prop where
  resources : ∀ name schema, set.resources.get? name = some schema → schema.resource = name
  subResources : ∀ name sub, set.subResources.get? name = some sub → sub.schema.resource = name

theorem filed_empty : Filed ∅ := ⟨nofun, nofun⟩

theorem Filed.merged {added : String → Option (Dict Spec)} (h : set.Filed)
    (hmerged : Merged added set set') : set'.Filed := by
  constructor
  · intro name schema' hschema'
    have hrel := hmerged.resources name
    rw [hschema'] at hrel
    obtain ⟨schema, hschema, hs⟩ := exists_of_rel_some hrel
    rw [hs.resource, h.resources name schema hschema]
  · intro name sub' hsub'
    have hrel := hmerged.subResources name
    rw [hsub'] at hrel
    obtain ⟨sub, hsub, hs⟩ := exists_of_rel_some hrel
    rw [hs.schema.resource, h.subResources name sub hsub]

theorem foldl_insertSubResource {es : List (String × SubResource)}
    (h : ∀ e ∈ es, e.2.schema.resource = e.1) (set : SchemaSet) :
    es.foldl (fun set (_, sub) => set.insertSubResource sub) set =
      { set with subResources := es.foldl (fun d (k, v) => d.insert k v) set.subResources } := by
  induction es generalizing set with
  | nil => rfl
  | cons e es ih =>
    obtain ⟨name, sub⟩ := e
    obtain ⟨hname, hes⟩ := List.forall_mem_cons.1 h
    obtain rfl : sub.schema.resource = name := hname
    rw [List.foldl_cons, ih hes]
    rfl

/-! ## A whole extension -/

/-- A resource of the extension has a name that is unknown. -/
structure Missing (set ext : SchemaSet) (name : String) : Prop where
  named : ext.resources.contains name = true
  unknown : set.knows name = false

/-- All of an extension was added: the attributes of its resources, and then its sub-resources, each
of them in place of one of the same name. -/
def Absorbed (set ext set' : SchemaSet) : Prop :=
  ∃ set₁, Merged (additions ext.resources.entries) set set₁ ∧ set'.resources = set₁.resources ∧
    ∀ name, set'.subResources.get? name =
      (ext.subResources.get? name).or (set₁.subResources.get? name)

/-- The first unknown name stopped an extension, so only the attributes under the names before it
were added. -/
structure StoppedAt (set ext set' : SchemaSet) (name : String) : Prop where
  missing : set.Missing ext name
  first : ∀ name', set.Missing ext name' → ¬ name' < name
  merged : Merged (fun k => if k < name then additions ext.resources.entries k else none) set set'

theorem absorb_of_knows (hext : ext.Filed)
    (hknown : ∀ name, ext.resources.contains name = true → set.knows name = true) :
    ∃ set', set.absorb ext = (set', none) ∧ Absorbed set ext set' := by
  have hall : ∀ m ∈ ext.resources.entries, set.knows m.1 = true := fun m hm =>
    hknown m.1 (Dict.mem_keys_iff.1 (List.mem_map_of_mem hm))
  obtain ⟨set₁, hmerged, hrun⟩ := extendAll_append_of_knows ext.resources.ascending.pairwise_ne hall
  have hextend : set.extendAll ext.resources.entries = (set₁, none) := by
    rw [← List.append_nil ext.resources.entries, hrun]
    rfl
  have hfiled : ∀ e ∈ ext.subResources.entries, e.2.schema.resource = e.1 := fun e he =>
    hext.subResources e.1 e.2 (Dict.mem_entries_iff.1 he)
  refine ⟨{ set₁ with subResources := set₁.subResources.union ext.subResources }, ?_, set₁,
    hmerged, rfl, Dict.get?_union set₁.subResources ext.subResources⟩
  rw [absorb, hextend]
  dsimp only
  rw [foldl_insertSubResource hfiled]
  rfl

/-- The entries before a name are those of the smaller names. -/
theorem lookup_of_ascending {pre post : List (String × Schema)} {m : String × Schema}
    (h : Entries.Ascending (pre ++ m :: post)) (k : String) :
    pre.lookup k = if k < m.1 then (pre ++ m :: post).lookup k else none := by
  obtain ⟨-, hpost, hpre⟩ := List.pairwise_append.1 h
  split
  case isTrue hk =>
    have hnone : (m :: post).lookup k = none := by
      refine Entries.lookup_eq_none_of_lt (List.forall_mem_cons.2 ⟨hk, fun e he => ?_⟩)
      exact String.lt_trans hk ((List.pairwise_cons.1 hpost).1 e he)
    rw [List.lookup_append, hnone, Option.or_none]
  case isFalse hk =>
    refine Entries.lookup_eq_none_iff.2 fun e he heq => hk ?_
    rw [← heq]
    exact hpre e he m List.mem_cons_self

theorem exists_first_missing (h : ¬ ∀ name, ext.resources.contains name = true →
    set.knows name = true) :
    ∃ pre m post, ext.resources.entries = pre ++ m :: post ∧
      (∀ m' ∈ pre, set.knows m'.1 = true) ∧ set.knows m.1 = false := by
  cases hfind : ext.resources.entries.find? fun m => !set.knows m.1 with
  | none =>
    refine absurd (fun name hname => ?_) h
    obtain ⟨m, hm, rfl⟩ := List.mem_map.1 (Dict.mem_keys_iff.2 hname)
    simpa using List.find?_eq_none.1 hfind m hm
  | some m =>
    obtain ⟨hm, pre, post, hsplit, hpre⟩ := List.find?_eq_some_iff_append.1 hfind
    exact ⟨pre, m, post, hsplit, fun m' hm' => by simpa using hpre m' hm', by simpa using hm⟩

theorem absorb_of_split {pre post : List (String × Schema)} {m : String × Schema}
    (hsplit : ext.resources.entries = pre ++ m :: post)
    (hpre : ∀ m' ∈ pre, set.knows m'.1 = true) (hunknown : set.knows m.1 = false) :
    ∃ set', set.absorb ext = (set', some (.unknownResource m.1)) ∧
      StoppedAt set ext set' m.1 := by
  have hasc := ext.resources.ascending
  rw [hsplit] at hasc
  have hdistinct : pre.Pairwise fun a b => a.1 ≠ b.1 :=
    (List.pairwise_append.1 hasc.pairwise_ne).1
  obtain ⟨set', hmerged, hrun⟩ := extendAll_append_of_knows hdistinct hpre
  have hextend : set.extendAll ext.resources.entries = (set', some (.unknownResource m.1)) := by
    rw [hsplit, hrun, extendAll, extend_of_not_knows]
    rw [hmerged.knows_eq, hunknown]
  refine ⟨set', by rw [absorb, hextend], ?_⟩
  constructor
  case missing =>
    refine ⟨Dict.mem_keys_iff.1 (List.mem_map_of_mem ?_), hunknown⟩
    simp [hsplit]
  case first =>
    -- A smaller name of the extension stands before, where all names are known.
    intro name hname hlt
    obtain ⟨schema, hget⟩ := Option.isSome_iff_exists.1 hname.named
    have hlookup := lookup_of_ascending hasc name
    rw [if_pos hlt, ← hsplit] at hlookup
    have hmem := (Entries.lookup_eq_some_iff hdistinct).1 (hlookup.trans hget)
    simpa [hname.unknown] using hpre _ hmem
  case merged =>
    have hadded : (fun k => if k < m.1 then additions ext.resources.entries k else none) =
        additions pre := by
      funext k
      rw [additions, additions, lookup_of_ascending hasc k, ← hsplit]
      split <;> rfl
    rw [hadded]
    exact hmerged

theorem absorb_of_missing (h : ¬ ∀ name, ext.resources.contains name = true →
    set.knows name = true) :
    ∃ set' name, set.absorb ext = (set', some (.unknownResource name)) ∧
      StoppedAt set ext set' name := by
  obtain ⟨pre, m, post, hsplit, hpre, hunknown⟩ := exists_first_missing h
  obtain ⟨set', habsorb, hstopped⟩ := absorb_of_split hsplit hpre hunknown
  exact ⟨set', m.1, habsorb, hstopped⟩

theorem Filed.absorbed (h : set.Filed) (hext : ext.Filed) (habsorbed : Absorbed set ext set') :
    set'.Filed := by
  obtain ⟨set₁, hmerged, hresources, hsubs⟩ := habsorbed
  have hfiled := h.merged hmerged
  constructor
  · rw [hresources]
    exact hfiled.resources
  · intro name sub hsub
    rw [hsubs, Option.or_eq_some_iff] at hsub
    rcases hsub with hnew | ⟨-, hold⟩
    · exact hext.subResources name sub hnew
    · exact hfiled.subResources name sub hold

/-- The operations on a schema set. -/
inductive Operation where
  | insertResource (schema : Schema)
  | insertSubResource (sub : SubResource)
  | extend (name : String) (attributes : Dict Spec)
  | extendBy (reg : Registries) (text : String)

/-- What an operation leaves, whether it succeeds or not. -/
def Operation.apply (set : SchemaSet) : Operation → SchemaSet
  | .insertResource schema => set.insertResource schema
  | .insertSubResource sub => set.insertSubResource sub
  | .extend name attributes => (set.extend name attributes).toOption.getD set
  | .extendBy reg text => (reg.extendBy set text).1

end SchemaSet

namespace Registries

open SchemaSet

variable {reg : Registries} {set ext : SchemaSet} {text : String}

theorem filed_of_schemaSet {doc : Document} (h : reg.schemaSet doc = .ok ext) : ext.Filed := by
  have hresolves := ResolvesSet.of_schemaSet h
  constructor
  · intro name schema hschema
    have hrel := hresolves.resources name
    rw [hschema] at hrel
    obtain ⟨entries, -, hs⟩ := Traversal.exists_of_rel_some hrel
    exact hs.resource
  · intro name sub hsub
    have hrel := hresolves.subResources name
    rw [hsub] at hrel
    obtain ⟨entry, -, hs⟩ := Traversal.exists_of_rel_some hrel
    exact hs.schema.resource

theorem filed_of_load {τ : Type} [Source τ] {source? : Option τ}
    (h : reg.load source? = .ok ext) : ext.Filed := by
  rw [load] at h
  split at h
  case h_1 => exact filed_of_schemaSet h
  case h_2 => cases h

theorem filed_of_loadText {format : Format} (h : reg.loadText format text = .ok ext) :
    ext.Filed := by
  cases format with
  | json =>
    rw [loadText] at h
    exact filed_of_load h
  | yaml =>
    rw [loadText] at h
    exact filed_of_load h

theorem extendBy_of_loadText (h : reg.loadText .yaml text = .ok ext) :
    reg.extendBy set text = set.absorb ext := by
  unfold extendBy
  rw [h]

theorem extendBy_of_error {e : ConfigError} (h : reg.loadText .yaml text = .error e) :
    reg.extendBy set text = (set, some e) := by
  unfold extendBy
  rw [h]

end Registries

namespace SchemaSet

variable {set : SchemaSet}

theorem Filed.apply (h : set.Filed) (op : Operation) : (op.apply set).Filed := by
  cases op with
  | insertResource schema =>
    refine ⟨fun name schema' hget => ?_, h.subResources⟩
    rw [Operation.apply, insertResource, Dict.get?_insert] at hget
    split at hget
    case isTrue hname => rw [← Option.some.inj hget, hname]
    case isFalse => exact h.resources name schema' hget
  | insertSubResource sub =>
    refine ⟨h.resources, fun name sub' hget => ?_⟩
    rw [Operation.apply, insertSubResource, Dict.get?_insert] at hget
    split at hget
    case isTrue hname => rw [← Option.some.inj hget, hname]
    case isFalse => exact h.subResources name sub' hget
  | extend name attributes =>
    rw [Operation.apply]
    cases hknows : set.knows name with
    | true =>
      obtain ⟨set', hextend, hmerged⟩ := extend_of_knows hknows attributes
      rw [hextend]
      exact h.merged hmerged
    | false =>
      rw [extend_of_not_knows hknows]
      exact h
  | extendBy reg text =>
    rw [Operation.apply]
    cases hload : reg.loadText .yaml text with
    | error e =>
      rw [Registries.extendBy_of_error hload]
      exact h
    | ok ext =>
      have hext := Registries.filed_of_loadText hload
      rw [Registries.extendBy_of_loadText hload]
      by_cases hknown : ∀ name, ext.resources.contains name = true → set.knows name = true
      · obtain ⟨set', habsorb, habsorbed⟩ := absorb_of_knows hext hknown
        rw [habsorb]
        exact h.absorbed hext habsorbed
      · obtain ⟨set', name, habsorb, hstopped⟩ := absorb_of_missing hknown
        rw [habsorb]
        exact h.merged hstopped.merged

/-- Operations in turn keep each schema under the name of its own resource. -/
theorem Filed.foldl_apply (h : set.Filed) (ops : List Operation) :
    (ops.foldl Operation.apply set).Filed := by
  induction ops generalizing set with
  | nil => exact h
  | cons op ops ih => exact ih (h.apply op)

end SchemaSet

namespace Registries

open SchemaSet

/-- **The effect of an extension.** An extension that does not load changes nothing. Otherwise it
succeeds if it names resources and sub-resources of the set only, and then all of it is added; and
if it fails then for the first unknown name, and the attributes under smaller names were added.
Whatever operations are applied to a set, each schema in it stays under the name of its own
resource. -/
theorem extendBy_effect (reg : Registries) (set : SchemaSet) (text : String) :
    (∀ e, reg.loadText .yaml text = .error e → reg.extendBy set text = (set, some e)) ∧
      (∀ ext, reg.loadText .yaml text = .ok ext →
        ((reg.extendBy set text).2 = none ↔
          ∀ name, ext.resources.contains name = true → set.knows name = true) ∧
        ((reg.extendBy set text).2 = none → Absorbed set ext (reg.extendBy set text).1) ∧
        ∀ e, (reg.extendBy set text).2 = some e →
          ∃ name, e = .unknownResource name ∧
            StoppedAt set ext (reg.extendBy set text).1 name) ∧
      (∅ : SchemaSet).Filed ∧
      (set.Filed → ∀ ops : List Operation, (ops.foldl Operation.apply set).Filed) := by
  refine ⟨fun e => extendBy_of_error, fun ext hload => ?_, filed_empty, fun h => h.foldl_apply⟩
  rw [extendBy_of_loadText hload]
  by_cases hknown : ∀ name, ext.resources.contains name = true → set.knows name = true
  · obtain ⟨set', habsorb, habsorbed⟩ := absorb_of_knows (filed_of_loadText hload) hknown
    rw [habsorb]
    exact ⟨iff_of_true rfl hknown, fun _ => habsorbed, nofun⟩
  · obtain ⟨set', name, habsorb, hstopped⟩ := absorb_of_missing hknown
    rw [habsorb]
    refine ⟨iff_of_false (by simp) hknown, nofun, fun e he => ?_⟩
    exact ⟨name, (Option.some.inj he).symm, hstopped⟩

/-- Routers get a name, and their ports are put under them. -/
theorem extendBy_effect_routers :
    let reg : Registries := ⟨{}, {}⟩
    let set := (∅ : SchemaSet).insertResource ⟨"routers", ∅⟩
    let text := "resources:\n  routers:\n    name: \x7b\x7d\nsub_resources:\n  ports:\n" ++
      "    parent:\n      collection_name: routers\n      member_name: router\n"
    (∃ ext, reg.loadText .yaml text = .ok ext ∧ Absorbed set ext (reg.extendBy set text).1) ∧
      (Operation.apply set (.extendBy reg text)).Filed := by
  intro reg set text
  obtain ⟨-, heffect, hempty, hfiled⟩ := extendBy_effect reg set text
  have hok : (reg.loadText .yaml text).isOk = true := by decide +kernel
  have hnone : (reg.extendBy set text).2.isNone = true := by decide +kernel
  have hset : set.Filed := hempty.apply (.insertResource ⟨"routers", ∅⟩)
  refine ⟨?_, hfiled hset [.extendBy reg text]⟩
  cases hload : reg.loadText .yaml text with
  | ok ext =>
    exact ⟨ext, rfl, (heffect ext hload).2.1 (Option.isNone_iff_eq_none.1 hnone)⟩
  | error e =>
    rw [hload] at hok
    cases hok

end Registries

end AttributeSchema
