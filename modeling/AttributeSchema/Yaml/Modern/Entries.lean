import AttributeSchema.Text.Pieces
import AttributeSchema.Yaml.Modern.Scalar

/-!
# Entries of mappings

A plain key `<<` merges other mappings into its own: a mapping, several of them in a sequence, or none if
its value is null. What is nearer takes precedence: the entries of a mapping before the merged ones, and
what is merged later before what is merged earlier. Main definition: `Node.entries?`. Main statement:
`Node.sizeOf_lt_of_mem_entries?`, the values of entries are smaller than the mapping.
-/

namespace AttributeSchema.Yaml.Node

/-- Whether a key merges other mappings into its own. -/
def isMergeKey : Node → Bool
  | .scalar s => s.style == .plain && s.text == "<<" && s.tag?.isNone
  | _ => false

/-- Whether two keys are the same: they have the same text and the same tag. -/
def isSameKey : Node → Node → Bool
  | .scalar s, .scalar t => s.text == t.text && s.tag? == t.tag?
  | _, _ => false

/-- The entries of a mapping that do not merge. -/
def ownEntries (entries : List (Node × Node)) : List (Node × Node) :=
  entries.filter fun e => !e.1.isMergeKey

mutual

/-- The entries that a merge key brings in, the nearest first. -/
def merged? : Node → Option (List (Node × Node))
  | .scalar s => if s.isNull then some [] else none
  | .sequence _ items => mergedItems? items
  | .mapping _ entries => (merges? entries).map fun merged => ownEntries entries ++ merged

/-- The entries that the items of a sequence bring in; later items are nearer. -/
def mergedItems? : List Node → Option (List (Node × Node))
  | [] => some []
  | n :: ns =>
    match mergedItems? ns, merged? n with
    | some later, some es => some (later ++ es)
    | _, _ => none

/-- The entries that the merge keys of a mapping bring in; later keys are nearer. -/
def merges? : List (Node × Node) → Option (List (Node × Node))
  | [] => some []
  | (k, n) :: es =>
    if k.isMergeKey then
      match merges? es, merged? n with
      | some later, some es => some (later ++ es)
      | _, _ => none
    else merges? es

end

/-- The entries whose keys are not among those of earlier ones. -/
def firsts (seen : List Node) : List (Node × Node) → List (Node × Node)
  | [] => []
  | e :: es => if seen.any e.1.isSameKey then firsts seen es else e :: firsts (e.1 :: seen) es

/-- Whether no key is repeated. -/
def areDistinct : List (Node × Node) → Bool
  | [] => true
  | e :: es => !(es.any fun f => e.1.isSameKey f.1) && areDistinct es

/-- The text of a key. -/
def keyText? : Node → Option String
  | .scalar s => s.text?
  | _ => none

/-- An entry with the text of its key. -/
def namedEntry? (e : Node × Node) : Option (String × Node) := (keyText? e.1).map fun k => (k, e.2)

/-- The entries of a mapping with those that are merged into it. A mapping may not repeat a key of its
own. Null is a mapping without entries. -/
def entries? : Node → Option (List (String × Node))
  | .scalar s => if s.isNull then some [] else none
  | .sequence _ _ => none
  | .mapping _ entries =>
    let own := ownEntries entries
    if areDistinct own then
      (merges? entries).bind fun merged => (firsts [] (own ++ merged)).mapM namedEntry?
    else none

/-! ## Size -/

theorem mem_of_mem_ownEntries {entries : List (Node × Node)} {e : Node × Node}
    (h : e ∈ ownEntries entries) : e ∈ entries := (List.mem_filter.1 h).1

theorem mem_of_mem_firsts {seen : List Node} {es : List (Node × Node)} {e : Node × Node}
    (h : e ∈ firsts seen es) : e ∈ es := by
  induction es generalizing seen with
  | nil => simp [firsts] at h
  | cons f es ih =>
    unfold firsts at h
    split at h
    · exact List.mem_cons_of_mem _ (ih h)
    · rcases List.mem_cons.1 h with rfl | h
      · exact List.mem_cons_self
      · exact List.mem_cons_of_mem _ (ih h)

/-- The value of an entry is smaller than the list of entries. -/
theorem sizeOf_snd_lt {entries : List (Node × Node)} {e : Node × Node} (h : e ∈ entries) :
    sizeOf e.2 < sizeOf entries := by
  have := List.sizeOf_lt_of_mem h
  have : sizeOf e = 1 + sizeOf e.1 + sizeOf e.2 := by cases e; rfl
  omega

mutual

theorem sizeOf_lt_of_mem_merged? {n : Node} {es : List (Node × Node)} (h : merged? n = some es)
    {e : Node × Node} (he : e ∈ es) : sizeOf e.2 < sizeOf n := by
  match n with
  | .scalar s =>
    simp only [merged?, Option.ite_none_right_eq_some, Option.some.injEq] at h
    simp [← h.2] at he
  | .sequence _ items =>
    have := sizeOf_lt_of_mem_mergedItems? (by simpa only [merged?] using h) he
    simp only [Node.sequence.sizeOf_spec]
    omega
  | .mapping _ entries =>
    simp only [merged?, Option.map_eq_some_iff] at h
    obtain ⟨ms, hms, rfl⟩ := h
    simp only [Node.mapping.sizeOf_spec]
    rcases List.mem_append.1 he with he | he
    · have := sizeOf_snd_lt (mem_of_mem_ownEntries he)
      omega
    · have := sizeOf_lt_of_mem_merges? hms he
      omega

theorem sizeOf_lt_of_mem_mergedItems? {ns : List Node} {es : List (Node × Node)}
    (h : mergedItems? ns = some es) {e : Node × Node} (he : e ∈ es) : sizeOf e.2 < sizeOf ns := by
  match ns with
  | [] => simp [← Option.some.inj (by simpa only [mergedItems?] using h)] at he
  | n :: ns =>
    unfold mergedItems? at h
    split at h
    · rename_i later own hlater hown
      obtain rfl := Option.some.inj h
      simp only [List.cons.sizeOf_spec]
      rcases List.mem_append.1 he with he | he
      · have := sizeOf_lt_of_mem_mergedItems? hlater he
        omega
      · have := sizeOf_lt_of_mem_merged? hown he
        omega
    · cases h

theorem sizeOf_lt_of_mem_merges? {entries es : List (Node × Node)} (h : merges? entries = some es)
    {e : Node × Node} (he : e ∈ es) : sizeOf e.2 < sizeOf entries := by
  match entries with
  | [] => simp [← Option.some.inj (by simpa only [merges?] using h)] at he
  | (k, n) :: entries =>
    unfold merges? at h
    simp only [List.cons.sizeOf_spec, Prod.mk.sizeOf_spec]
    split at h
    · split at h
      · rename_i later own hlater hown
        obtain rfl := Option.some.inj h
        rcases List.mem_append.1 he with he | he
        · have := sizeOf_lt_of_mem_merges? hlater he
          omega
        · have := sizeOf_lt_of_mem_merged? hown he
          omega
      · cases h
    · have := sizeOf_lt_of_mem_merges? h he
      omega

end

/-- The values of entries are smaller than the mapping. -/
theorem sizeOf_lt_of_mem_entries? {n : Node} {es : List (String × Node)} (h : n.entries? = some es)
    {e : String × Node} (he : e ∈ es) : sizeOf e.2 < sizeOf n := by
  match n with
  | .scalar s =>
    simp only [entries?, Option.ite_none_right_eq_some, Option.some.injEq] at h
    simp [← h.2] at he
  | .sequence _ _ => simp [entries?] at h
  | .mapping _ entries =>
    simp only [entries?, Option.ite_none_right_eq_some, Option.bind_eq_some_iff] at h
    obtain ⟨_, merged, hmerged, hread⟩ := h
    obtain ⟨f, hf, hnamed⟩ := Text.exists_mem_of_mem_mapM hread he
    obtain ⟨_, _, rfl⟩ := Option.map_eq_some_iff.1 hnamed
    simp only [Node.mapping.sizeOf_spec]
    rcases List.mem_append.1 (mem_of_mem_firsts hf) with hf | hf
    · have := sizeOf_snd_lt (mem_of_mem_ownEntries hf)
      omega
    · have := sizeOf_lt_of_mem_merges? hmerged hf
      omega

end AttributeSchema.Yaml.Node
