import AttributeSchema.Json.Parser
import AttributeSchema.Text.Pieces

/-!
# Sources of typed data

Typed data is read from trees of several formats. A format says which of its nodes count as null, as a
flag, as a text, as a list and as a mapping. Main definitions: `Source.fields?`, the fields of a record,
and the two sources in JSON, values and written ones. What nobody reads of a written value need not
stand for anything.
-/

namespace AttributeSchema

/-- A format of trees that typed data is read from. -/
class Source (τ : Type) where
  isNull : τ → Bool
  flag? : τ → Option Bool
  text? : τ → Option String
  items? : τ → Option (List τ)
  /-- The entries of a mapping in order. Keys may be repeated. -/
  entries? : τ → Option (List (String × τ))
  /-- The fields of a record in the order of their declaration, if the format has such records. -/
  positional? : τ → Option (List τ)
  /-- The node as an untyped value. -/
  value? : τ → Option Json

namespace Source

variable {τ α : Type} [Source τ]

/-- A list of texts. -/
def texts? (n : τ) : Option (List String) := (items? n).bind fun items => items.mapM text?

/-- The entries of a mapping whose values are read in a given way. -/
def mapping? (read : τ → Option α) (n : τ) : Option (List (String × α)) :=
  (entries? n).bind fun es => es.mapM fun (k, v) => (read v).map fun w => (k, w)

/-- A value that may be null. -/
def optional? (read : τ → Option α) (n : τ) : Option (Option α) :=
  if isNull n then some none else (read n).map some

/-- How the fields of a record are declared. -/
structure Layout where
  /-- The names of the fields in the order of their declaration. -/
  names : List String
  /-- Other fields are refused and not ignored. -/
  strict : Bool
  /-- The number of fields that a positional record has to give. -/
  least : Nat

/-- The fields of a record that are given, each at most once. -/
def fields? (layout : Layout) (n : τ) : Option (List (String × τ)) :=
  match positional? n with
  | some items =>
    if layout.least ≤ items.length ∧ items.length ≤ layout.names.length then
      some (layout.names.zip items)
    else none
  | none =>
    match entries? n with
    | none => none
    | some es =>
      let known := es.filter fun e => layout.names.contains e.1
      if (layout.strict → known.length = es.length) ∧ (known.map Prod.fst).Nodup then some known
      else none

/-- Read a field, or take its default. Without a default the field has to be given. -/
def field (fs : List (String × τ)) (name : String) (read : τ → Option α) (default? : Option α) :
    Option α :=
  match fs.lookup name with
  | some n => read n
  | none => default?

/-- What is read of a mapping is read of its entries. -/
theorem mem_of_mapping? {read : τ → Option α} {n : τ} {ps : List (String × α)}
    (h : mapping? read n = some ps) {p : String × α} (hp : p ∈ ps) :
    ∃ es v, entries? n = some es ∧ (p.1, v) ∈ es ∧ read v = some p.2 := by
  obtain ⟨es, hes, hread⟩ := Option.bind_eq_some_iff.1 h
  obtain ⟨e, he, hentry⟩ := Text.exists_mem_of_mem_mapM hread hp
  obtain ⟨v, hv, rfl⟩ := Option.map_eq_some_iff.1 hentry
  exact ⟨es, e.2, hes, he, hv⟩

/-- The fields of a record are among its positions or among its entries. -/
theorem mem_of_fields? {layout : Layout} {n : τ} {fs : List (String × τ)}
    (h : fields? layout n = some fs) {name : String} {m : τ} (hm : (name, m) ∈ fs) :
    (∃ items, positional? n = some items ∧ m ∈ items) ∨
      ∃ es, entries? n = some es ∧ (name, m) ∈ es := by
  unfold fields? at h
  split at h
  · rename_i items hp
    split at h
    · obtain rfl : _ = fs := by simpa using h
      exact Or.inl ⟨items, hp, (List.of_mem_zip hm).2⟩
    · simp at h
  · split at h
    · simp at h
    · rename_i es he
      dsimp only at h
      split at h
      · obtain rfl : _ = fs := by simpa using h
        exact Or.inr ⟨es, he, (List.mem_filter.1 hm).1⟩
      · simp at h

end Source

/-- JSON values in which no key is repeated. -/
instance : Source Json where
  isNull := Json.isNull
  flag?
    | .bool b => some b
    | _ => none
  text?
    | .string s => some s
    | _ => none
  items?
    | .array items => some items
    | _ => none
  entries?
    | .object members => some members
    | _ => none
  positional?
    | .array items => some items
    | _ => none
  value? := some

/-- JSON values as they are written, where keys may be repeated. -/
instance : Source Json.Written where
  isNull
    | .word cs => cs == "null".toList
    | _ => false
  flag?
    | .word cs => if cs == "true".toList then some true
      else if cs == "false".toList then some false else none
    | _ => none
  text?
    | .string cs => Json.Written.text? cs
    | _ => none
  items?
    | .array items => some items
    | _ => none
  entries?
    | .object ms => ms.mapM fun (key, w) => (Json.Written.text? key).map fun key => (key, w)
    | _ => none
  positional?
    | .array items => some items
    | _ => none
  value? := Json.Written.value?

end AttributeSchema
