/-!
# Dictionaries

Finite maps from strings whose entries are kept in ascending order of their keys, so that two
dictionaries with the same look-ups are equal. Main statements: `get?_insert` and `get?_erase` say what
the operations do to look-ups, and `ext` says that look-ups determine a dictionary.
-/

namespace AttributeSchema

universe u v

namespace Entries

variable {α : Type u}

/-- The entries are in ascending order of their keys, each key once. -/
def Ascending (es : List (String × α)) : Prop := es.Pairwise fun a b => a.1 < b.1

/-- Put an entry in its place in ascending order, in place of one with the same key. -/
def insert (key : String) (value : α) : List (String × α) → List (String × α)
  | [] => [(key, value)]
  | (k, v) :: es =>
    if key < k then (key, value) :: (k, v) :: es
    else if key = k then (key, value) :: es
    else (k, v) :: insert key value es

/-- Drop the entry of a key. -/
def erase (key : String) (es : List (String × α)) : List (String × α) :=
  es.filter fun e => e.1 != key

/-- The entries of pairs in any order, the last of a repeated key. -/
def ofPairs (pairs : List (String × α)) : List (String × α) :=
  pairs.foldl (fun es (k, v) => insert k v es) []

theorem mem_insert {key : String} {value : α} {es : List (String × α)} {e : String × α}
    (h : e ∈ insert key value es) : e = (key, value) ∨ e ∈ es := by
  induction es with
  | nil => simpa [insert] using h
  | cons x es ih =>
    obtain ⟨k, v⟩ := x
    by_cases hlt : key < k
    · simpa [insert, hlt] using h
    · by_cases heq : key = k
      · rw [insert, if_neg hlt, if_pos heq, List.mem_cons] at h
        exact h.imp_right (List.mem_cons_of_mem _)
      · rw [insert, if_neg hlt, if_neg heq, List.mem_cons] at h
        rcases h with rfl | h
        · exact Or.inr (by simp)
        · exact (ih h).imp_right (List.mem_cons_of_mem _)

theorem Ascending.insert {es : List (String × α)} (h : Ascending es) (key : String) (value : α) :
    Ascending (insert key value es) := by
  induction es with
  | nil => exact List.pairwise_singleton _ _
  | cons x es ih =>
    obtain ⟨k, v⟩ := x
    obtain ⟨hk, hes⟩ := List.pairwise_cons.1 h
    by_cases hlt : key < k
    · rw [Entries.insert, if_pos hlt]
      refine List.pairwise_cons.2 ⟨fun e he => ?_, h⟩
      rcases List.mem_cons.1 he with rfl | he
      · exact hlt
      · exact String.lt_trans hlt (hk e he)
    · by_cases heq : key = k
      · subst heq
        rw [Entries.insert, if_neg hlt, if_pos rfl]
        exact List.pairwise_cons.2 ⟨hk, hes⟩
      · rw [Entries.insert, if_neg hlt, if_neg heq]
        refine List.pairwise_cons.2 ⟨fun e he => ?_, ih hes⟩
        rcases mem_insert he with rfl | he
        · grind
        · exact hk e he

theorem Ascending.erase {es : List (String × α)} (h : Ascending es) (key : String) :
    Ascending (erase key es) := h.filter _

theorem Ascending.ofPairs (pairs : List (String × α)) : Ascending (ofPairs pairs) := by
  have step : ∀ (ps : List (String × α)) (es : List (String × α)), Ascending es →
      Ascending (ps.foldl (fun es (k, v) => Entries.insert k v es) es) := by
    intro ps
    induction ps with
    | nil => exact fun es h => h
    | cons p ps ih => exact fun es h => ih _ (h.insert p.1 p.2)
  exact step pairs [] List.Pairwise.nil

/-- Putting pairs in order invents no entry. -/
theorem mem_of_mem_ofPairs {pairs : List (String × α)} {e : String × α} (h : e ∈ ofPairs pairs) :
    e ∈ pairs := by
  have step : ∀ (ps es : List (String × α)),
      e ∈ ps.foldl (fun es (k, v) => insert k v es) es → e ∈ ps ∨ e ∈ es := by
    intro ps
    induction ps with
    | nil => exact fun es h => Or.inr h
    | cons p ps ih =>
      intro es h
      rcases ih _ h with h | h
      · exact Or.inl (List.mem_cons_of_mem _ h)
      · rcases mem_insert h with rfl | h
        · exact Or.inl List.mem_cons_self
        · exact Or.inr h
  simpa using step pairs [] h

theorem lookup_insert {es : List (String × α)} (key k : String) (value : α) (h : Ascending es) :
    (insert key value es).lookup k = if k = key then some value else es.lookup k := by
  induction es with
  | nil =>
    by_cases hk : k = key
    · simp [insert, hk]
    · have hb : (k == key) = false := by simpa using hk
      simp [insert, List.lookup_cons, hk, hb]
  | cons x es ih =>
    obtain ⟨j, v⟩ := x
    obtain ⟨hj, hes⟩ := List.pairwise_cons.1 h
    by_cases hlt : key < j
    · rw [insert, if_pos hlt, List.lookup_cons]
      by_cases hk : k = key
      · simp [hk]
      · have hb : (k == key) = false := by simpa using hk
        simp [hk, hb]
    · by_cases heq : key = j
      · subst heq
        by_cases hk : k = key
        · simp [insert, hk]
        · have hb : (k == key) = false := by simpa using hk
          simp [insert, hk, hb, List.lookup_cons]
      · rw [insert, if_neg hlt, if_neg heq, List.lookup_cons, List.lookup_cons, ih hes]
        by_cases hk : k = j
        · subst hk
          have hne : ¬ k = key := fun e => heq e.symm
          simp [hne]
        · have hb : (k == j) = false := by simpa using hk
          simp [hb]

theorem lookup_erase (key k : String) (es : List (String × α)) :
    (erase key es).lookup k = if k = key then none else es.lookup k := by
  induction es with
  | nil => simp [erase]
  | cons x es ih =>
    obtain ⟨j, v⟩ := x
    by_cases hj : j = key
    · subst hj
      have he : erase j ((j, v) :: es) = erase j es := by simp [erase]
      rw [he, ih, List.lookup_cons]
      by_cases hk : k = j
      · simp [hk]
      · have hb : (k == j) = false := by simpa using hk
        simp [hk, hb]
    · have he : erase key ((j, v) :: es) = (j, v) :: erase key es := by simp [erase, hj]
      rw [he, List.lookup_cons, List.lookup_cons, ih]
      by_cases hk : k = j
      · subst hk
        simp [hj]
      · have hb : (k == j) = false := by simpa using hk
        simp [hb]

theorem lookup_eq_none_of_lt {es : List (String × α)} {k : String} (h : ∀ e ∈ es, k < e.1) :
    es.lookup k = none := by
  induction es with
  | nil => rfl
  | cons x es ih =>
    have hx : k < x.1 := h x (by simp)
    have hb : (k == x.1) = false := by
      simp only [beq_eq_false_iff_ne]
      exact fun e => String.lt_irrefl _ (e ▸ hx)
    rw [List.lookup_cons, hb]
    exact ih fun e he => h e (List.mem_cons_of_mem _ he)

/-- Look-ups determine ascending entries. -/
theorem ext_lookup {es fs : List (String × α)} (he : Ascending es) (hf : Ascending fs)
    (h : ∀ k, es.lookup k = fs.lookup k) : es = fs := by
  induction es generalizing fs with
  | nil =>
    cases fs with
    | nil => rfl
    | cons y fs =>
      obtain ⟨j, w⟩ := y
      simpa using h j
  | cons x es ih =>
    obtain ⟨k, v⟩ := x
    cases fs with
    | nil => simpa using h k
    | cons y fs =>
      obtain ⟨j, w⟩ := y
      obtain ⟨hk, hes⟩ := List.pairwise_cons.1 he
      obtain ⟨hj, hfs⟩ := List.pairwise_cons.1 hf
      have hkj : k = j := by
        rcases Std.lt_trichotomy k j with hlt | heq | hlt
        · have hn : ((j, w) :: fs).lookup k = none := lookup_eq_none_of_lt fun e m => by
            rcases List.mem_cons.1 m with rfl | m
            · exact hlt
            · exact String.lt_trans hlt (hj e m)
          have := h k
          rw [hn] at this
          simp at this
        · exact heq
        · have hn : ((k, v) :: es).lookup j = none := lookup_eq_none_of_lt fun e m => by
            rcases List.mem_cons.1 m with rfl | m
            · exact hlt
            · exact String.lt_trans hlt (hk e m)
          have := h j
          rw [hn] at this
          simp at this
      subst hkj
      have hv : v = w := by simpa using h k
      subst hv
      refine congrArg _ (ih hes hfs fun l => ?_)
      by_cases hl : l = k
      · subst hl
        rw [lookup_eq_none_of_lt hk, lookup_eq_none_of_lt hj]
      · have hb : (l == k) = false := by simpa using hl
        simpa [List.lookup_cons, hb] using h l

theorem Ascending.pairwise_ne {es : List (String × α)} (h : Ascending es) :
    es.Pairwise fun a b => a.1 ≠ b.1 := by
  refine List.Pairwise.imp ?_ h
  intro a b hlt heq
  rw [heq] at hlt
  exact String.lt_irrefl _ hlt

/-- Among entries with different keys, the look-up of a key finds its entry. -/
theorem lookup_eq_some_iff {es : List (String × α)} (h : es.Pairwise fun a b => a.1 ≠ b.1)
    {key : String} {value : α} : es.lookup key = some value ↔ (key, value) ∈ es := by
  induction es with
  | nil => simp
  | cons x es ih =>
    obtain ⟨k, v⟩ := x
    obtain ⟨hk, hes⟩ := List.pairwise_cons.1 h
    rw [List.lookup_cons, List.mem_cons, Prod.mk.injEq]
    by_cases hkey : key = k
    · subst hkey
      have hnot : (key, value) ∉ es := fun hmem => hk _ hmem rfl
      simp [hnot, eq_comm]
    · have hb : (key == k) = false := by simpa using hkey
      simp [hb, hkey, ih hes]

theorem lookup_map {β : Type v} (f : α → β) (es : List (String × α)) (key : String) :
    (es.map fun e => (e.1, f e.2)).lookup key = (es.lookup key).map f := by
  induction es with
  | nil => rfl
  | cons e es ih =>
    rw [List.map_cons, List.lookup_cons, List.lookup_cons]
    cases key == e.1 with
    | true => rfl
    | false => exact ih

theorem lookup_eq_none_iff {es : List (String × α)} {key : String} :
    es.lookup key = none ↔ ∀ e ∈ es, e.1 ≠ key := by
  induction es with
  | nil => simp
  | cons x es ih =>
    obtain ⟨k, v⟩ := x
    rw [List.lookup_cons, List.forall_mem_cons]
    by_cases hkey : key = k
    · simp [hkey]
    · have hb : (key == k) = false := by simpa using hkey
      have hne : k ≠ key := fun e => hkey e.symm
      simp [hb, hne, ih]

end Entries

/-- A finite map from strings, in ascending order of its keys. -/
structure Dict (α : Type u) where
  entries : List (String × α)
  ascending : Entries.Ascending entries

namespace Dict

variable {α : Type u}

/-- The dictionary without entries. -/
def empty : Dict α := ⟨[], List.Pairwise.nil⟩

instance : EmptyCollection (Dict α) := ⟨empty⟩

instance : Inhabited (Dict α) := ⟨empty⟩

/-- The value of a key. -/
def get? (d : Dict α) (key : String) : Option α := d.entries.lookup key

/-- Whether the key has an entry. -/
def contains (d : Dict α) (key : String) : Bool := (d.get? key).isSome

/-- Set the value of a key. -/
def insert (d : Dict α) (key : String) (value : α) : Dict α :=
  ⟨Entries.insert key value d.entries, d.ascending.insert key value⟩

/-- Drop the entry of a key. -/
def erase (d : Dict α) (key : String) : Dict α :=
  ⟨Entries.erase key d.entries, d.ascending.erase key⟩

/-- The dictionary of pairs in any order, the last of a repeated key. -/
def ofPairs (pairs : List (String × α)) : Dict α :=
  ⟨Entries.ofPairs pairs, Entries.Ascending.ofPairs pairs⟩

/-- The keys in ascending order. -/
def keys (d : Dict α) : List String := d.entries.map Prod.fst

/-- The number of entries. -/
def size (d : Dict α) : Nat := d.entries.length

def isEmpty (d : Dict α) : Bool := d.entries.isEmpty

/-- Set the values of all keys of another dictionary. -/
def union (d e : Dict α) : Dict α := e.entries.foldl (fun d (k, v) => d.insert k v) d

/-- The dictionary with each value changed. -/
def map {β : Type v} (f : α → β) (d : Dict α) : Dict β where
  entries := d.entries.map fun e => (e.1, f e.2)
  ascending := by
    rw [Entries.Ascending, List.pairwise_map]
    exact d.ascending

@[simp] theorem get?_empty (key : String) : (∅ : Dict α).get? key = none := rfl

@[grind =] theorem get?_insert (d : Dict α) (key k : String) (value : α) :
    (d.insert key value).get? k = if k = key then some value else d.get? k :=
  Entries.lookup_insert key k value d.ascending

@[simp] theorem get?_insert_self (d : Dict α) (key : String) (value : α) :
    (d.insert key value).get? key = some value := by simp [get?_insert]

@[grind =] theorem get?_erase (d : Dict α) (key k : String) :
    (d.erase key).get? k = if k = key then none else d.get? k :=
  Entries.lookup_erase key k d.entries

theorem get?_map {β : Type v} (f : α → β) (d : Dict α) (key : String) :
    (d.map f).get? key = (d.get? key).map f := Entries.lookup_map f d.entries key

/-- Where both dictionaries have a key the second one counts. -/
theorem get?_union (d e : Dict α) (key : String) :
    (d.union e).get? key = (e.get? key).or (d.get? key) := by
  have step : ∀ (es : List (String × α)) (d : Dict α), (es.Pairwise fun a b => a.1 ≠ b.1) →
      (es.foldl (fun d (k, v) => d.insert k v) d).get? key = (es.lookup key).or (d.get? key) := by
    intro es
    induction es with
    | nil => exact fun d _ => rfl
    | cons x es ih =>
      intro d h
      obtain ⟨k, v⟩ := x
      obtain ⟨hk, hes⟩ := List.pairwise_cons.1 h
      rw [List.foldl_cons, ih _ hes, get?_insert, List.lookup_cons]
      by_cases hkey : key = k
      · subst hkey
        have hnone : es.lookup key = none :=
          Entries.lookup_eq_none_iff.2 fun e he heq => hk e he heq.symm
        simp [hnone]
      · have hb : (key == k) = false := by simpa using hkey
        simp [hkey, hb]
  exact step e.entries d e.ascending.pairwise_ne

/-- Look-ups determine a dictionary. -/
@[ext] theorem ext {d e : Dict α} (h : ∀ k, d.get? k = e.get? k) : d = e := by
  cases d with
  | mk es hes =>
    cases e with
    | mk fs hfs =>
      have heq : es = fs := Entries.ext_lookup hes hfs h
      subst heq
      rfl

theorem mem_entries_iff {d : Dict α} {key : String} {value : α} :
    (key, value) ∈ d.entries ↔ d.get? key = some value :=
  (Entries.lookup_eq_some_iff d.ascending.pairwise_ne).symm

theorem mem_of_get?_ofPairs {pairs : List (String × α)} {key : String} {value : α}
    (h : (ofPairs pairs).get? key = some value) : (key, value) ∈ pairs :=
  Entries.mem_of_mem_ofPairs (mem_entries_iff.2 h)

theorem get?_eq_none_iff {d : Dict α} {key : String} :
    d.get? key = none ↔ ∀ e ∈ d.entries, e.1 ≠ key := Entries.lookup_eq_none_iff

theorem mem_keys_iff {d : Dict α} {key : String} : key ∈ d.keys ↔ d.contains key = true := by
  rw [contains, keys, List.mem_map, Option.isSome_iff_exists]
  constructor
  · rintro ⟨⟨k, v⟩, hmem, rfl⟩
    exact ⟨v, mem_entries_iff.1 hmem⟩
  · rintro ⟨v, h⟩
    exact ⟨(key, v), mem_entries_iff.2 h, rfl⟩

theorem contains_eq (d : Dict α) (key : String) : d.contains key = (d.get? key).isSome := rfl

end Dict

end AttributeSchema
