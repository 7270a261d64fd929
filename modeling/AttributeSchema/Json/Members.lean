import AttributeSchema.Json.Basic

/-!
# Members of an object

The members of an object are a list of keys and values in insertion order. Insertion replaces in place
or appends; removal moves the last member into the gap. Main statements: what each operation does to
`lookup`.
-/

namespace AttributeSchema.Members

variable {α : Type}

/-- Whether the key has a member. -/
def contains (key : String) (ms : List (String × α)) : Bool := (ms.lookup key).isSome

/-- Replace the value of the key in place, or append a new member. -/
def insert (key : String) (value : α) : List (String × α) → List (String × α)
  | [] => [(key, value)]
  | (k, v) :: ms => if k = key then (k, value) :: ms else (k, v) :: insert key value ms

/-- Remove the member of the key; the last member takes its place. -/
def swapRemove (key : String) : List (String × α) → List (String × α)
  | [] => []
  | (k, v) :: ms =>
    if k = key then
      match ms.getLast? with
      | some last => last :: ms.dropLast
      | none => []
    else (k, v) :: swapRemove key ms

/-- Members in which a repeated key keeps its first position and its last value. -/
def ofPairs (pairs : List (String × α)) : List (String × α) :=
  pairs.foldl (fun ms (k, v) => insert k v ms) []

/-- The keys in order. -/
def keys (ms : List (String × α)) : List String := ms.map Prod.fst

theorem lookup_insert (key k : String) (value : α) (ms : List (String × α)) :
    (insert key value ms).lookup k = if k = key then some value else ms.lookup k := by
  induction ms with
  | nil =>
    by_cases h : k = key
    · simp [insert, h]
    · have hb : (k == key) = false := by simpa using h
      simp [insert, List.lookup_cons, h, hb]
  | cons m ms ih =>
    obtain ⟨j, v⟩ := m
    by_cases hj : j = key
    · subst hj
      by_cases h : k = j
      · simp [insert, h]
      · have hb : (k == j) = false := by simpa using h
        simp [insert, List.lookup_cons, h, hb]
    · by_cases hk : k = j
      · subst hk
        simp [insert, hj]
      · have hb : (k == j) = false := by simpa using hk
        simp [insert, hj, List.lookup_cons, hb, ih]

@[simp] theorem lookup_insert_self (key : String) (value : α) (ms : List (String × α)) :
    (insert key value ms).lookup key = some value := by
  simp [lookup_insert]

theorem mem_of_lookup {ms : List (String × α)} {key : String} {value : α}
    (h : ms.lookup key = some value) : (key, value) ∈ ms := by
  induction ms with
  | nil => simp at h
  | cons m ms ih =>
    obtain ⟨k, v⟩ := m
    rw [List.lookup_cons] at h
    split at h
    · rename_i hk
      obtain rfl : key = k := by simpa using hk
      obtain rfl : v = value := by simpa using h
      exact List.mem_cons_self
    · exact List.mem_cons_of_mem _ (ih h)

theorem mem_of_mem_insert {ms : List (String × α)} {key : String} {value : α} {m : String × α}
    (h : m ∈ insert key value ms) : m = (key, value) ∨ m ∈ ms := by
  induction ms with
  | nil => simpa [insert] using h
  | cons x ms ih =>
    obtain ⟨k, v⟩ := x
    by_cases hk : k = key
    · rw [insert, if_pos hk, List.mem_cons] at h
      rcases h with rfl | h
      · exact Or.inl (by rw [hk])
      · exact Or.inr (List.mem_cons_of_mem _ h)
    · rw [insert, if_neg hk, List.mem_cons] at h
      rcases h with rfl | h
      · exact Or.inr List.mem_cons_self
      · exact (ih h).imp_right (List.mem_cons_of_mem _)

/-- Merging repeated keys invents no member. -/
theorem mem_of_mem_ofPairs {pairs : List (String × α)} {m : String × α} (h : m ∈ ofPairs pairs) :
    m ∈ pairs := by
  have step : ∀ (ps ms : List (String × α)),
      m ∈ ps.foldl (fun ms (k, v) => insert k v ms) ms → m ∈ ps ∨ m ∈ ms := by
    intro ps
    induction ps with
    | nil => exact fun ms h => Or.inr h
    | cons p ps ih =>
      intro ms h
      rcases ih _ h with h | h
      · exact Or.inl (List.mem_cons_of_mem _ h)
      · rcases mem_of_mem_insert h with rfl | h
        · exact Or.inl List.mem_cons_self
        · exact Or.inr h
  simpa using step pairs [] h

/-- Insertion leaves the keys alone, or adds the new key at the end. -/
theorem keys_insert (key : String) (value : α) (ms : List (String × α)) :
    keys (insert key value ms) = if key ∈ keys ms then keys ms else keys ms ++ [key] := by
  induction ms with
  | nil => rfl
  | cons m ms ih =>
    obtain ⟨j, v⟩ := m
    by_cases hj : j = key
    · simp [insert, keys, hj]
    · have ih' : List.map Prod.fst (insert key value ms)
          = if key ∈ List.map Prod.fst ms then List.map Prod.fst ms
            else List.map Prod.fst ms ++ [key] := ih
      have hne : key ≠ j := fun e => hj e.symm
      simp only [insert, keys, hj, if_false, List.map_cons, ih', List.mem_cons, hne, false_or]
      split <;> rfl

theorem swapRemove_of_not_mem {key : String} {ms : List (String × α)} (h : key ∉ keys ms) :
    swapRemove key ms = ms := by
  induction ms with
  | nil => rfl
  | cons m ms ih =>
    obtain ⟨j, v⟩ := m
    simp only [keys, List.map_cons, List.mem_cons, not_or] at h
    have hj : ¬ j = key := fun e => h.1 e.symm
    rw [swapRemove, if_neg hj, ih h.2]

end AttributeSchema.Members
