/-!
# Pieces of a text

Cutting a text at a separator character, joining pieces again, and reading pieces in turn. Main
statements: `joinWith_splitOn`, joining the pieces gives the text back, `eq_append_of_splitOnce?`, a cut
loses nothing but the separator, and `mapM_eq_some_iff`, all pieces are read if each of them is.
-/

namespace AttributeSchema.Text

/-- The pieces of a text between the occurrences of a separator; there is always at least one. -/
def splitOn (sep : Char) : List Char → List (List Char)
  | [] => [[]]
  | c :: cs =>
    if c = sep then [] :: splitOn sep cs
    else match splitOn sep cs with
      | [] => [[c]]
      | piece :: pieces => (c :: piece) :: pieces

/-- The pieces with the separator between them. -/
def joinWith (sep : List Char) : List (List Char) → List Char
  | [] => []
  | [piece] => piece
  | piece :: pieces => piece ++ sep ++ joinWith sep pieces

/-- The parts of a text before and after the first occurrence of a separator. -/
def splitOnce? (sep : Char) : List Char → Option (List Char × List Char)
  | [] => none
  | c :: cs =>
    if c = sep then some ([], cs) else (splitOnce? sep cs).map fun (a, b) => (c :: a, b)

/-- The length of a text in bytes. -/
def byteLength (cs : List Char) : Nat := cs.foldl (fun n c => n + c.utf8Size) 0

theorem byteLength_cons (c : Char) (cs : List Char) :
    byteLength (c :: cs) = c.utf8Size + byteLength cs := by
  have step : ∀ (cs : List Char) (n : Nat),
      cs.foldl (fun n c => n + c.utf8Size) n = n + byteLength cs := by
    intro cs
    induction cs with
    | nil => exact fun n => rfl
    | cons d ds ih =>
      intro n
      rw [byteLength, List.foldl_cons, List.foldl_cons, ih, ih]
      omega
  rw [byteLength, List.foldl_cons, step, Nat.zero_add]

/-- The length of the text of a string is its size. -/
theorem byteLength_toList (s : String) : byteLength s.toList = s.utf8ByteSize := by
  have step : ∀ cs : List Char, byteLength cs = (String.ofList cs).utf8ByteSize := by
    intro cs
    induction cs with
    | nil => rfl
    | cons c cs ih =>
      rw [byteLength_cons, ih, String.ofList_cons, String.utf8ByteSize_append,
        String.utf8ByteSize_singleton]
  rw [step, String.ofList_toList]

/-- A text of ASCII characters has as many bytes as characters. -/
theorem byteLength_of_ascii {cs : List Char} (h : ∀ c ∈ cs, c.toNat < 128) :
    byteLength cs = cs.length := by
  induction cs with
  | nil => rfl
  | cons c cs ih =>
    obtain ⟨hc, hcs⟩ := List.forall_mem_cons.1 h
    have hsize : c.utf8Size = 1 := by
      rw [Char.utf8Size_eq_one_iff, UInt32.le_iff_toNat_le]
      exact Nat.le_of_lt_succ hc
    rw [byteLength_cons, hsize, ih hcs, List.length_cons, Nat.add_comm]

theorem splitOn_ne_nil (sep : Char) (cs : List Char) : splitOn sep cs ≠ [] := by
  cases cs with
  | nil => simp [splitOn]
  | cons c cs =>
    by_cases h : c = sep
    · simp [splitOn, h]
    · rw [splitOn, if_neg h]
      split <;> simp

/-- Joining the pieces gives the text back. -/
theorem joinWith_splitOn (sep : Char) (cs : List Char) : joinWith [sep] (splitOn sep cs) = cs := by
  induction cs with
  | nil => rfl
  | cons c cs ih =>
    cases hs : splitOn sep cs with
    | nil => exact absurd hs (splitOn_ne_nil sep cs)
    | cons piece pieces =>
      rw [hs] at ih
      by_cases h : c = sep
      · simpa [splitOn, h, hs, joinWith] using ih
      · cases pieces <;> simpa [splitOn, h, hs, joinWith] using ih

/-- A text without the separator is its own only piece. -/
theorem splitOn_of_not_mem {sep : Char} {cs : List Char} (h : sep ∉ cs) : splitOn sep cs = [cs] := by
  induction cs with
  | nil => rfl
  | cons c cs ih =>
    simp only [List.mem_cons, not_or] at h
    rw [splitOn, if_neg (fun e => h.1 e.symm), ih h.2]

/-- A cut at the first separator loses nothing but the separator. -/
theorem eq_append_of_splitOnce? {sep : Char} {cs a b : List Char}
    (h : splitOnce? sep cs = some (a, b)) : cs = a ++ sep :: b ∧ sep ∉ a := by
  induction cs generalizing a with
  | nil => simp [splitOnce?] at h
  | cons c cs ih =>
    by_cases hc : c = sep
    · simp only [splitOnce?, hc, if_true, Option.some.injEq, Prod.mk.injEq] at h
      obtain ⟨rfl, rfl⟩ := h
      simp [hc]
    · simp only [splitOnce?, hc, if_false, Option.map_eq_some_iff, Prod.exists, Prod.mk.injEq] at h
      obtain ⟨a', b', h', rfl, rfl⟩ := h
      obtain ⟨rfl, hn⟩ := ih h'
      simp only [List.cons_append, List.mem_cons, not_or]
      exact ⟨trivial, fun e => hc e.symm, hn⟩

/-! ## Reading in turn -/

section Readings

variable {α β : Type} {read : α → Option β} {xs : List α} {ys : List β}

/-- The results of reading items are what each of them reads as. -/
theorem mapM_eq_some_iff : xs.mapM read = some ys ↔ xs.map read = ys.map some := by
  induction xs generalizing ys with
  | nil => cases ys <;> simp
  | cons x xs ih =>
    rw [List.mapM_cons, List.map_cons]
    cases hx : read x with
    | none => cases ys <;> simp
    | some y =>
      cases ys with
      | nil => simp [Option.bind_eq_some_iff]
      | cons z zs => simpa [Option.bind_eq_some_iff, ih] using and_comm

/-- Each result is what one of the items reads as. -/
theorem exists_mem_of_mem_mapM (h : xs.mapM read = some ys) {y : β} (hy : y ∈ ys) :
    ∃ x ∈ xs, read x = some y := by
  have hmem : some y ∈ xs.map read := mapM_eq_some_iff.1 h ▸ List.mem_map_of_mem hy
  exact List.mem_map.1 hmem

end Readings

end AttributeSchema.Text
