import AttributeSchema.Text.Blank
import AttributeSchema.Text.Numeral
import AttributeSchema.Text.Pieces

/-!
# Reading what was written

The digits of a number read back as the number, and pieces joined by a separator are cut into the
same pieces again. Main statements: `readNat?_toDigits`, `splitOn_joinWith` and `splitOnce?_append`.
-/

namespace AttributeSchema.Text

/-! ## Numerals -/

/-- The digit of a number below sixteen has the code that `digit?` reads. -/
theorem toNat_digitChar : ∀ d < 16, d.digitChar.toNat = if d < 10 then 48 + d else 87 + d := by
  decide

/-- A digit reads back as its value. -/
theorem digit?_digitChar {radix d : Nat} (hradix : radix ≤ 16) (hd : d < radix) :
    digit? radix d.digitChar = some d := by
  have hcode := toNat_digitChar d (by omega)
  simp only [digit?, hcode]
  by_cases h : d < 10
  · have h1 : 48 + d ≤ 57 := by omega
    simp [h, h1]
    omega
  · have h1 : ¬ (87 + d ≤ 57) := by omega
    have h2 : 97 ≤ 87 + d := by omega
    have h3 : 87 + d ≤ 102 := by omega
    simp [h, hd, h1, h2, h3]
    omega

/-- Reading a further digit. -/
theorem readNat?_concat {radix : Nat} {cs : List Char} (hne : cs ≠ []) (c : Char) :
    readNat? radix (cs ++ [c])
      = (readNat? radix cs).bind fun n => (digit? radix c).map (radix * n + ·) := by
  cases cs with
  | nil => exact absurd rfl hne
  | cons d ds =>
    simp only [List.cons_append, readNat?]
    rw [← List.cons_append, List.foldlM_append]
    simp

/-- The digits of a number read back as the number. -/
theorem readNat?_toDigits {radix : Nat} (hone : 1 < radix) (hradix : radix ≤ 16) (n : Nat) :
    readNat? radix (Nat.toDigits radix n) = some n := by
  induction n using Nat.strongRecOn with
  | ind n ih =>
    rw [Nat.toDigits_eq_if hone]
    split
    case isTrue h =>
      simp [readNat?, digit?_digitChar hradix h]
    case isFalse h =>
      have hlt : n / radix < n := Nat.div_lt_self (by omega) hone
      have hmod : n % radix < radix := Nat.mod_lt n (by omega)
      rw [readNat?_concat Nat.toDigits_ne_nil, ih _ hlt, digit?_digitChar hradix hmod]
      simp [Nat.div_add_mod]

/-- Zeros in front of a numeral do not count. -/
theorem readNat?_replicate_append {radix : Nat} (hone : 1 < radix) (hradix : radix ≤ 16)
    {cs : List Char} (hne : cs ≠ []) (k : Nat) :
    readNat? radix (List.replicate k '0' ++ cs) = readNat? radix cs := by
  have hzero : digit? radix '0' = some 0 := @digit?_digitChar radix 0 hradix (by omega)
  induction k with
  | zero => rfl
  | succ k ih =>
    rw [← ih, List.replicate_succ, List.cons_append]
    cases hds : List.replicate k '0' ++ cs with
    | nil => exact absurd (List.append_eq_nil_iff.1 hds).2 hne
    | cons d ds => simp [readNat?, hzero]

/-- A numeral holds nothing but digits. -/
theorem isSome_digit?_of_readNat? {radix n : Nat} {cs : List Char} (h : readNat? radix cs = some n)
    {c : Char} (hc : c ∈ cs) : (digit? radix c).isSome := by
  have step : ∀ (cs : List Char) (m : Nat),
      (cs.foldlM (fun n c => (digit? radix c).map (radix * n + ·)) m) = some n →
      c ∈ cs → (digit? radix c).isSome := by
    intro cs
    induction cs with
    | nil => simp
    | cons d ds ih =>
      intro m h hc
      rw [List.foldlM_cons] at h
      obtain ⟨k, hk, h⟩ := Option.bind_eq_some_iff.1 h
      obtain ⟨e, he, -⟩ := Option.map_eq_some_iff.1 hk
      rcases List.mem_cons.1 hc with rfl | hc
      · simp [he]
      · exact ih k h hc
  cases cs with
  | nil => simp at hc
  | cons d ds => exact step (d :: ds) 0 h hc

theorem readNat?_eq_none_of_mem {radix : Nat} {cs : List Char} {c : Char}
    (hdigit : digit? radix c = none) (hc : c ∈ cs) : readNat? radix cs = none := by
  cases h : readNat? radix cs with
  | none => rfl
  | some n =>
    have := isSome_digit?_of_readNat? h hc
    simp [hdigit] at this

/-- What is no digit does not occur among the digits of a number. -/
theorem not_mem_toDigits {radix : Nat} (hone : 1 < radix) (hradix : radix ≤ 16) {c : Char}
    (hdigit : digit? radix c = none) (n : Nat) : c ∉ Nat.toDigits radix n := by
  intro hc
  have hnone := readNat?_eq_none_of_mem hdigit hc
  simp [readNat?_toDigits hone hradix] at hnone

/-- Only zero is written with a zero in front. -/
theorem head?_toDigits {radix : Nat} (hone : 1 < radix) (hradix : radix ≤ 16) {n : Nat}
    (hn : 0 < n) : (Nat.toDigits radix n).head? ≠ some '0' := by
  induction n using Nat.strongRecOn with
  | ind n ih =>
    rw [Nat.toDigits_eq_if hone]
    split
    case isTrue h =>
      have hcode := toNat_digitChar n (by omega)
      intro he
      have hzero : n.digitChar = '0' := by simpa using he
      rw [hzero] at hcode
      change 48 = _ at hcode
      split at hcode <;> omega
    case isFalse h =>
      have hlt : n / radix < n := Nat.div_lt_self hn hone
      have hpos : 0 < n / radix := Nat.div_pos (by omega) (by omega)
      have hsome : (Nat.toDigits radix (n / radix)).head?.isSome := by
        simp [List.isSome_head?]
      rw [List.head?_append, Option.or_eq_left_of_isSome hsome]
      exact ih _ hlt hpos

/-- A text without a sign reads as a signed numeral just as it reads as an unsigned one. -/
theorem readInt?_of_readNat? {radix n : Nat} {cs : List Char} (hminus : digit? radix '-' = none)
    (hplus : digit? radix '+' = none) (h : readNat? radix cs = some n) :
    readInt? radix cs = some (n : Int) := by
  have hm : '-' ∉ cs := fun hc => by simpa [hminus] using isSome_digit?_of_readNat? h hc
  have hp : '+' ∉ cs := fun hc => by simpa [hplus] using isSome_digit?_of_readNat? h hc
  unfold readInt?
  split
  · simp at hm
  · simp at hp
  · simp [h]

/-- A text without a sign reads as one that may carry a plus sign. -/
theorem readPlusNat?_of_readNat? {radix n : Nat} {cs : List Char}
    (hplus : digit? radix '+' = none) (h : readNat? radix cs = some n) :
    readPlusNat? radix cs = some n := by
  have hp : '+' ∉ cs := fun hc => by simpa [hplus] using isSome_digit?_of_readNat? h hc
  unfold readPlusNat?
  split
  · simp at hp
  · exact h

/-! ## Blank margins -/

theorem trimStart_of_all {cs : List Char} (h : ∀ c ∈ cs, isBlank c = false) :
    trimStart cs = cs := by
  cases cs with
  | nil => rfl
  | cons c cs => exact trimStart_of_head (h c (by simp))

/-- A text without blanks has no margin. -/
theorem trim_of_all {cs : List Char} (h : ∀ c ∈ cs, isBlank c = false) : trim cs = cs := by
  have hrev : ∀ c ∈ cs.reverse, isBlank c = false := fun c hc => h c (List.mem_reverse.1 hc)
  rw [trim, trimStart_of_all h, trimEnd, trimStart_of_all hrev, List.reverse_reverse]

theorem toNat_le_of_digit? {c : Char} (h : (digit? 10 c).isSome) :
    48 ≤ c.toNat ∧ c.toNat ≤ 57 := by
  simp only [digit?] at h
  split at h
  · assumption
  · split at h
    · simp at h; omega
    · split at h <;> simp at h; omega

/-- A decimal digit is not blank. -/
theorem isBlank_of_digit? {c : Char} (h : (digit? 10 c).isSome) : isBlank c = false := by
  have hcode := toNat_le_of_digit? h
  simp only [isBlank]
  simp
  omega

/-! ## Pieces -/

/-- Splitting takes off one piece without the separator at a time. -/
theorem splitOn_append {sep : Char} {a : List Char} (h : sep ∉ a) (b : List Char) :
    splitOn sep (a ++ sep :: b) = a :: splitOn sep b := by
  induction a with
  | nil => simp [splitOn]
  | cons c cs ih =>
    simp only [List.mem_cons, not_or] at h
    rw [List.cons_append, splitOn, if_neg (fun e => h.1 e.symm), ih h.2]

/-- A separator at the end is followed by an empty piece. -/
theorem splitOn_concat (sep : Char) (cs : List Char) :
    splitOn sep (cs ++ [sep]) = splitOn sep cs ++ [[]] := by
  induction cs with
  | nil => simp [splitOn]
  | cons c cs ih =>
    rw [List.cons_append, splitOn, splitOn, ih]
    split
    case isTrue => rfl
    case isFalse =>
      cases hs : splitOn sep cs with
      | nil => exact absurd hs (splitOn_ne_nil sep cs)
      | cons piece pieces => rfl

theorem joinWith_cons_cons (sep piece next : List Char) (pieces : List (List Char)) :
    joinWith sep (piece :: next :: pieces) = piece ++ sep ++ joinWith sep (next :: pieces) := rfl

/-- Joined pieces without the separator are cut into the same pieces again. -/
theorem splitOn_joinWith {sep : Char} {pieces : List (List Char)} (hne : pieces ≠ [])
    (h : ∀ piece ∈ pieces, sep ∉ piece) : splitOn sep (joinWith [sep] pieces) = pieces := by
  induction pieces with
  | nil => exact absurd rfl hne
  | cons piece pieces ih =>
    have hpiece : sep ∉ piece := h piece (by simp)
    have hpieces : ∀ p ∈ pieces, sep ∉ p := fun p hp => h p (by simp [hp])
    cases pieces with
    | nil => exact splitOn_of_not_mem hpiece
    | cons next pieces =>
      rw [joinWith_cons_cons, List.append_assoc, List.singleton_append, splitOn_append hpiece,
        ih (by simp) hpieces]

/-- What occurs in joined pieces occurs in a piece or is the separator. -/
theorem mem_of_mem_joinWith {sep : List Char} {pieces : List (List Char)} {c : Char}
    (h : c ∈ joinWith sep pieces) : c ∈ sep ∨ ∃ piece ∈ pieces, c ∈ piece := by
  induction pieces with
  | nil => simp [joinWith] at h
  | cons piece pieces ih =>
    cases pieces with
    | nil => exact Or.inr ⟨piece, by simp, h⟩
    | cons next pieces =>
      rw [joinWith_cons_cons, List.mem_append, List.mem_append] at h
      rcases h with (h | h) | h
      · exact Or.inr ⟨piece, by simp, h⟩
      · exact Or.inl h
      · rcases ih h with h | ⟨p, hp, h⟩
        · exact Or.inl h
        · exact Or.inr ⟨p, by simp [hp], h⟩

theorem mem_joinWith {sep : List Char} {pieces : List (List Char)} {piece : List Char}
    (hpiece : piece ∈ pieces) {c : Char} (hc : c ∈ piece) : c ∈ joinWith sep pieces := by
  induction pieces with
  | nil => simp at hpiece
  | cons first pieces ih =>
    cases pieces with
    | nil =>
      obtain rfl : piece = first := by simpa using hpiece
      exact hc
    | cons next pieces =>
      rw [joinWith_cons_cons, List.mem_append, List.mem_append]
      rcases List.mem_cons.1 hpiece with rfl | hpiece
      · exact Or.inl (Or.inl hc)
      · exact Or.inr (ih hpiece)

/-- The first separator is where a text without it ends. -/
theorem splitOnce?_append {sep : Char} {a : List Char} (h : sep ∉ a) (b : List Char) :
    splitOnce? sep (a ++ sep :: b) = some (a, b) := by
  induction a with
  | nil => simp [splitOnce?]
  | cons c cs ih =>
    simp only [List.mem_cons, not_or] at h
    rw [List.cons_append, splitOnce?, if_neg (fun e => h.1 e.symm), ih h.2]
    rfl

/-! ## Lists of readings -/

section Readings

variable {α β : Type} {read : α → Option β} {xs : List α} {ys : List β}

/-- Each item reads as one of the results. -/
theorem exists_mem_of_mapM (h : xs.mapM read = some ys) {x : α} (hx : x ∈ xs) :
    ∃ y ∈ ys, read x = some y := by
  have hmem : read x ∈ ys.map some := mapM_eq_some_iff.1 h ▸ List.mem_map_of_mem hx
  obtain ⟨y, hy, hread⟩ := List.mem_map.1 hmem
  exact ⟨y, hy, hread.symm⟩

theorem length_eq_of_mapM (h : xs.mapM read = some ys) : ys.length = xs.length := by
  simpa using (congrArg List.length (mapM_eq_some_iff.1 h)).symm

/-- If each item can be read then all of them can. -/
theorem exists_mapM_of_forall (h : ∀ x ∈ xs, ∃ y, read x = some y) :
    ∃ ys, xs.mapM read = some ys := by
  induction xs with
  | nil => exact ⟨[], rfl⟩
  | cons x xs ih =>
    obtain ⟨⟨y, hy⟩, hxs⟩ := List.forall_mem_cons.1 h
    obtain ⟨ys, hys⟩ := ih hxs
    exact ⟨y :: ys, by simp [List.mapM_cons, hy, hys]⟩

/-- The results of reading written items are the items. -/
theorem mapM_map_of_read {write : β → α} (h : ∀ y ∈ ys, read (write y) = some y) :
    (ys.map write).mapM read = some ys := by
  rw [mapM_eq_some_iff, List.map_map]
  exact List.map_congr_left h

end Readings

end AttributeSchema.Text
