import AttributeSchema.Net.Subnet
import AttributeSchema.Proofs.Text.Reading

/-!
# Canonical texts of addresses read back

The canonical text of an address reads back as the address, and the text of a subnet as the subnet.
For version 6 the reader undoes the elision: a text of groups holds no double colon of its own, and
what is elided is a run of zero groups. Main statements: `Address.read?_text`, `Subnet.read?_text`.
-/

namespace AttributeSchema.Net.Address

open Text

/-! ## Version 4 -/

theorem readOctet?_toDigits {n : Nat} (h : n < 256) : readOctet? (Nat.toDigits 10 n) = some n := by
  have hlength : (Nat.toDigits 10 n).length ≤ 3 :=
    (Nat.length_toDigits_le_iff (by decide) (by decide)).2 (by omega)
  have hzero : ¬ ((Nat.toDigits 10 n).head? = some '0' ∧ 1 < (Nat.toDigits 10 n).length) := by
    rintro ⟨hhead, hlong⟩
    by_cases hn : 0 < n
    · exact head?_toDigits (by decide) (by decide) hn hhead
    · obtain rfl : n = 0 := by omega
      simp at hlong
  rw [readOctet?, if_pos ⟨hlength, hzero⟩, readNat?_toDigits (by decide) (by decide)]
  simp [h]

theorem readOctet?_eq_none_of_mem {cs : List Char} {c : Char} (hdigit : digit? 10 c = none)
    (hc : c ∈ cs) : readOctet? cs = none := by
  simp [readOctet?, readNat?_eq_none_of_mem hdigit hc]

/-- The dotted text of a version 4 number reads back. -/
theorem readDotted?_dotted {n : Nat} (h : n < Nat.pow 2 32) : readDotted? (dotted n) = some n := by
  have hdot : ∀ piece ∈ (toWords 256 4 n).map (Nat.toDigits 10), '.' ∉ piece := by
    intro piece hpiece
    obtain ⟨w, -, rfl⟩ := List.mem_map.1 hpiece
    exact not_mem_toDigits (by decide) (by decide) (by decide) w
  have hread : ((toWords 256 4 n).map (Nat.toDigits 10)).mapM readOctet?
      = some (toWords 256 4 n) :=
    mapM_map_of_read fun w hw => readOctet?_toDigits (toWords_lt (by decide) hw)
  have hvalue : ofWords 256 (toWords 256 4 n) = n := by
    rw [ofWords_toWords]
    exact Nat.mod_eq_of_lt h
  rw [readDotted?, dotted, splitOn_joinWith (by simp [toWords]) hdot, hread]
  exact congrArg some hvalue

/-- A text with a colon is no version 4 address. -/
theorem readDotted?_eq_none_of_mem {cs : List Char} (h : ':' ∈ cs) : readDotted? cs = none := by
  have hnone : (splitOn '.' cs).mapM readOctet? = none := by
    cases hm : (splitOn '.' cs).mapM readOctet? with
    | none => rfl
    | some ns =>
      rw [← joinWith_splitOn '.' cs] at h
      rcases mem_of_mem_joinWith h with h | ⟨piece, hpiece, h⟩
      · simp at h
      · obtain ⟨n, -, hn⟩ := exists_mem_of_mapM hm hpiece
        simp [readOctet?_eq_none_of_mem (by decide) h] at hn
  rw [readDotted?, hnone]

theorem ofNat?_of_lt {family : Family} {n : Nat} (h : n < Nat.pow 2 family.width) :
    ofNat? family n = some ⟨family, n, h⟩ := by
  rw [ofNat?, dif_pos h]

/-! ## Groups -/

theorem readGroup?_toDigits {g : Nat} (h : g < 65536) :
    readGroup? (Nat.toDigits 16 g) = some g := by
  have hlength : (Nat.toDigits 16 g).length ≤ 4 :=
    (Nat.length_toDigits_le_iff (by decide) (by decide)).2 (by omega)
  rw [readGroup?, if_pos hlength, readNat?_toDigits (by decide) (by decide)]

theorem colon_not_mem_toDigits (g : Nat) : ':' ∉ Nat.toDigits 16 g :=
  not_mem_toDigits (by decide) (by decide) (by decide) g

theorem readGroups?_cons {piece next : List Char} {pieces : List (List Char)} {g : Nat}
    {gs : List Nat} (hg : readGroup? piece = some g)
    (hgs : readGroups? (next :: pieces) = some gs) :
    readGroups? (piece :: next :: pieces) = some (g :: gs) := by
  rw [readGroups?, hg, hgs]
  simp

/-- The texts of groups read back. -/
theorem readGroups?_map {groups : List Nat} (h : ∀ g ∈ groups, g < 65536) :
    readGroups? (groups.map (Nat.toDigits 16)) = some groups := by
  induction groups with
  | nil => rfl
  | cons g gs ih =>
    have hg := readGroup?_toDigits (h g (by simp))
    have hgs := ih fun x hx => h x (by simp [hx])
    cases gs with
    | nil => simp [readGroups?, hg]
    | cons g' gs => exact readGroups?_cons hg hgs

theorem splitOn_colons {groups : List Nat} (h : groups ≠ []) :
    splitOn ':' (colons groups) = groups.map (Nat.toDigits 16) := by
  rw [colons]
  apply splitOn_joinWith (by simpa using h)
  intro piece hpiece
  obtain ⟨g, -, rfl⟩ := List.mem_map.1 hpiece
  exact colon_not_mem_toDigits g

theorem colons_eq_nil_iff {groups : List Nat} : colons groups = [] ↔ groups = [] := by
  constructor
  · intro h
    cases groups with
    | nil => rfl
    | cons g gs => cases gs <;> simp [colons, joinWith] at h
  · rintro rfl
    rfl

/-- The text of groups reads back as one side of an elision, with either reader of its pieces. -/
theorem readSide?_colons {read : List (List Char) → Option (List Nat)} {groups : List Nat}
    (h : read (groups.map (Nat.toDigits 16)) = some groups) :
    readSide? read (colons groups) = some groups := by
  by_cases hnil : groups = []
  · subst hnil
    rfl
  · have hne : colons groups ≠ [] := fun e => hnil (colons_eq_nil_iff.1 e)
    rw [readSide?, if_neg hne, splitOn_colons hnil, h]

/-! ## Elision -/

theorem splitElision?_cons {c : Char} (h : c ≠ ':') (cs : List Char) :
    splitElision? (c :: cs) = (splitElision? cs).map fun (a, b) => (c :: a, b) := by
  rw [splitElision?]
  intro ds e
  simp [h] at e

theorem splitElision?_colon_cons {d : Char} (h : d ≠ ':') (cs : List Char) :
    splitElision? (':' :: d :: cs)
      = (splitElision? (d :: cs)).map fun (a, b) => (':' :: a, b) := by
  rw [splitElision?]
  intro ds _ e
  simp [h] at e

/-- A text without a colon does not hold the elision, nor does it end in one half of it. -/
theorem splitElision?_append {p : List Char} (h : ':' ∉ p) (rest : List Char) :
    splitElision? (p ++ rest) = (splitElision? rest).map fun (a, b) => (p ++ a, b) := by
  induction p with
  | nil => cases hs : splitElision? rest <;> simp [hs]
  | cons c p ih =>
    simp only [List.mem_cons, not_or] at h
    rw [List.cons_append, splitElision?_cons (fun e => h.1 e.symm), ih h.2, Option.map_map]
    rfl

/-- A colon before the text of a group is no elision. -/
theorem splitElision?_colon_toDigits (g : Nat) (rest : List Char) :
    splitElision? (':' :: (Nat.toDigits 16 g ++ rest))
      = (splitElision? (Nat.toDigits 16 g ++ rest)).map fun (a, b) => (':' :: a, b) := by
  have hcolon := colon_not_mem_toDigits g
  cases hd : Nat.toDigits 16 g with
  | nil => exact absurd hd Nat.toDigits_ne_nil
  | cons d ds =>
    rw [hd] at hcolon
    simp only [List.mem_cons, not_or] at hcolon
    exact splitElision?_colon_cons (fun e => hcolon.1 e.symm) _

theorem colons_cons_cons (g g' : Nat) (gs : List Nat) :
    colons (g :: g' :: gs) = Nat.toDigits 16 g ++ ':' :: colons (g' :: gs) := by
  rw [colons, List.map_cons, List.map_cons, joinWith_cons_cons, List.append_assoc]
  rfl

/-- The text of groups begins with the digits of the first one. -/
theorem exists_colons_cons (g : Nat) (gs : List Nat) :
    ∃ rest, colons (g :: gs) = Nat.toDigits 16 g ++ rest := by
  cases gs with
  | nil => exact ⟨[], by simp [colons, joinWith]⟩
  | cons g' gs => exact ⟨_, colons_cons_cons g g' gs⟩

/-- The text of groups is passed over in the search for an elision. -/
theorem splitElision?_colons_append (groups : List Nat) (rest : List Char) :
    splitElision? (colons groups ++ rest)
      = (splitElision? rest).map fun (a, b) => (colons groups ++ a, b) := by
  induction groups with
  | nil => cases hs : splitElision? rest <;> simp [colons, joinWith, hs]
  | cons g gs ih =>
    cases gs with
    | nil =>
      have hone : colons [g] = Nat.toDigits 16 g := rfl
      rw [hone, splitElision?_append (colon_not_mem_toDigits g)]
    | cons g' gs =>
      obtain ⟨tail, htail⟩ := exists_colons_cons g' gs
      rw [colons_cons_cons, List.append_assoc, List.cons_append,
        splitElision?_append (colon_not_mem_toDigits g), htail, List.append_assoc,
        splitElision?_colon_toDigits, ← List.append_assoc, ← htail, ih, Option.map_map,
        Option.map_map]
      congr 1
      funext ab
      simp

/-- The text of groups holds no elision. -/
theorem splitElision?_colons (groups : List Nat) : splitElision? (colons groups) = none := by
  have h := splitElision?_colons_append groups []
  rw [List.append_nil] at h
  rw [h]
  rfl

/-- An elision between two texts of groups is found. -/
theorem splitElision?_elided (front back : List Nat) :
    splitElision? (colons front ++ ':' :: ':' :: colons back)
      = some (colons front, colons back) := by
  rw [splitElision?_colons_append]
  simp [splitElision?]

/-! ## The longest run -/

theorem take_zeroRun (groups : List Nat) :
    groups.take (zeroRun groups) = List.replicate (zeroRun groups) 0 := by
  induction groups with
  | nil => rfl
  | cons g gs ih =>
    by_cases hg : g = 0
    · subst hg
      have hrun : zeroRun (0 :: gs) = zeroRun gs + 1 := by simp [zeroRun]
      rw [hrun, List.take_succ_cons, ih, List.replicate_succ]
    · have hrun : zeroRun (g :: gs) = 0 := by simp [zeroRun, hg]
      rw [hrun]
      rfl

/-- A start and a length that mark a run of zeros, or nothing at all. -/
def MarksRun (groups : List Nat) (run : Nat × Nat) : Prop :=
  run.2 = zeroRun (groups.drop run.1) ∨ run.2 = 0

theorem marksRun_longestRun (groups : List Nat) : MarksRun groups (longestRun groups) := by
  unfold longestRun
  -- Each step keeps the mark or moves it to the run that starts at the next group.
  refine List.foldlRecOn (motive := MarksRun groups) _ _ (Or.inr rfl) ?_
  intro run h i _
  dsimp only
  split
  · exact Or.inl rfl
  · exact h

/-- What the longest run cuts the groups into: a front, zeros and a back. -/
theorem eq_append_of_longestRun {groups : List Nat} {start length : Nat}
    (h : longestRun groups = (start, length)) (hlong : 2 ≤ length) :
    groups = groups.take start ++ (List.replicate length 0 ++ groups.drop (start + length)) := by
  have hrun : length = zeroRun (groups.drop start) := by
    have hmarks := marksRun_longestRun groups
    rw [h] at hmarks
    rcases hmarks with hmarks | hmarks
    · exact hmarks
    · change length = 0 at hmarks
      omega
  have hzeros : (groups.drop start).take length = List.replicate length 0 := by
    rw [hrun]
    exact take_zeroRun _
  calc groups = groups.take start ++ groups.drop start := (List.take_append_drop _ _).symm
    _ = groups.take start ++ ((groups.drop start).take length
          ++ (groups.drop start).drop length) := by
      rw [List.take_append_drop length (groups.drop start)]
    _ = groups.take start ++ (List.replicate length 0 ++ groups.drop (start + length)) := by
      rw [hzeros, List.drop_drop]

/-! ## Version 6 -/

/-- The text of eight groups, elided or not, reads back. -/
theorem readColons?_elided {groups : List Nat} (hlength : groups.length = 8)
    (h : ∀ g ∈ groups, g < 65536) : readColons? (elided groups) = some groups := by
  cases hrun : longestRun groups with
  | mk start length =>
  rw [elided, hrun]
  dsimp only
  split
  case isTrue hlong =>
    have hgroups := eq_append_of_longestRun hrun hlong
    have hfrontLt : ∀ g ∈ groups.take start, g < 65536 := fun g hg => h g (List.mem_of_mem_take hg)
    have hbackLt : ∀ g ∈ groups.drop (start + length), g < 65536 :=
      fun g hg => h g (List.mem_of_mem_drop hg)
    generalize groups.take start = front at *
    generalize groups.drop (start + length) = back at *
    have hsum : front.length + length + back.length = 8 := by
      have := congrArg List.length hgroups
      simp only [List.length_append, List.length_replicate] at this
      omega
    have hreadFront : readSide? (·.mapM readGroup?) (colons front) = some front :=
      readSide?_colons (mapM_map_of_read fun g hg => readGroup?_toDigits (hfrontLt g hg))
    have hreadBack : readSide? readGroups? (colons back) = some back :=
      readSide?_colons (readGroups?_map hbackLt)
    have hfill : 8 - front.length - back.length = length := by omega
    rw [List.append_assoc, readColons?, List.cons_append, List.cons_append, List.nil_append,
      splitElision?_elided]
    simp only [hreadFront, hreadBack]
    rw [if_pos (by omega), hfill, List.append_assoc, ← hgroups]
  case isFalse =>
    have hne : groups ≠ [] := by
      rintro rfl
      simp at hlength
    rw [readColons?, splitElision?_colons]
    simp [splitOn_colons hne, readGroups?_map h, hlength]

theorem colon_mem_elided {groups : List Nat} (hlength : 2 ≤ groups.length) :
    ':' ∈ elided groups := by
  rw [elided]
  split
  split
  · simp
  · match groups, hlength with
    | g :: g' :: gs, _ => simp [colons_cons_cons]

theorem readGroup?_eq_none_of_mem {cs : List Char} {c : Char} (hdigit : digit? 16 c = none)
    (hc : c ∈ cs) : readGroup? cs = none := by
  simp [readGroup?, readNat?_eq_none_of_mem hdigit hc]

theorem dot_mem_dotted (n : Nat) : '.' ∈ dotted n := by
  simp [dotted, toWords, joinWith]

/-- What is neither a point nor a digit does not occur in dotted text. -/
theorem not_mem_dotted {c : Char} (hdot : c ≠ '.') (hdigit : digit? 10 c = none) (n : Nat) :
    c ∉ dotted n := by
  intro h
  rcases mem_of_mem_joinWith h with h | ⟨piece, hpiece, h⟩
  · exact hdot (by simpa using h)
  · obtain ⟨w, -, rfl⟩ := List.mem_map.1 hpiece
    exact not_mem_toDigits (by decide) (by decide) hdigit w h

/-- What is neither a colon nor a digit does not occur in the text of groups. -/
theorem not_mem_colons {c : Char} (hcolon : c ≠ ':') (hdigit : digit? 16 c = none)
    (groups : List Nat) : c ∉ colons groups := by
  intro h
  rcases mem_of_mem_joinWith h with h | ⟨piece, hpiece, h⟩
  · exact hcolon (by simpa using h)
  · obtain ⟨g, -, rfl⟩ := List.mem_map.1 hpiece
    exact not_mem_toDigits (by decide) (by decide) hdigit g h

/-- The text of a version 4 address mapped into version 6 reads back. -/
theorem readColons?_mapped {n : Nat} (h : n < Nat.pow 2 32) :
    readColons? (':' :: ':' :: 'f' :: 'f' :: 'f' :: 'f' :: ':' :: dotted n)
      = some [0, 0, 0, 0, 0, 0xffff, n / 65536, n % 65536] := by
  have hpieces : splitOn ':' ('f' :: 'f' :: 'f' :: 'f' :: ':' :: dotted n)
      = [['f', 'f', 'f', 'f'], dotted n] := by
    have hfirst : splitOn ':' (['f', 'f', 'f', 'f'] ++ ':' :: dotted n)
        = ['f', 'f', 'f', 'f'] :: splitOn ':' (dotted n) := splitOn_append (by decide) (dotted n)
    rw [splitOn_of_not_mem (not_mem_dotted (by decide) (by decide) n)] at hfirst
    exact hfirst
  have hlast : readGroups? [dotted n] = some [n / 65536, n % 65536] := by
    rw [readGroups?, readGroup?_eq_none_of_mem (by decide) (dot_mem_dotted n),
      readDotted?_dotted h]
    rfl
  have hgroups : readGroups? [['f', 'f', 'f', 'f'], dotted n]
      = some [0xffff, n / 65536, n % 65536] := readGroups?_cons (by decide) hlast
  rw [readColons?, splitElision?]
  simp [readSide?, hpieces, hgroups, List.replicate]

theorem value_of_isMapped {n : Nat} (h : isMapped n = true) :
    ofWords 65536
      [0, 0, 0, 0, 0, 0xffff, n % 0x100000000 / 65536, n % 0x100000000 % 65536] = n := by
  have hhigh : n / 0x100000000 = 0xffff := by simpa [isMapped] using h
  simp only [ofWords, List.foldl_cons, List.foldl_nil]
  omega

/-- **The canonical text of an address reads back as the address.** -/
theorem read?_text (a : Address) : read? a.text = some a := by
  obtain ⟨family, value, hvalue⟩ := a
  cases family with
  | v4 =>
    simp only [text, read?]
    rw [readDotted?_dotted hvalue]
    exact ofNat?_of_lt hvalue
  | v6 =>
    simp only [text]
    split
    case isTrue hmapped =>
      have hmarked : "::ffff:".toList ++ dotted (value % 0x100000000)
          = ':' :: ':' :: 'f' :: 'f' :: 'f' :: 'f' :: ':' :: dotted (value % 0x100000000) := rfl
      rw [hmarked, read?, readDotted?_eq_none_of_mem (by simp),
        readColons?_mapped (Nat.mod_lt _ (by decide))]
      simp only [Option.bind_some, value_of_isMapped hmapped]
      exact ofNat?_of_lt hvalue
    case isFalse =>
      have hwords : ofWords 65536 (toWords 65536 8 value) = value := by
        rw [ofWords_toWords]
        exact Nat.mod_eq_of_lt hvalue
      rw [read?, readDotted?_eq_none_of_mem (colon_mem_elided (by simp)),
        readColons?_elided (by simp) fun g hg => toWords_lt (by decide) hg]
      simp only [Option.bind_some, hwords]
      exact ofNat?_of_lt hvalue

theorem read?_render (a : Address) : read? a.render.toList = some a := by
  rw [render, String.toList_ofList, read?_text]

theorem slash_not_mem_text (a : Address) : '/' ∉ a.text := by
  have hdotted : ∀ n, '/' ∉ dotted n := not_mem_dotted (by decide) (by decide)
  have hcolons : ∀ groups, '/' ∉ colons groups := not_mem_colons (by decide) (by decide)
  obtain ⟨family, value, hvalue⟩ := a
  cases family with
  | v4 => exact hdotted value
  | v6 =>
    simp only [text]
    split
    · simp [hdotted]
    · rw [elided]
      split
      split <;> simp [hcolons]

end AttributeSchema.Net.Address

namespace AttributeSchema.Net.Subnet

open Text

theorem width_lt (family : Family) : family.width < 256 := by
  cases family <;> decide

theorem readLength?_toDigits {n : Nat} (h : n < 256) :
    readLength? (Nat.toDigits 10 n) = some n := by
  have hread : readNat? 10 (Nat.toDigits 10 n) = some n :=
    readNat?_toDigits (by decide) (by decide) n
  rw [readLength?, readPlusNat?_of_readNat? (by decide) hread]
  simp [h]

/-- **The text of a subnet reads back as the subnet.** -/
theorem read?_text (s : Subnet) : read? (text s.address s.length) = some s := by
  obtain ⟨address, length, hlength⟩ := s
  have hlt : length < 256 := Nat.lt_of_le_of_lt hlength (width_lt _)
  rw [read?, text, splitOnce?_append (Address.slash_not_mem_text address)]
  simp only [Address.read?_text, readLength?_toDigits hlt]
  rw [dif_pos hlength]

theorem read?_render (s : Subnet) : read? s.render.toList = some s := by
  rw [render, String.toList_ofList, read?_text]

end AttributeSchema.Net.Subnet
