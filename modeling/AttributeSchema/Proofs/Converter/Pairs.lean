import AttributeSchema.Converter.Basic
import AttributeSchema.Proofs.Text.Reading
import Mathlib.Data.List.Basic

/-!
# Collapsing pairs loses nothing but order and repetition

A list of texts `key=value` is collapsed into a mapping from each key to the set of its values, written
as an ascending list. What the mapping holds is determined by which pairs occur in the list, so order
and repetition do not matter, and writing the mapping out as pairs and collapsing them again gives the
mapping back. Main statement: `Convert.collapsePairs_lossless`.
-/

namespace AttributeSchema.Convert

/-! ## Pairs -/

/-- The value is the text `key=value`, cut at its first equals sign, and the key is not empty. -/
structure IsPair (x : Json) (key value : String) : Prop where
  text : x = .string (key ++ "=" ++ value)
  key_ne : key ≠ ""
  first : '=' ∉ key.toList

theorem toList_pair (key value : String) :
    (key ++ "=" ++ value).toList = key.toList ++ '=' :: value.toList := by
  simp

theorem pair?_eq_some_iff {s key value : String} :
    pair? s = some (key, value) ↔ IsPair (.string s) key value := by
  constructor
  · intro h
    rw [pair?] at h
    split at h
    case h_1 => simp at h
    case h_2 k v hne hcut =>
      obtain ⟨rfl, rfl⟩ : String.ofList k = key ∧ String.ofList v = value := by simpa using h
      obtain ⟨htext, hfirst⟩ := Text.eq_append_of_splitOnce? hcut
      refine ⟨?_, by simpa using hne, by simpa using hfirst⟩
      rw [Json.string.injEq, ← String.toList_inj, toList_pair, htext, String.toList_ofList,
        String.toList_ofList]
    case h_3 => simp at h
  · rintro ⟨htext, hne, hfirst⟩
    rw [Json.string.injEq] at htext
    rw [pair?, htext, toList_pair, Text.splitOnce?_append hfirst]
    cases hkey : key.toList with
    | nil => exact absurd (String.toList_eq_nil_iff.1 hkey) hne
    | cons c cs => simp only [← hkey, String.ofList_toList]

/-- A value is a pair in one way only. -/
theorem IsPair.unique {x : Json} {key value k v : String} (h : IsPair x key value)
    (h' : IsPair x k v) : key = k ∧ value = v := by
  obtain rfl := h.text
  have hsome := (pair?_eq_some_iff.2 h).symm.trans (pair?_eq_some_iff.2 h')
  simpa using hsome

/-- The pairs are the texts with an equals sign whose first one is not the first character. -/
theorem exists_isPair_iff {x : Json} :
    (∃ key value, IsPair x key value) ↔
      ∃ s : String, x = .string s ∧ '=' ∈ s.toList ∧ s.toList.head? ≠ some '=' := by
  constructor
  · rintro ⟨key, value, rfl, hne, hfirst⟩
    refine ⟨_, rfl, by simp, ?_⟩
    rw [toList_pair]
    cases hkey : key.toList with
    | nil => exact absurd (String.toList_eq_nil_iff.1 hkey) hne
    | cons c cs =>
      rw [hkey, List.mem_cons, not_or] at hfirst
      simpa using fun h => hfirst.1 h.symm
  · rintro ⟨s, rfl, hmem, hhead⟩
    obtain ⟨k, v, htext, hfirst⟩ := List.eq_append_cons_of_mem hmem
    refine ⟨String.ofList k, String.ofList v, ?_, ?_, by simpa using hfirst⟩
    · rw [Json.string.injEq, ← String.toList_inj, toList_pair, htext, String.toList_ofList,
        String.toList_ofList]
    · rintro hk
      have hnil : k = [] := by simpa using hk
      simp [htext, hnil] at hhead

/-! ## Sets as ascending lists -/

theorem mem_insertAscending {s t : String} {xs : List String} :
    t ∈ insertAscending s xs ↔ t = s ∨ t ∈ xs := by
  induction xs with
  | nil => simp [insertAscending]
  | cons x xs ih =>
    rw [insertAscending]
    split
    case isTrue => simp
    case isFalse =>
      split
      case isTrue hx => simp [hx]
      case isFalse => simp [ih, or_left_comm]

theorem pairwise_insertAscending {s : String} {xs : List String} (h : xs.Pairwise (· < ·)) :
    (insertAscending s xs).Pairwise (· < ·) := by
  induction xs with
  | nil => exact List.pairwise_singleton _ _
  | cons x xs ih =>
    obtain ⟨hx, hxs⟩ := List.pairwise_cons.1 h
    rw [insertAscending]
    split
    case isTrue hlt =>
      refine List.pairwise_cons.2 ⟨fun y hy => ?_, h⟩
      rcases List.mem_cons.1 hy with rfl | hy
      · exact hlt
      · exact String.lt_trans hlt (hx y hy)
    case isFalse hnlt =>
      split
      case isTrue => exact h
      case isFalse hne =>
        refine List.pairwise_cons.2 ⟨fun y hy => ?_, ih hxs⟩
        rcases mem_insertAscending.1 hy with rfl | hy
        · exact (Std.lt_trichotomy x y).resolve_right fun h => h.elim (fun e => hne e.symm) hnlt
        · exact hx y hy

/-- An ascending list without repetition is determined by what occurs in it. -/
theorem eq_of_ascending {xs ys : List String} (hxs : xs.Pairwise (· < ·)) (hys : ys.Pairwise (· < ·))
    (h : ∀ s, s ∈ xs ↔ s ∈ ys) : xs = ys := by
  have hne : ∀ s t : String, s < t → s ≠ t := by
    rintro s _ hlt rfl
    exact String.lt_irrefl s hlt
  have hperm : xs.Perm ys :=
    (List.perm_ext_iff_of_nodup (hxs.imp (hne _ _)) (hys.imp (hne _ _))).2 h
  exact hperm.eq_of_pairwise
    (fun s _ _ _ hst hts => absurd (String.lt_trans hst hts) (String.lt_irrefl s)) hxs hys

/-! ## What a dictionary of values holds -/

/-- The values of a key, none if it has no entry. -/
def valuesOf (d : Dict (List String)) (key : String) : List String := (d.get? key).getD []

/-- The dictionary has, for each key, the values that are related to it, as an ascending list, and no
entries besides. -/
structure Groups (d : Dict (List String)) (R : String → String → Prop) : Prop where
  ne_nil : ∀ key, d.get? key ≠ some []
  ascending : ∀ key, (valuesOf d key).Pairwise (· < ·)
  mem_iff : ∀ key value, value ∈ valuesOf d key ↔ R key value

theorem groups_empty : Groups ∅ fun _ _ => False where
  ne_nil _ := by simp
  ascending _ := List.Pairwise.nil
  mem_iff _ _ := by simp [valuesOf]

theorem valuesOf_of_get? {d : Dict (List String)} {key : String} {values : List String}
    (h : d.get? key = some values) : valuesOf d key = values := by
  rw [valuesOf, h, Option.getD_some]

section Groups

variable {d e : Dict (List String)} {R : String → String → Prop}

/-- Only a key with a related value has an entry. -/
theorem Groups.contains_iff (h : Groups d R) (key : String) :
    d.contains key = true ↔ ∃ value, R key value := by
  rw [Dict.contains, Option.isSome_iff_exists]
  constructor
  · rintro ⟨values, hvalues⟩
    have hne : values ≠ [] := fun e => h.ne_nil key (e ▸ hvalues)
    obtain ⟨value, hvalue⟩ := List.exists_mem_of_ne_nil values hne
    exact ⟨value, (h.mem_iff key value).1 (valuesOf_of_get? hvalues ▸ hvalue)⟩
  · rintro ⟨value, hvalue⟩
    have hmem := (h.mem_iff key value).2 hvalue
    cases hget : d.get? key with
    | none => simp [valuesOf, hget] at hmem
    | some values => exact ⟨values, rfl⟩

/-- What a dictionary holds determines it. -/
theorem Groups.unique (hd : Groups d R) (he : Groups e R) : d = e := by
  ext1 key
  have hvalues : valuesOf d key = valuesOf e key :=
    eq_of_ascending (hd.ascending key) (he.ascending key) fun value =>
      (hd.mem_iff key value).trans (he.mem_iff key value).symm
  have hcontains : d.contains key = true ↔ e.contains key = true :=
    (hd.contains_iff key).trans (he.contains_iff key).symm
  rw [Dict.contains, Dict.contains] at hcontains
  rw [valuesOf, valuesOf] at hvalues
  cases hx : d.get? key <;> cases hy : e.get? key <;> simp_all

theorem Groups.congr {S : String → String → Prop} (h : Groups d R)
    (hRS : ∀ key value, R key value ↔ S key value) : Groups d S where
  ne_nil := h.ne_nil
  ascending := h.ascending
  mem_iff key value := (h.mem_iff key value).trans (hRS key value)

/-- Adding a value to a key relates it to the key, and changes nothing else. -/
theorem Groups.addPair (h : Groups d R) (key value : String) :
    Groups (addPair d key value) fun k v => (k = key ∧ v = value) ∨ R k v := by
  have hget : ∀ k, (Convert.addPair d key value).get? k
      = if k = key then some (insertAscending value (valuesOf d key)) else d.get? k :=
    fun k => Dict.get?_insert d key k _
  have hvalues : ∀ k, valuesOf (Convert.addPair d key value) k
      = if k = key then insertAscending value (valuesOf d key) else valuesOf d k := by
    intro k
    rw [valuesOf, hget]
    split <;> rfl
  refine ⟨fun k => ?_, fun k => ?_, fun k v => ?_⟩
  · rw [hget]
    split
    case isTrue =>
      intro hnil
      have hmem : value ∈ insertAscending value (valuesOf d key) := mem_insertAscending.2 (Or.inl rfl)
      rw [Option.some.inj hnil] at hmem
      exact List.not_mem_nil hmem
    case isFalse => exact h.ne_nil k
  · rw [hvalues]
    split
    case isTrue => exact pairwise_insertAscending (h.ascending key)
    case isFalse => exact h.ascending k
  · rw [hvalues]
    split
    case isTrue hk => rw [mem_insertAscending, h.mem_iff, hk]; simp
    case isFalse hk => rw [h.mem_iff]; simp [hk]

end Groups

/-! ## Collecting -/

/-- Some item of a list is the pair of a key and a value. -/
def Gives (xs : List Json) (key value : String) : Prop := ∃ x ∈ xs, IsPair x key value

theorem exists_collectPairs_iff {d : Dict (List String)} {xs : List Json} :
    (∃ e, collectPairs d xs = .ok e) ↔ ∀ x ∈ xs, ∃ key value, IsPair x key value := by
  induction xs generalizing d with
  | nil => simp [collectPairs]
  | cons x xs ih =>
    rw [List.forall_mem_cons]
    cases x with
    | string s =>
      rw [collectPairs]
      split
      case h_1 key value hpair =>
        have hx := pair?_eq_some_iff.1 hpair
        exact ih.trans ⟨fun h => ⟨⟨key, value, hx⟩, h⟩, And.right⟩
      case h_2 hnone =>
        simp only [reduceCtorEq, exists_false, false_iff, not_and]
        rintro ⟨key, value, hx⟩
        simp [pair?_eq_some_iff.2 hx] at hnone
    | _ =>
      simp only [collectPairs, reduceCtorEq, exists_false, false_iff, not_and]
      rintro ⟨key, value, hx⟩
      exact absurd hx.text (by simp)

/-- Collecting relates to each key the values that the list gives it, besides those it had. -/
theorem Groups.collectPairs {d e : Dict (List String)} {R : String → String → Prop} {xs : List Json}
    (hd : Groups d R) (h : collectPairs d xs = .ok e) :
    Groups e fun key value => R key value ∨ Gives xs key value := by
  induction xs generalizing d R with
  | nil =>
    obtain rfl := Except.ok.inj h
    exact hd.congr (by simp [Gives])
  | cons x xs ih =>
    cases x with
    | string s =>
      rw [Convert.collectPairs] at h
      split at h
      case h_1 key value hpair =>
        have hx := pair?_eq_some_iff.1 hpair
        refine (ih (hd.addPair key value) h).congr fun k v => ?_
        have hfirst : IsPair (.string s) k v ↔ k = key ∧ v = value :=
          ⟨fun hkv => hkv.unique hx, fun ⟨hk, hv⟩ => hk ▸ hv ▸ hx⟩
        simp only [Gives, List.exists_mem_cons_iff, hfirst]
        exact or_assoc.trans or_left_comm
      case h_2 => simp at h
    | _ => simp [Convert.collectPairs] at h

/-! ## Collapsing -/

/-- The object of a dictionary of values. -/
def mapping (d : Dict (List String)) : Json :=
  .object (d.entries.map fun (key, values) => (key, .array (values.map Json.string)))

/-- The pairs of a dictionary of values, written out. -/
def pairTexts (d : Dict (List String)) : List Json :=
  d.entries.flatMap fun (key, values) => values.map fun value => .string (key ++ "=" ++ value)

/-- The keys are not empty and hold no equals sign, and each has an ascending list of values without
repetition that is not empty. -/
structure IsCollapsed (d : Dict (List String)) : Prop where
  key_ne : ∀ key values, d.get? key = some values → key ≠ ""
  first : ∀ key values, d.get? key = some values → '=' ∉ key.toList
  values_ne : ∀ key values, d.get? key = some values → values ≠ []
  ascending : ∀ key values, d.get? key = some values → values.Pairwise (· < ·)

theorem mem_pairTexts_iff {d : Dict (List String)} {x : Json} :
    x ∈ pairTexts d ↔ ∃ key, ∃ value ∈ valuesOf d key, x = .string (key ++ "=" ++ value) := by
  rw [pairTexts, List.mem_flatMap]
  constructor
  · rintro ⟨⟨key, values⟩, hentry, hx⟩
    obtain ⟨value, hvalue, rfl⟩ := List.mem_map.1 hx
    exact ⟨key, value, valuesOf_of_get? (Dict.mem_entries_iff.1 hentry) ▸ hvalue, rfl⟩
  · rintro ⟨key, value, hvalue, rfl⟩
    cases hget : d.get? key with
    | none => simp [valuesOf, hget] at hvalue
    | some values =>
      rw [valuesOf_of_get? hget] at hvalue
      exact ⟨(key, values), Dict.mem_entries_iff.2 hget, List.mem_map.2 ⟨value, hvalue, rfl⟩⟩

/-- The texts of a collapsed dictionary give each key its values. -/
theorem IsCollapsed.isPair {d : Dict (List String)} (h : IsCollapsed d) {key value : String}
    (hvalue : value ∈ valuesOf d key) : IsPair (.string (key ++ "=" ++ value)) key value := by
  cases hget : d.get? key with
  | none => simp [valuesOf, hget] at hvalue
  | some values => exact ⟨rfl, h.key_ne key values hget, h.first key values hget⟩

theorem IsCollapsed.groups {d : Dict (List String)} (h : IsCollapsed d) :
    Groups d (Gives (pairTexts d)) where
  ne_nil key hnil := h.values_ne key [] hnil rfl
  ascending key := by
    cases hget : d.get? key with
    | none => simp [valuesOf, hget]
    | some values => exact valuesOf_of_get? hget ▸ h.ascending key values hget
  mem_iff key value := by
    constructor
    · intro hvalue
      exact ⟨_, mem_pairTexts_iff.2 ⟨key, value, hvalue, rfl⟩, h.isPair hvalue⟩
    · rintro ⟨x, hx, hpair⟩
      obtain ⟨k, v, hv, rfl⟩ := mem_pairTexts_iff.1 hx
      obtain ⟨rfl, rfl⟩ := hpair.unique (h.isPair hv)
      exact hv

/-- What a list gives is a collapsed dictionary. -/
theorem Groups.isCollapsed {d : Dict (List String)} {xs : List Json} (h : Groups d (Gives xs)) :
    IsCollapsed d := by
  have hpair : ∀ key values, d.get? key = some values → ∃ x value, IsPair x key value := by
    intro key values hget
    obtain ⟨value, x, -, hx⟩ := (h.contains_iff key).1 (by rw [Dict.contains, hget]; rfl)
    exact ⟨x, value, hx⟩
  refine ⟨fun key values hget => ?_, fun key values hget => ?_, fun key values hget hnil => ?_,
    fun key values hget => ?_⟩
  · obtain ⟨x, value, hx⟩ := hpair key values hget
    exact hx.key_ne
  · obtain ⟨x, value, hx⟩ := hpair key values hget
    exact hx.first
  · exact h.ne_nil key (hnil ▸ hget)
  · exact valuesOf_of_get? hget ▸ h.ascending key

theorem isFlag_iff {xs : List Json} : isFlag xs = true ↔ xs = [.string "True"] := by
  rw [isFlag.eq_def]
  split
  case h_1 s => simp
  case h_2 hne =>
    simp only [Bool.false_eq_true, false_iff]
    exact fun h => hne "True" h

/-- A list of pairs is not the flag. -/
theorem isFlag_of_pairs {xs : List Json} (h : ∀ x ∈ xs, ∃ key value, IsPair x key value) :
    isFlag xs = false := by
  rw [Bool.eq_false_iff, ne_eq, isFlag_iff]
  rintro rfl
  obtain ⟨s, hs, hmem, -⟩ := exists_isPair_iff.1 (h _ List.mem_cons_self)
  obtain rfl := Json.string.inj hs
  exact absurd hmem (by decide)

/-- Unless the list is the flag, it is collapsed to what its pairs give. -/
theorem collapsePairs_eq_ok_iff {xs : List Json} (hflag : isFlag xs = false) {v : Json} :
    collapsePairs xs = .ok v ↔
      (∀ x ∈ xs, ∃ key value, IsPair x key value) ∧ ∃ d, Groups d (Gives xs) ∧ v = mapping d := by
  have hgroups : ∀ {d}, collectPairs ∅ xs = .ok d → Groups d (Gives xs) := fun hd =>
    (groups_empty.collectPairs hd).congr fun key value => by simp
  rw [collapsePairs, hflag]
  constructor
  · intro h
    cases hd : collectPairs ∅ xs with
    | error e => simp [hd] at h
    | ok d =>
      have hv : mapping d = v := by simpa [hd, mapping] using h
      exact ⟨exists_collectPairs_iff.1 ⟨d, hd⟩, d, hgroups hd, hv.symm⟩
  · rintro ⟨hpairs, d, hd, rfl⟩
    obtain ⟨e, he⟩ := exists_collectPairs_iff.2 hpairs
    obtain rfl := (hgroups he).unique hd
    simp [he, mapping]

/-- A dictionary is what the list of its own pairs is collapsed to. -/
theorem IsCollapsed.collapsePairs_pairTexts {d : Dict (List String)} (h : IsCollapsed d) :
    collapsePairs (pairTexts d) = .ok (mapping d) := by
  have hpairs : ∀ x ∈ pairTexts d, ∃ key value, IsPair x key value := by
    intro x hx
    obtain ⟨key, value, hvalue, rfl⟩ := mem_pairTexts_iff.1 hx
    exact ⟨key, value, h.isPair hvalue⟩
  exact (collapsePairs_eq_ok_iff (isFlag_of_pairs hpairs)).2 ⟨hpairs, d, h.groups, rfl⟩

/-- **Collapsing pairs loses nothing but order and repetition.** A list other than the flag is collapsed
exactly if each item is a text whose first equals sign is not its first character. The result has the
keys that some pair has, in ascending order, and for each of them the ascending list, without
repetition, of exactly the values that the pairs give it. So every list with the same items is collapsed
to the same mapping, and so are the pairs of that mapping written out; and every mapping of this shape
is what its own pairs are collapsed to. -/
theorem collapsePairs_lossless :
    (∀ xs : List Json, xs ≠ [.string "True"] →
      ((∃ v, collapsePairs xs = .ok v) ↔
        ∀ x ∈ xs, ∃ s : String, x = .string s ∧ '=' ∈ s.toList ∧ s.toList.head? ≠ some '=') ∧
      ∀ v, collapsePairs xs = .ok v →
        (∃ d : Dict (List String), v = mapping d ∧ d.keys.Pairwise (· < ·) ∧
          (∀ key, key ∈ d.keys ↔ ∃ value, Gives xs key value) ∧
          (∀ key values, d.get? key = some values →
            values.Pairwise (· < ·) ∧ ∀ value, value ∈ values ↔ Gives xs key value) ∧
          collapsePairs (pairTexts d) = .ok v) ∧
        ∀ ys : List Json, (∀ x, x ∈ ys ↔ x ∈ xs) → collapsePairs ys = .ok v) ∧
    ∀ d : Dict (List String), IsCollapsed d → collapsePairs (pairTexts d) = .ok (mapping d) := by
  refine ⟨fun xs hxs => ?_, fun d hd => hd.collapsePairs_pairTexts⟩
  have hflag : isFlag xs = false := by rwa [Bool.eq_false_iff, ne_eq, isFlag_iff]
  refine ⟨?succeeds, fun v hv => ?_⟩
  case succeeds =>
    simp only [← exists_isPair_iff]
    constructor
    · rintro ⟨v, hv⟩
      exact ((collapsePairs_eq_ok_iff hflag).1 hv).1
    · intro hpairs
      obtain ⟨d, hd⟩ : ∃ d, collectPairs ∅ xs = .ok d := exists_collectPairs_iff.2 hpairs
      exact ⟨mapping d, by simp [collapsePairs, hflag, hd, mapping]⟩
  obtain ⟨hpairs, d, hd, rfl⟩ := (collapsePairs_eq_ok_iff hflag).1 hv
  refine ⟨⟨d, rfl, ?keys, fun key => ?_, fun key values hget => ?_,
    hd.isCollapsed.collapsePairs_pairTexts⟩, fun ys hys => ?again⟩
  case keys =>
    rw [Dict.keys, List.pairwise_map]
    exact d.ascending
  · exact Dict.mem_keys_iff.trans (hd.contains_iff key)
  · rw [← valuesOf_of_get? hget]
    exact ⟨hd.ascending key, hd.mem_iff key⟩
  case again =>
    -- What a list gives, and whether all of it are pairs, depends on what occurs in it.
    have hpairs' : ∀ y ∈ ys, ∃ key value, IsPair y key value := fun y hy => hpairs y ((hys y).1 hy)
    have hgives : ∀ key value, Gives xs key value ↔ Gives ys key value := fun key value => by
      simp only [Gives, hys]
    exact (collapsePairs_eq_ok_iff (isFlag_of_pairs hpairs')).2 ⟨hpairs', d, hd.congr hgives, rfl⟩

/-- Four pairs, of which two are the same one and one has a value with an equals sign. -/
theorem collapsePairs_lossless_flavors :
    [Json.string "b=", .string "a=2", .string "a=1=2", .string "a=2"] ≠ [.string "True"] ∧
      IsCollapsed (Dict.ofPairs [("a", ["1=2", "2"]), ("b", [""])]) ∧
      (∀ x ∈ [Json.string "b=", .string "a=2", .string "a=1=2", .string "a=2"],
        ∃ s : String, x = .string s ∧ '=' ∈ s.toList ∧ s.toList.head? ≠ some '=') ∧
      collapsePairs [.string "a=1=2", .string "b=", .string "a=2"]
        = .ok (.object [("a", .array [.string "1=2", .string "2"]), ("b", .array [.string ""])]) ∧
      collapsePairs (pairTexts (Dict.ofPairs [("a", ["1=2", "2"]), ("b", [""])]))
        = .ok (mapping (Dict.ofPairs [("a", ["1=2", "2"]), ("b", [""])])) := by
  have hne : [Json.string "b=", .string "a=2", .string "a=1=2", .string "a=2"] ≠ [.string "True"] := by
    simp
  have hentries : ∀ key values,
      (Dict.ofPairs [("a", ["1=2", "2"]), ("b", [""])]).get? key = some values →
      (key = "a" ∧ values = ["1=2", "2"]) ∨ (key = "b" ∧ values = [""]) := fun key values hget => by
    simpa using Dict.mem_of_get?_ofPairs hget
  have hcollapsed : IsCollapsed (Dict.ofPairs [("a", ["1=2", "2"]), ("b", [""])]) := by
    constructor
    all_goals
      intro key values hget
      rcases hentries key values hget with ⟨rfl, rfl⟩ | ⟨rfl, rfl⟩ <;> decide
  have hresult : collapsePairs [.string "b=", .string "a=2", .string "a=1=2", .string "a=2"]
      = .ok (.object [("a", .array [.string "1=2", .string "2"]), ("b", .array [.string ""])]) := by
    rfl
  obtain ⟨hlists, hmappings⟩ := collapsePairs_lossless
  obtain ⟨hsucceeds, hresults⟩ := hlists _ hne
  refine ⟨hne, hcollapsed, hsucceeds.1 ⟨_, hresult⟩, (hresults _ hresult).2 _ fun x => ?_,
    hmappings _ hcollapsed⟩
  simp only [List.mem_cons, List.not_mem_nil, or_false]
  tauto

/-- A text may have a later equals sign and still not be a pair. -/
theorem not_collapsePairs_of_later_equals :
    [Json.string "=a=b"] ≠ [.string "True"] ∧
      (∀ x ∈ [Json.string "=a=b"],
        ∃ s : String, x = .string s ∧ ∃ i, 0 < i ∧ s.toList[i]? = some '=') ∧
      ¬ ∃ v, collapsePairs [.string "=a=b"] = .ok v := by
  have hfails : collapsePairs [.string "=a=b"] = .error (.notPair (.string "=a=b")) := by rfl
  refine ⟨by simp, ?_, by simp [hfails]⟩
  intro x hx
  exact ⟨"=a=b", by simpa using hx, 2, by decide, by decide⟩

end AttributeSchema.Convert
