import AttributeSchema.Proofs.Request.Congruence

/-!
# Marks and absence

An attribute that is marked as unspecified takes up an entry of the body, and one that is absent does
not. For a declared attribute this is all the difference there is: a preparation treats both alike,
and no object that is read off a body shows it. Main statement: `Request.prepare_marks`.
-/

namespace AttributeSchema

/-! ## Selected entries -/

namespace Entries

variable {α β : Type}

theorem lookup_filter (p : String → Bool) (es : List (String × α)) (key : String) :
    (es.filter fun e => p e.1).lookup key = if p key then es.lookup key else none := by
  induction es with
  | nil => simp
  | cons e es ih =>
    obtain ⟨k, v⟩ := e
    by_cases hkey : key = k
    · subst hkey
      cases hp : p key with
      | true => simp [hp]
      | false => simp [hp, ih]
    · have hb : (key == k) = false := by simpa using hkey
      cases hp : p k with
      | true => simp [hp, List.lookup_cons, hb, ih]
      | false => simp [hp, List.lookup_cons, hb, ih]

theorem Ascending.filterMap {es : List (String × α)} (h : Ascending es) (f : α → Option β) :
    Ascending (es.filterMap fun e => (f e.2).map fun v => (e.1, v)) := by
  refine List.Pairwise.filterMap _ (fun e e' hlt x hx x' hx' => ?_) h
  obtain ⟨v, -, rfl⟩ := Option.map_eq_some_iff.1 hx
  obtain ⟨v', -, rfl⟩ := Option.map_eq_some_iff.1 hx'
  exact hlt

theorem lookup_filterMap {es : List (String × α)} (h : Ascending es) (f : α → Option β)
    (key : String) :
    (es.filterMap fun e => (f e.2).map fun v => (e.1, v)).lookup key =
      (es.lookup key).bind f := by
  induction es with
  | nil => rfl
  | cons e es ih =>
    obtain ⟨k, v⟩ := e
    obtain ⟨hk, hes⟩ := List.pairwise_cons.1 h
    by_cases hkey : key = k
    · subst hkey
      cases hf : f v with
      | none =>
        rw [List.filterMap_cons_none (by simp [hf]), ih hes, lookup_eq_none_of_lt hk]
        simp [hf]
      | some w => simp [hf]
    · have hb : (key == k) = false := by simpa using hkey
      cases hf : f v with
      | none => simp [hf, List.lookup_cons, hb, ih hes]
      | some w => simp [hf, List.lookup_cons, hb, ih hes]

end Entries

/-! ## What the states of a body determine -/

namespace Body

variable {b b' : Body}

theorem lookup_toObject (b : Body) (key : String) :
    b.toObject.lookup key = (b.slot key).toJson? := by
  rw [toObject, Entries.lookup_filterMap b.ascending, slot, Dict.get?]
  cases b.entries.lookup key <;> rfl

/-- Bodies in the same states are the same object. -/
theorem toObject_congr (h : ∀ key, b.slot key = b'.slot key) : b.toObject = b'.toObject := by
  refine Entries.ext_lookup (b.ascending.filterMap _) (b'.ascending.filterMap _) fun key => ?_
  calc
    b.toObject.lookup key = (b.slot key).toJson? := lookup_toObject b key
    _ = (b'.slot key).toJson? := by rw [h key]
    _ = b'.toObject.lookup key := (lookup_toObject b' key).symm

/-- Two bodies between which some declared attributes are absent in the one and marked as unspecified
in the other, and which agree about all else. -/
def SameButMarks (schema : Schema) (b b' : Body) : Prop :=
  ∀ key, b.get? key = b'.get? key ∨
    (schema.declares key = true ∧ b.slot key = .unspecified ∧ b'.slot key = .unspecified)

variable {schema : Schema}

theorem SameButMarks.slot (h : SameButMarks schema b b') (key : String) :
    b.slot key = b'.slot key := by
  rcases h key with hget | ⟨-, hb, hb'⟩
  · exact slot_congr hget
  · exact hb.trans hb'.symm

/-- A mark more or less makes no difference. -/
theorem sameButMarks_insert {key : String} (hkey : schema.declares key = true)
    (hslot : b.slot key = .unspecified) : SameButMarks schema b (b.insert key .unspecified) := by
  intro k
  by_cases hk : k = key
  · subst hk
    exact Or.inr ⟨hkey, hslot, slot_insert_self b k _⟩
  · exact Or.inl (by rw [Dict.get?_insert, if_neg hk])

/-- No stage makes more of a mark than of absence. -/
theorem congruence_sameButMarks (watched : String → Prop) :
    Congruence watched (SameButMarks schema) where
  slot h _ := h.slot _
  insert := by
    intro b b' key h _ s k
    rw [Dict.get?_insert, Dict.get?_insert, slot_insert, slot_insert]
    by_cases hk : k = key
    · exact Or.inl (by rw [if_pos hk, if_pos hk])
    · simpa only [if_neg hk] using h k
  erase := by
    intro b b' key h _ k
    rw [Dict.get?_erase, Dict.get?_erase, slot_erase, slot_erase]
    by_cases hk : k = key
    · exact Or.inl (by rw [if_pos hk, if_pos hk])
    · simpa only [if_neg hk] using h k

/-- The same attributes are found that are not declared. -/
theorem SameButMarks.undeclared (h : SameButMarks schema b b') :
    (b.keys.filter fun key => !schema.declares key) =
      b'.keys.filter fun key => !schema.declares key := by
  have hentries : (b.entries.filter fun e => !schema.declares e.1) =
      b'.entries.filter fun e => !schema.declares e.1 := by
    refine Entries.ext_lookup (b.ascending.filter _) (b'.ascending.filter _) fun key => ?_
    rw [Entries.lookup_filter (fun key => !schema.declares key),
      Entries.lookup_filter (fun key => !schema.declares key)]
    -- The bodies may differ at declared attributes only, and these are left out.
    rcases h key with hget | ⟨hdeclared, -, -⟩
    · rw [← Dict.get?, ← Dict.get?, hget]
    · rw [hdeclared]
      rfl
  rw [Dict.keys, Dict.keys, List.filter_map, List.filter_map]
  exact congrArg _ hentries

end Body

namespace Request

open Outcome (Alike)

variable {schema : Schema} {b b' : Body}

theorem alike_verifyAttributes (h : b.SameButMarks schema b') :
    Alike (Body.SameButMarks schema) (verifyAttributes schema b) (verifyAttributes schema b') := by
  unfold verifyAttributes
  rw [h.undeclared]
  split
  · exact .done h
  · exact .fail h _

/-- **Marks and absence are one state of a declared attribute.** Two bodies that differ in such marks
only are prepared with the same verdict, and as objects the bodies are the same afterwards, whether
the preparation succeeds or not. -/
theorem prepare_marks (schema : Schema) (config : Config) (caller : Caller) (action : Action)
    (b b' : Body) (h : b.SameButMarks schema b') :
    (prepare schema config caller action b).error? =
        (prepare schema config caller action b').error? ∧
      (prepare schema config caller action b).body.toObject =
        (prepare schema config caller action b').body.toObject := by
  have halike : Alike (Body.SameButMarks schema) (prepare schema config caller action b)
      (prepare schema config caller action b') :=
    alike_prepare (Body.congruence_sameButMarks _) (fun _ _ _ => alike_verifyAttributes) h
  exact ⟨halike.error, Body.toObject_congr halike.body.slot⟩

/-- The address of a port may be left out or marked, although the name is required and missing. -/
theorem prepare_marks_port :
    let schema : Schema := ⟨"ports", Dict.ofPairs
      [("address", { allowPost := true, default? := some .unspecified }),
        ("name", { allowPost := true })]⟩
    let sent := Body.ofObject [("note", .bool true)]
    let marked := sent.insert "address" .unspecified
    sent ≠ marked ∧
      (prepare schema {} .anonymous .create sent).error? =
        (prepare schema {} .anonymous .create marked).error? ∧
      (prepare schema {} .anonymous .create sent).body.toObject =
        (prepare schema {} .anonymous .create marked).body.toObject := by
  intro schema sent marked
  have hne : sent ≠ marked := by
    intro heq
    have hget : sent.get? "address" = marked.get? "address" := by rw [← heq]
    have habsent : sent.get? "address" = none := by cbv
    rw [habsent, Dict.get?_insert_self] at hget
    simp at hget
  have hmarked : sent.SameButMarks schema marked := Body.sameButMarks_insert (by cbv) (by cbv)
  exact ⟨hne, prepare_marks schema {} .anonymous .create sent marked hmarked⟩

end Request

end AttributeSchema
