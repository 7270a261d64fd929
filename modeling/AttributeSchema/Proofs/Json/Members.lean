import AttributeSchema.Dict
import AttributeSchema.Json.Members
import Mathlib.Data.List.Perm.Basic

/-!
# Members with different keys

As long as no key is repeated, the order of the members does not matter for look-ups. So a removal,
which moves the last member into the gap, changes the look-up of its own key only. Insertion and
removal repeat no key. Main statement: `Members.lookup_swapRemove`.
-/

namespace AttributeSchema.Members

variable {α : Type} {ms ns : List (String × α)}

theorem pairwise_ne_iff_nodup : (ms.Pairwise fun a b => a.1 ≠ b.1) ↔ (keys ms).Nodup :=
  List.pairwise_map.symm

theorem lookup_of_perm (hdistinct : ms.Pairwise fun a b => a.1 ≠ b.1) (h : ms.Perm ns)
    (key : String) : ms.lookup key = ns.lookup key := by
  have hns : ns.Pairwise fun a b => a.1 ≠ b.1 := h.pairwise hdistinct fun hne => hne.symm
  ext value
  rw [Entries.lookup_eq_some_iff hdistinct, Entries.lookup_eq_some_iff hns, h.mem_iff]

/-- What is left where the first of some members was removed is the other ones in another order. -/
theorem perm_of_gap (ms : List (String × α)) :
    (match ms.getLast? with
      | some last => last :: ms.dropLast
      | none => []).Perm ms := by
  cases hlast : ms.getLast? with
  | none => rw [List.getLast?_eq_none_iff.1 hlast]
  | some last =>
    calc
      last :: ms.dropLast
      _ |>.Perm (ms.dropLast ++ [last]) := (List.perm_append_singleton last ms.dropLast).symm
      _ = ms := List.dropLast_append_getLast? last hlast

theorem perm_swapRemove (hdistinct : ms.Pairwise fun a b => a.1 ≠ b.1) (key : String) :
    (swapRemove key ms).Perm (Entries.erase key ms) := by
  induction ms with
  | nil => rfl
  | cons m ms ih =>
    obtain ⟨k, v⟩ := m
    obtain ⟨hne, hms⟩ := List.pairwise_cons.1 hdistinct
    by_cases hk : k = key
    · have herase : Entries.erase key ((k, v) :: ms) = ms := by
        rw [Entries.erase, List.filter_cons_of_neg (by simp [hk]), List.filter_eq_self]
        intro e he
        have hkey : e.1 ≠ key := fun heq => hne e he (hk.trans heq.symm)
        simpa using hkey
      rw [swapRemove, if_pos hk, herase]
      exact perm_of_gap ms
    · have herase : Entries.erase key ((k, v) :: ms) = (k, v) :: Entries.erase key ms := by
        rw [Entries.erase, List.filter_cons_of_pos (by simp [hk]), Entries.erase]
      rw [swapRemove, if_neg hk, herase]
      exact (ih hms).cons _

/-- Removal changes the look-up of its own key only. -/
theorem lookup_swapRemove (hdistinct : ms.Pairwise fun a b => a.1 ≠ b.1) (key k : String) :
    (swapRemove key ms).lookup k = if k = key then none else ms.lookup k := by
  have hperm := perm_swapRemove hdistinct key
  have herase : (Entries.erase key ms).Pairwise fun a b => a.1 ≠ b.1 := hdistinct.filter _
  rw [← lookup_of_perm herase hperm.symm, Entries.lookup_erase]

theorem pairwise_swapRemove (hdistinct : ms.Pairwise fun a b => a.1 ≠ b.1) (key : String) :
    (swapRemove key ms).Pairwise fun a b => a.1 ≠ b.1 :=
  (perm_swapRemove hdistinct key).symm.pairwise (hdistinct.filter _) fun hne => hne.symm

theorem pairwise_insert (hdistinct : ms.Pairwise fun a b => a.1 ≠ b.1) (key : String) (value : α) :
    (insert key value ms).Pairwise fun a b => a.1 ≠ b.1 := by
  rw [pairwise_ne_iff_nodup] at hdistinct ⊢
  rw [keys_insert]
  split
  case isTrue => exact hdistinct
  case isFalse hnew =>
    rw [(List.perm_append_singleton key (keys ms)).nodup_iff]
    exact List.nodup_cons.2 ⟨hnew, hdistinct⟩

end AttributeSchema.Members
