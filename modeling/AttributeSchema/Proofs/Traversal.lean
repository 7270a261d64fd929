import AttributeSchema.Dict
import Mathlib.Data.List.Forall2
import Mathlib.Data.List.Induction

/-!
# Traversals that may fail

A traversal runs a step on each item of a list in order, up to the first error. It succeeds if every
step does, and then yields what the steps yield. Of the values of a dictionary it makes the values of
another one under the same names: `Dict.rel_get?_of_mapM_named`.
-/

namespace AttributeSchema

namespace Entries

variable {α : Type}

/-- Of a repeated key the last pair counts. -/
theorem lookup_ofPairs (pairs : List (String × α)) (key : String) :
    (ofPairs pairs).lookup key = pairs.reverse.lookup key := by
  induction pairs using List.reverseRecOn with
  | nil => rfl
  | append_singleton pairs p ih =>
    obtain ⟨k, v⟩ := p
    have hinsert : ofPairs (pairs ++ [(k, v)]) = insert k v (ofPairs pairs) := by
      simp [ofPairs, List.foldl_append]
    rw [hinsert, lookup_insert _ _ _ (Ascending.ofPairs pairs), ih, List.reverse_append]
    by_cases hkey : key = k
    · simp [hkey]
    · have hb : (key == k) = false := by simpa using hkey
      simp [hkey, hb, List.lookup_cons]

/-- Putting pairs in order loses no key and adds none. -/
theorem mem_keys_ofPairs_iff {pairs : List (String × α)} {key : String} :
    key ∈ (ofPairs pairs).map Prod.fst ↔ key ∈ pairs.map Prod.fst := by
  have hlookup : (ofPairs pairs).lookup key = none ↔ ∀ p ∈ pairs, p.1 ≠ key := by
    rw [lookup_ofPairs, lookup_eq_none_iff]
    simp only [List.mem_reverse]
  rw [lookup_eq_none_iff] at hlookup
  rw [← not_iff_not]
  simpa only [List.mem_map, not_exists, not_and] using hlookup

end Entries

namespace Traversal

variable {ε α β : Type} {f : α → Except ε β} {xs : List α} {ys : List β}

/-! ## Success of steps -/

theorem bind_eq_ok_iff {x : Except ε α} {y : β} :
    x >>= f = .ok y ↔ ∃ a, x = .ok a ∧ f a = .ok y := by
  cases x <;> simp [bind, Except.bind]

theorem map_eq_ok_iff {g : α → β} {x : Except ε α} {y : β} :
    x.map g = .ok y ↔ ∃ a, x = .ok a ∧ g a = y := by
  cases x <;> simp [Except.map]

theorem exists_map_eq_ok_iff {g : α → β} {x : Except ε α} :
    (∃ y, x.map g = .ok y) ↔ ∃ a, x = .ok a := by
  cases x <;> simp [Except.map]

/-! ## Success of traversals -/

/-- A traversal yields the results of its steps, in order. -/
theorem mapM_eq_ok_iff : xs.mapM f = .ok ys ↔ List.Forall₂ (fun x y => f x = .ok y) xs ys := by
  induction xs generalizing ys with
  | nil => simp [pure, Except.pure, eq_comm]
  | cons x xs ih =>
    rw [List.mapM_cons, List.forall₂_cons_left_iff, bind_eq_ok_iff]
    simp only [bind_eq_ok_iff, ih, pure, Except.pure, Except.ok.injEq]
    constructor
    · rintro ⟨y, hy, ys', hys, rfl⟩
      exact ⟨y, ys', hy, hys, rfl⟩
    · rintro ⟨y, ys', hy, hys, rfl⟩
      exact ⟨y, hy, ys', hys, rfl⟩

theorem exists_mapM_eq_ok_iff : (∃ ys, xs.mapM f = .ok ys) ↔ ∀ x ∈ xs, ∃ y, f x = .ok y := by
  induction xs with
  | nil => simp [pure, Except.pure]
  | cons x xs ih =>
    rw [List.forall_mem_cons, ← ih, List.mapM_cons]
    simp only [bind_eq_ok_iff, pure, Except.pure, Except.ok.injEq]
    constructor
    · rintro ⟨_, y, hy, ys, hys, rfl⟩
      exact ⟨⟨y, hy⟩, ys, hys⟩
    · rintro ⟨⟨y, hy⟩, ys, hys⟩
      exact ⟨_, y, hy, ys, hys, rfl⟩

theorem exists_of_mem_mapM (h : xs.mapM f = .ok ys) {y : β} (hy : y ∈ ys) :
    ∃ x ∈ xs, f x = .ok y := by
  have hall := mapM_eq_ok_iff.1 h
  clear h
  induction hall with
  | nil => simp at hy
  | @cons x _ xs _ hx _ ih =>
    rcases List.mem_cons.1 hy with rfl | hy
    · exact ⟨x, List.mem_cons_self, hx⟩
    · obtain ⟨x', hx', hf⟩ := ih hy
      exact ⟨x', List.mem_cons_of_mem _ hx', hf⟩

/-- Two traversals in turn succeed together as one does whose steps are taken in turn. -/
theorem exists_mapM_then_iff {γ : Type} {g : β → Except ε γ} {zs : List γ} :
    (∃ ys, xs.mapM f = .ok ys ∧ ys.mapM g = .ok zs) ↔ xs.mapM (fun x => f x >>= g) = .ok zs := by
  simp only [mapM_eq_ok_iff, bind_eq_ok_iff]
  constructor
  · rintro ⟨ys, hf, hg⟩
    induction hf generalizing zs with
    | nil =>
      cases hg
      exact .nil
    | cons hx _ ih =>
      cases hg with
      | cons hy hys => exact .cons ⟨_, hx, hy⟩ (ih hys)
  · intro h
    induction h with
    | nil => exact ⟨[], .nil, .nil⟩
    | cons hx _ ih =>
      obtain ⟨y, hy, hz⟩ := hx
      obtain ⟨ys, hys, hzs⟩ := ih
      exact ⟨y :: ys, .cons hy hys, .cons hz hzs⟩

/-- A traversal ends with the error of the first step that fails. -/
theorem mapM_eq_error_iff {e : ε} :
    xs.mapM f = .error e ↔
      ∃ pre x post, xs = pre ++ x :: post ∧ (∀ y ∈ pre, ∃ z, f y = .ok z) ∧ f x = .error e := by
  induction xs with
  | nil => simp [pure, Except.pure]
  | cons x xs ih =>
    rw [List.mapM_cons]
    cases hx : f x with
    | error e' =>
      constructor
      · intro h
        obtain rfl := Except.error.inj h
        exact ⟨[], x, xs, rfl, by simp, hx⟩
      · rintro ⟨pre, x', post, hsplit, hpre, hx'⟩
        rcases List.cons_eq_append_iff.1 hsplit with ⟨rfl, hcons⟩ | ⟨rest, rfl, -⟩
        · obtain ⟨rfl, -⟩ := List.cons.inj hcons
          rw [hx] at hx'
          obtain rfl := Except.error.inj hx'
          rfl
        · obtain ⟨z, hz⟩ := hpre x List.mem_cons_self
          simp [hx] at hz
    | ok y =>
      have hlater : (do let ys ← xs.mapM f; pure (y :: ys)) = Except.error e ↔
          xs.mapM f = .error e := by
        cases xs.mapM f <;> simp [bind, Except.bind, pure, Except.pure]
      refine hlater.trans (ih.trans ?_)
      constructor
      · rintro ⟨pre, x', post, rfl, hpre, hx'⟩
        exact ⟨x :: pre, x', post, rfl, List.forall_mem_cons.2 ⟨⟨y, hx⟩, hpre⟩, hx'⟩
      · rintro ⟨pre, x', post, hsplit, hpre, hx'⟩
        rcases List.cons_eq_append_iff.1 hsplit with ⟨rfl, hcons⟩ | ⟨rest, rfl, rfl⟩
        · obtain ⟨rfl, -⟩ := List.cons.inj hcons
          simp [hx] at hx'
        · exact ⟨rest, x', post, rfl, (List.forall_mem_cons.1 hpre).2, hx'⟩

theorem mapM_option_eq_ok_iff {o : Option α} {p : Option β} :
    o.mapM f = .ok p ↔ Option.Rel (fun x y => f x = .ok y) o p := by
  cases o with
  | none => cases p <;> simp [pure, Except.pure]
  | some x => cases h : f x <;> cases p <;> simp [h, Functor.map, Except.map]

theorem exists_mapM_option_eq_ok_iff {o : Option α} :
    (∃ p, o.mapM f = .ok p) ↔ ∀ x, o = some x → ∃ y, f x = .ok y := by
  cases o with
  | none => simp [pure, Except.pure]
  | some x => cases h : f x <;> simp [h, Functor.map, Except.map]

/-! ## Related options -/

section Related

variable {R : α → β → Prop} {x : Option α} {y : Option β}

theorem isSome_eq_of_rel (h : Option.Rel R x y) : y.isSome = x.isSome := by
  cases h <;> rfl

theorem exists_of_rel_some {b : β} (h : Option.Rel R x (some b)) : ∃ a, x = some a ∧ R a b := by
  cases h with
  | some hR => exact ⟨_, rfl, hR⟩

theorem rel_trans {γ : Type} {S : β → γ → Prop} {T : α → γ → Prop} {z : Option γ}
    (hxy : Option.Rel R x y) (hyz : Option.Rel S y z) (h : ∀ a b c, R a b → S b c → T a c) :
    Option.Rel T x z := by
  cases hxy with
  | none =>
    cases hyz
    exact .none
  | some hR =>
    cases hyz with
    | some hS => exact .some (h _ _ _ hR hS)

theorem rel_self {R : α → α → Prop} (h : ∀ a, R a a) (x : Option α) : Option.Rel R x x := by
  cases x with
  | none => exact .none
  | some a => exact .some (h a)

end Related

/-! ## Steps under a name -/

section Named

variable {step : String → α → Except ε β} {es : List (String × α)} {ps : List (String × β)}

/-- Run a step on a value that stands under a name, and leave the result under that name. -/
def named (step : String → α → Except ε β) (m : String × α) : Except ε (String × β) :=
  (step m.1 m.2).map fun y => (m.1, y)

theorem named_eq_ok_iff {m : String × α} {p : String × β} :
    named step m = .ok p ↔ p.1 = m.1 ∧ step m.1 m.2 = .ok p.2 := by
  rw [named, map_eq_ok_iff]
  constructor
  · rintro ⟨y, hy, rfl⟩
    exact ⟨rfl, hy⟩
  · rintro ⟨hname, hy⟩
    exact ⟨p.2, hy, by rw [← hname]⟩

theorem map_fst_of_mapM_named (h : es.mapM (named step) = .ok ps) :
    ps.map Prod.fst = es.map Prod.fst := by
  have hall := mapM_eq_ok_iff.1 h
  clear h
  induction hall with
  | nil => rfl
  | cons hp _ ih => rw [List.map_cons, List.map_cons, ih, (named_eq_ok_iff.1 hp).1]

theorem exists_mapM_named_iff :
    (∃ ps, es.mapM (named step) = .ok ps) ↔ ∀ m ∈ es, ∃ y, step m.1 m.2 = .ok y := by
  simp only [exists_mapM_eq_ok_iff, named, exists_map_eq_ok_iff]

end Named

end Traversal

namespace Dict

open Traversal

variable {ε α β : Type} {d : Dict α} {step : String → α → Except ε β}

theorem exists_mapM_named_iff :
    (∃ ps, d.entries.mapM (named step) = .ok ps) ↔
      ∀ key x, d.get? key = some x → ∃ y, step key x = .ok y := by
  rw [Traversal.exists_mapM_named_iff, Prod.forall]
  simp only [mem_entries_iff]

/-- What a step makes of a value is found under the name of that value. -/
theorem rel_get?_of_mapM_named {ps : List (String × β)} (h : d.entries.mapM (named step) = .ok ps)
    {key : String} {R : α → β → Prop} (hR : ∀ x y, step key x = .ok y → R x y) :
    Option.Rel R (d.get? key) ((ofPairs ps).get? key) := by
  have hkeys : ps.map Prod.fst = d.keys := map_fst_of_mapM_named h
  have hcontains : (ofPairs ps).contains key = true ↔ d.contains key = true := by
    rw [← mem_keys_iff, ← mem_keys_iff, ← hkeys]
    exact Entries.mem_keys_ofPairs_iff
  rw [contains, contains] at hcontains
  -- The two sides hold the same names, so only a name that both hold is of interest.
  cases hy : (ofPairs ps).get? key with
  | none =>
    have hnone : d.get? key = none := by simpa [hy] using hcontains
    rw [hnone]
    exact .none
  | some y =>
    obtain ⟨⟨k, x⟩, hx, hstep⟩ := exists_of_mem_mapM h (mem_of_get?_ofPairs hy)
    obtain ⟨rfl, hok⟩ := named_eq_ok_iff.1 hstep
    rw [mem_entries_iff.1 hx]
    exact .some (hR x y hok)

end Dict

end AttributeSchema
