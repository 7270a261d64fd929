import AttributeSchema.Check.Leaf
import AttributeSchema.Proofs.Json.Quoted
import AttributeSchema.Proofs.Spec.Nesting
import AttributeSchema.Proofs.Uuid
import Mathlib.Data.List.Nodup

/-!
# Lists of different items

Items are compared by their compact texts, and different strings have different texts, so a list of
strings passes exactly if the strings differ. For UUIDs this tells spellings apart and not what is
spelled: a list holds each UUID once if it holds nothing but canonical texts. Main statements:
`Check.distinctList_eq_pass_iff`, `LeafValidator.check_uuidList` and
`LeafValidator.check_distinctTexts`.
-/

namespace AttributeSchema

namespace Check

/-! ## Repeated items -/

/-- Nothing repeats exactly if no text is among the seen ones and the texts differ. -/
theorem repeatsAfter_eq_nil_iff {seen : List String} {xs : List Json} :
    repeatsAfter seen xs = [] ↔ (∀ x ∈ xs, x.render ∉ seen) ∧ (xs.map Json.render).Nodup := by
  induction xs generalizing seen with
  | nil => simp [repeatsAfter]
  | cons x xs ih =>
    rw [repeatsAfter]
    split
    case isTrue hseen =>
      rw [List.contains_iff_mem] at hseen
      simp [hseen]
    case isFalse hnew =>
      rw [List.contains_iff_mem] at hnew
      rw [ih, List.forall_mem_cons, List.map_cons, List.nodup_cons]
      simp only [List.mem_cons, not_or, forall_and, List.mem_map, not_exists, not_and]
      constructor
      · rintro ⟨⟨hne, hseen⟩, hnodup⟩
        exact ⟨⟨hnew, hseen⟩, hne, hnodup⟩
      · rintro ⟨⟨-, hseen⟩, hne, hnodup⟩
        exact ⟨⟨hne, hseen⟩, hnodup⟩

theorem distinct_eq_pass_iff {xs : List Json} :
    distinct xs = Verdict.pass ↔ (xs.map Json.render).Nodup := by
  have hrepeats : distinct xs = Verdict.pass ↔ repeats xs = [] := by
    rw [distinct]
    cases repeats xs <;> simp [Verdict.pass]
  rw [hrepeats, repeats, repeatsAfter_eq_nil_iff]
  simp

/-- Strings differ exactly if their texts do. -/
theorem distinct_strings_eq_pass_iff {ss : List String} :
    distinct (ss.map Json.string) = Verdict.pass ↔ ss.Nodup := by
  have hinj : Function.Injective (Json.render ∘ Json.string) := fun s t h => Json.quoted_inj.1 h
  rw [distinct_eq_pass_iff, List.map_map, List.nodup_map_iff hinj]

/-- Items that are strings of a kind are the strings of a list. -/
theorem forall_mem_string_iff {p : String → Prop} {xs : List Json} :
    (∀ x ∈ xs, ∃ s, x = Json.string s ∧ p s) ↔
      ∃ ss : List String, xs = ss.map Json.string ∧ ∀ s ∈ ss, p s := by
  constructor
  · intro h
    induction xs with
    | nil => exact ⟨[], rfl, by simp⟩
    | cons x xs ih =>
      obtain ⟨⟨s, rfl, hs⟩, hxs⟩ := List.forall_mem_cons.1 h
      obtain ⟨ss, rfl, hss⟩ := ih hxs
      exact ⟨s :: ss, rfl, List.forall_mem_cons.2 ⟨hs, hss⟩⟩
  · rintro ⟨ss, rfl, hss⟩ x hx
    obtain ⟨s, hs, rfl⟩ := List.mem_map.1 hx
    exact ⟨s, rfl, hss s hs⟩

theorem distinctList_array_eq_pass_iff {item : Json → Verdict} {xs : List Json} :
    distinctList item (.array xs) = Verdict.pass ↔
      (∀ x ∈ xs, item x = Verdict.pass) ∧ distinct xs = Verdict.pass := by
  rw [← Verdict.all_eq_pass_iff, distinctList]
  cases Verdict.all item xs <;> simp [Verdict.pass]

/-- If the items have to be strings of a kind, a list passes exactly if it holds different strings of
that kind. -/
theorem distinctList_eq_pass_iff {item : Json → Verdict} {p : String → Prop}
    (hitem : ∀ x, item x = Verdict.pass ↔ ∃ s, x = Json.string s ∧ p s) {v : Json} :
    distinctList item v = Verdict.pass ↔
      ∃ ss : List String, v = .array (ss.map .string) ∧ (∀ s ∈ ss, p s) ∧ ss.Nodup := by
  cases v with
  | array xs =>
    simp only [distinctList_array_eq_pass_iff, hitem, forall_mem_string_iff, Json.array.injEq]
    constructor
    · rintro ⟨⟨ss, rfl, hss⟩, hdistinct⟩
      exact ⟨ss, rfl, hss, distinct_strings_eq_pass_iff.1 hdistinct⟩
    · rintro ⟨ss, rfl, hss, hnodup⟩
      exact ⟨⟨ss, rfl, hss⟩, distinct_strings_eq_pass_iff.2 hnodup⟩
  | _ => simp [distinctList, Verdict.pass]

/-! ## Lists of strings -/

/-- The strings that equal an earlier one, once for each place at which they come again. -/
def recurrences (ss : List String) : List String :=
  (ss.zipIdx.filter fun (s, place) => s ∈ ss.take place).map Prod.fst

/-- Where the seen texts are those of the strings before, the items that repeat are the strings that
stand among these or further ahead. -/
theorem repeatsAfter_strings {seen : List String} {before ss : List String}
    (hseen : ∀ s, (Json.string s).render ∈ seen ↔ s ∈ before) :
    repeatsAfter seen (ss.map .string) =
      ((ss.zipIdx before.length).filter fun (s, place) => s ∈ (before ++ ss).take place).map
        fun (s, _) => .string s := by
  induction ss generalizing seen before with
  | nil => rfl
  | cons s ss ih =>
    have htake : (before ++ s :: ss).take before.length = before := List.take_left
    have hsplit : before ++ s :: ss = (before ++ [s]) ++ ss := by simp
    have hlength : before.length + 1 = (before ++ [s]).length := by simp
    rw [List.map_cons, repeatsAfter, List.zipIdx_cons]
    split
    case isTrue hs =>
      rw [List.contains_iff_mem, hseen] at hs
      have hseen' : ∀ t, (Json.string t).render ∈ seen ↔ t ∈ before ++ [s] := by
        intro t
        rw [hseen, List.mem_append, List.mem_singleton]
        exact ⟨Or.inl, fun h => h.elim id fun ht => ht ▸ hs⟩
      rw [List.filter_cons_of_pos (by simpa [htake] using hs), List.map_cons, ih hseen', hsplit,
        hlength]
    case isFalse hs =>
      rw [List.contains_iff_mem, hseen] at hs
      have hseen' : ∀ t, (Json.string t).render ∈ (Json.string s).render :: seen ↔
          t ∈ before ++ [s] := by
        intro t
        have hrender : (Json.string t).render = (Json.string s).render ↔ t = s := Json.quoted_inj
        rw [List.mem_cons, hrender, hseen, List.mem_append, List.mem_singleton, or_comm]
      rw [List.filter_cons_of_neg (by simpa [htake] using hs), ih hseen', hsplit, hlength]

theorem repeats_strings (ss : List String) :
    repeats (ss.map .string) = (recurrences ss).map .string := by
  have hnone : ∀ s, (Json.string s).render ∈ ([] : List String) ↔ s ∈ ([] : List String) := by simp
  rw [repeats, repeatsAfter_strings hnone, recurrences, List.map_map]
  rfl

/-- A list in which every string is fine and some come again is rejected for what comes again. -/
theorem distinctList_strings {item : Json → Verdict} {ss : List String}
    (hitems : ∀ s ∈ ss, item (.string s) = Verdict.pass) (hrepeated : ¬ ss.Nodup) :
    distinctList item (.array (ss.map .string)) =
      .error (.repeated ((recurrences ss).map .string)) := by
  have hall : Verdict.all item (ss.map .string) = Verdict.pass := by
    rw [Verdict.all_eq_pass_iff, List.forall_mem_map]
    exact hitems
  have hsome : recurrences ss ≠ [] := by
    intro hnone
    apply hrepeated
    rw [← distinct_strings_eq_pass_iff, distinct, repeats_strings, hnone]
    rfl
  rw [distinctList, hall]
  change distinct (ss.map .string) = _
  rw [distinct, repeats_strings]
  split
  case h_1 hnil => exact absurd (List.map_eq_nil_iff.1 hnil) hsome
  case h_2 => rfl

/-- A string is not longer than the parameter allows, if that is a whole number. -/
def Fits (param : Option Json) (s : String) : Prop :=
  ∀ most, param.bind Json.toUInt64? = some most → s.length ≤ most

theorem text_eq_pass_iff {param : Option Json} {v : Json} :
    text param v = Verdict.pass ↔ ∃ s : String, v = .string s ∧ Fits param s := by
  cases v with
  | string s =>
    cases h : param.bind Json.toUInt64? with
    | none => simp [text, limit?, Fits, h]
    | some most => simp [text, limit?, Fits, h, Verdict.require, Verdict.pass]
  | _ => simp [text, Verdict.pass]

/-! ## Lists of UUIDs -/

theorem uuid_eq_pass_iff {v : Json} :
    uuid v = Verdict.pass ↔ ∃ s : String, v = .string s ∧ ∃ u, Uuid.read? s.toList = some u := by
  cases v with
  | string s =>
    cases h : Uuid.read? s.toList <;> simp [uuid, h, Verdict.require, Verdict.pass]
  | _ => simp [uuid, Verdict.pass]

end Check

/-- **A list of UUIDs holds no spelling twice.** A value is accepted exactly if it is a list of strings
that read as UUIDs and are different texts. So among lists of canonical texts exactly those are
accepted that hold no UUID twice. -/
theorem LeafValidator.check_uuidList (param : Option Json) (regex : Option Regex) :
    (∀ v : Json, LeafValidator.uuidList.check param regex v = Verdict.pass ↔
      ∃ texts : List String, v = .array (texts.map .string) ∧
        (∀ s ∈ texts, ∃ u, Uuid.read? s.toList = some u) ∧ texts.Nodup) ∧
    ∀ us : List Uuid,
      LeafValidator.uuidList.check param regex (.array (us.map fun u => .string u.render))
          = Verdict.pass ↔ us.Nodup := by
  have haccepts : ∀ v : Json, LeafValidator.uuidList.check param regex v = Verdict.pass ↔
      ∃ texts : List String, v = .array (texts.map .string) ∧
        (∀ s ∈ texts, ∃ u, Uuid.read? s.toList = some u) ∧ texts.Nodup :=
    fun v => Check.distinctList_eq_pass_iff fun x => Check.uuid_eq_pass_iff
  refine ⟨haccepts, fun us => ?_⟩
  have hrender : Function.Injective Uuid.render := fun u w h => by
    have hread := Uuid.read?_render u
    rw [h, Uuid.read?_render, Option.some.injEq] at hread
    exact hread.symm
  have hcanonical : us.map (fun u => Json.string u.render) = (us.map Uuid.render).map Json.string := by
    rw [List.map_map]
    rfl
  rw [haccepts, hcanonical, ← List.nodup_map_iff hrender]
  constructor
  · rintro ⟨texts, hlist, -, hnodup⟩
    obtain rfl := List.map_injective_iff.2 (fun _ _ => Json.string.inj) (Json.array.inj hlist)
    exact hnodup
  · intro hnodup
    refine ⟨us.map Uuid.render, rfl, fun s hs => ?_, hnodup⟩
    obtain ⟨u, -, rfl⟩ := List.mem_map.1 hs
    exact ⟨u, Uuid.read?_render u⟩

/-- One UUID in small and in capital letters is accepted as two. -/
theorem LeafValidator.check_uuidList_of_letterCase :
    LeafValidator.uuidList.check none none (.array [.string "2f3b0a8e-4a3c-4c7e-9d55-0f0b7f6f2d11",
        .string "2F3B0A8E-4A3C-4C7E-9D55-0F0B7F6F2D11"]) = Verdict.pass ∧
      ∃ u, Uuid.read? "2f3b0a8e-4a3c-4c7e-9d55-0f0b7f6f2d11".toList = some u ∧
        Uuid.read? "2F3B0A8E-4A3C-4C7E-9D55-0F0B7F6F2D11".toList = some u :=
  ⟨rfl, ⟨0x2f3b0a8e4a3c4c7e9d550f0b7f6f2d11, by decide⟩, by decide, by decide⟩

theorem Diagnostic.message_repeated (items : List Json) :
    (Diagnostic.repeated items).message =
      "Duplicate items in the list: '" ++ ", ".intercalate (items.map Json.render) ++ "'" := rfl

/-- **A list of different strings.** A value is accepted exactly if it is a list of strings that are
not too long and differ from each other. If nothing is wrong but that some strings come again, the
reason quotes each of these as it is written, in the order of the list and once for each place at
which it comes again. -/
theorem LeafValidator.check_distinctTexts (param : Option Json) (regex : Option Regex) :
    (∀ v : Json, LeafValidator.distinctTexts.check param regex v = Verdict.pass ↔
      ∃ ss : List String, v = .array (ss.map .string) ∧ (∀ s ∈ ss, Check.Fits param s) ∧
        ss.Nodup) ∧
    ∀ ss : List String, (∀ s ∈ ss, Check.Fits param s) → ¬ ss.Nodup →
      ∃ reason, LeafValidator.distinctTexts.check param regex (.array (ss.map .string)) =
          .error reason ∧
        reason.message = "Duplicate items in the list: '" ++ ", ".intercalate
          ((Check.recurrences ss).map fun s => (Json.string s).render) ++ "'" := by
  constructor
  · exact fun v => Check.distinctList_eq_pass_iff fun x => Check.text_eq_pass_iff
  · intro ss hfits hrepeated
    have hitems : ∀ s ∈ ss, Check.text param (.string s) = Verdict.pass := fun s hs =>
      Check.text_eq_pass_iff.2 ⟨s, rfl, hfits s hs⟩
    have hquoted : ((Check.recurrences ss).map Json.string).map Json.render =
        (Check.recurrences ss).map fun s => (Json.string s).render := List.map_map
    refine ⟨_, Check.distinctList_strings hitems hrepeated, ?_⟩
    rw [Diagnostic.message_repeated, hquoted]

/-- Of three equal strings the second and the third are quoted, and so is another that recurs. -/
theorem LeafValidator.check_distinctTexts_quotes :
    let names := ["a", "b", "a", "\"", "a", "\""]
    let param := some (Json.ofInt 1)
    (∀ s ∈ names, Check.Fits param s) ∧ ¬ names.Nodup ∧
      ∃ reason, LeafValidator.distinctTexts.check param none (.array (names.map .string)) =
          .error reason ∧
        reason.message = "Duplicate items in the list: '\"a\", \"a\", \"\\\"\"'" := by
  intro names param
  have hfits : ∀ s ∈ names, Check.Fits param s := by
    intro s hs most hmost
    obtain rfl : 1 = most := Option.some.inj hmost
    revert s
    decide
  have hrepeated : ¬ names.Nodup := by decide
  have hquoted : "Duplicate items in the list: '" ++ ", ".intercalate
      ((Check.recurrences names).map fun s => (Json.string s).render) ++ "'" =
        "Duplicate items in the list: '\"a\", \"a\", \"\\\"\"'" := by
    decide +kernel
  rw [← hquoted]
  exact ⟨hfits, hrepeated, (LeafValidator.check_distinctTexts param none).2 names hfits hrepeated⟩

end AttributeSchema
