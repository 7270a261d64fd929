import AttributeSchema.Population
import AttributeSchema.Proofs.Json.Equality
import AttributeSchema.Proofs.Json.Members
import AttributeSchema.Proofs.Spec.Conversion

/-!
# What filling in nested defaults does

Filling in the defaults of an object treats each specified member by itself: first the defaults inside
the member are filled in, if its specification asks for that, and then the default of the member.
Members that are not specified stay as they are, and so does every value that a default may not
replace, at every depth. Main statements: `Population.slot_fillMembers`, which says what becomes of
each member, and `SpecOf.populate_conservative`, which says what is kept and what is added.
-/

namespace AttributeSchema

namespace Json.WellFormed

variable {ms : List (String × Json)}

theorem distinct (h : (Json.object ms).WellFormed) : ms.Pairwise fun a b => a.1 ≠ b.1 := by
  cases h with
  | object hdistinct _ => exact hdistinct

theorem of_mem (h : (Json.object ms).WellFormed) : ∀ m ∈ ms, m.2.WellFormed := by
  cases h with
  | object _ hinside => exact hinside

end Json.WellFormed

/-! ## States of members -/

namespace Members

variable {ms : List (String × Json)} {key k : String}

@[simp] theorem toJson?_slot (key : String) (ms : List (String × Json)) :
    (slot key ms).toJson? = ms.lookup key := by
  unfold slot
  cases ms.lookup key with
  | none => rfl
  | some v => exact Slot.toJson?_ofJson v

theorem proper_slot (key : String) (ms : List (String × Json)) : (slot key ms).Proper := by
  unfold slot
  split
  · exact Slot.proper_ofJson _
  · simp [Slot.Proper]

theorem slot_insert (key k : String) (v : Json) (ms : List (String × Json)) :
    slot k (insert key v ms) = if k = key then .ofJson v else slot k ms := by
  unfold slot
  rw [lookup_insert]
  by_cases hk : k = key
  · rw [if_pos hk, if_pos hk]
  · rw [if_neg hk, if_neg hk]

theorem slot_setSlot (hdistinct : ms.Pairwise fun a b => a.1 ≠ b.1) {s : Slot} (hs : s.Proper) :
    slot k (setSlot key s ms) = if k = key then s else slot k ms := by
  unfold setSlot
  cases hv : s.toJson? with
  | some v =>
    dsimp only
    rw [slot_insert, Slot.ofJson_of_toJson? hs hv]
  | none =>
    obtain rfl : s = .unspecified := by
      cases s with
      | unspecified => rfl
      | _ => simp [Slot.toJson?] at hv
    dsimp only
    unfold slot
    rw [lookup_swapRemove hdistinct]
    by_cases hk : k = key
    · rw [if_pos hk, if_pos hk]
    · rw [if_neg hk, if_neg hk]

theorem pairwise_setSlot (hdistinct : ms.Pairwise fun a b => a.1 ≠ b.1) (key : String) (s : Slot) :
    (setSlot key s ms).Pairwise fun a b => a.1 ≠ b.1 := by
  unfold setSlot
  split
  · exact pairwise_insert hdistinct key _
  · exact pairwise_swapRemove hdistinct key

end Members

/-! ## The default of one member -/

namespace SpecOf

variable {spec : Spec} {s : Slot} {d : Default} {v : Json}

/-- What a default puts in place is the state that it stands for. -/
theorem exists_of_defaultOver? {current : Slot} (h : spec.defaultOver? current = some s) :
    ∃ d, spec.default? = some d ∧ s = d.slot := by
  unfold SpecOf.defaultOver? at h
  split at h
  case h_1 => simp at h
  case h_2 d hd =>
    refine ⟨d, hd, ?_⟩
    split at h
    · exact (Option.some.inj h).symm
    · split at h
      · exact (Option.some.inj h).symm
      · simp at h
    · simp at h

/-- A default leaves a value alone, and null where it does not override it. -/
theorem defaultOver?_eq_none (hs : s.toJson? = some v)
    (hnull : v = .null → spec.defaultOverridesNull = false) : spec.defaultOver? s = none := by
  unfold SpecOf.defaultOver?
  split
  · rfl
  · cases s with
    | unspecified => simp [Slot.toJson?] at hs
    | value w => rfl
    | null =>
      obtain rfl : Json.null = v := by simpa [Slot.toJson?] using hs
      simp [hnull rfl]

/-- The state that filling in the default makes of another one. -/
def filled (spec : Spec) (s : Slot) : Slot := (spec.defaultOver? s).getD s

theorem filled_eq_self (hs : s.toJson? = some v)
    (hnull : v = .null → spec.defaultOverridesNull = false) : spec.filled s = s := by
  rw [filled, defaultOver?_eq_none hs hnull, Option.getD_none]

theorem isSupplied_filled (h : spec.default? = some (.value v)) (s : Slot) :
    (spec.filled s).isSupplied = true := by
  unfold filled defaultOver?
  rw [h]
  cases s with
  | value w => rfl
  | unspecified => exact Slot.isSupplied_ofJson v
  | null =>
    dsimp only
    split
    · exact Slot.isSupplied_ofJson v
    · rfl

end SpecOf

namespace Members

variable {ms : List (String × Json)} {key k : String}

theorem slot_fillDefault (hdistinct : ms.Pairwise fun a b => a.1 ≠ b.1) (spec : Spec) :
    slot k (fillDefault key spec ms) = if k = key then spec.filled (slot key ms) else slot k ms := by
  unfold fillDefault SpecOf.filled
  cases hover : spec.defaultOver? (slot key ms) with
  | none =>
    by_cases hk : k = key
    · rw [if_pos hk, hk, Option.getD_none]
    · rw [if_neg hk]
  | some s =>
    obtain ⟨d, -, rfl⟩ := SpecOf.exists_of_defaultOver? hover
    exact slot_setSlot hdistinct d.proper_slot

theorem pairwise_fillDefault (hdistinct : ms.Pairwise fun a b => a.1 ≠ b.1) (key : String)
    (spec : Spec) : (fillDefault key spec ms).Pairwise fun a b => a.1 ≠ b.1 := by
  unfold fillDefault
  split
  · exact pairwise_setSlot hdistinct key _
  · exact hdistinct

end Members

/-! ## The defaults inside one member -/

/-- The members of an object, and no members where nothing is specified. -/
def Slot.members? : Slot → Option (List (String × Json))
  | .unspecified => some []
  | .value (.object ms) => some ms
  | _ => none

theorem Slot.members?_cases {s : Slot} {ms : List (String × Json)} (h : s.members? = some ms) :
    ms = [] ∨ s = .value (.object ms) := by
  unfold members? at h
  split at h
  · exact Or.inl (Option.some.inj h).symm
  · exact Or.inr (by rw [Option.some.inj h])
  · simp at h

theorem Slot.onMembers_of_members? {s : Slot} {ms : List (String × Json)} (h : s.members? = some ms)
    (change : List (String × Json) → List (String × Json)) :
    s.onMembers change = .value (.object (change ms)) := by
  cases s with
  | unspecified =>
    obtain rfl : [] = ms := Option.some.inj h
    rfl
  | null => nomatch h
  | value v =>
    cases v with
    | object xs =>
      obtain rfl : xs = ms := Option.some.inj h
      rfl
    | _ => nomatch h

/-- A value that is not an object has no members to fill in. -/
theorem Slot.onMembers_eq_self {s : Slot} (h : s.members? = none)
    (change : List (String × Json) → List (String × Json)) : s.onMembers change = s := by
  cases s with
  | unspecified => nomatch h
  | null => rfl
  | value v =>
    cases v with
    | object ms => nomatch h
    | _ => rfl

theorem Slot.members?_eq_none {s : Slot} {v : Json} (hs : s.toJson? = some v)
    (hv : ∀ ms, v ≠ .object ms) : s.members? = none := by
  cases s with
  | unspecified => nomatch hs
  | null => rfl
  | value w =>
    obtain rfl : w = v := Option.some.inj hs
    cases w with
    | object ms => exact absurd rfl (hv ms)
    | _ => rfl

namespace SpecOf

variable {spec : Spec} {s : Slot} {v : Json} {specs : List (String × Spec)}
  {xs : List (String × Json)}

/-- The specifications by which defaults are filled in inside a member: those of the first structured
rule, if the specification of the member asks for that. -/
def nested? (spec : Spec) : Option (List (String × Spec)) :=
  if spec.populateMembers then spec.structuredMembers.head? else none

/-- The members that the defaults inside a member are filled into. Null counts as absent where the
default overrides it. -/
def start? (spec : Spec) (s : Slot) : Option (List (String × Json)) :=
  (if spec.defaultOverridesNull && s.isNull then .unspecified else s : Slot).members?

/-- The state that filling in the defaults inside a member makes of its state. -/
def inside (spec : Spec) (s : Slot) : Slot :=
  match spec.nested?, spec.start? s with
  | some specs, some ms => .value (.object (Population.fillMembers specs ms))
  | _, _ => s

/-- What becomes of the state of a member. -/
def member (spec : Spec) (s : Slot) : Slot := spec.filled (spec.inside s)

theorem mem_structuredMembers_of_nested? (h : spec.nested? = some specs) :
    specs ∈ spec.structuredMembers := by
  unfold nested? at h
  split at h
  · exact List.mem_of_mem_head? h
  · nomatch h

/-- What the members are that a member starts from: its own ones or none. -/
theorem start?_cases (h : spec.start? s = some xs) : xs = [] ∨ s = .value (.object xs) := by
  unfold start? at h
  split at h
  · exact Or.inl (Option.some.inj h).symm
  · exact Slot.members?_cases h

/-- A value is filled into only if it is an object, or null that the default overrides. -/
theorem start?_eq_none (hs : s.toJson? = some v) (hv : ∀ xs, v ≠ .object xs)
    (hnull : v = .null → spec.defaultOverridesNull = false) : spec.start? s = none := by
  have hmembers : s.members? = none := Slot.members?_eq_none hs hv
  unfold start?
  cases s with
  | unspecified => nomatch hs
  | value w => simpa [Slot.isNull] using hmembers
  | null =>
    obtain rfl : Json.null = v := Option.some.inj hs
    simpa [hnull rfl] using hmembers

theorem inside_of_nested (hnested : spec.nested? = some specs) (hstart : spec.start? s = some xs) :
    spec.inside s = .value (.object (Population.fillMembers specs xs)) := by
  rw [inside, hnested, hstart]

theorem inside_of_not_nested (h : spec.nested? = none ∨ spec.start? s = none) :
    spec.inside s = s := by
  unfold inside
  rcases h with h | h
  · rw [h]
  · rw [h]
    cases spec.nested? <;> rfl

theorem member_of_nested (hnested : spec.nested? = some specs) (hstart : spec.start? s = some xs) :
    spec.member s = .value (.object (Population.fillMembers specs xs)) := by
  rw [member, inside_of_nested hnested hstart]
  exact filled_eq_self rfl (by simp)

theorem member_of_not_nested (h : spec.nested? = none ∨ spec.start? s = none)
    (hs : s.toJson? = some v) (hnull : v = .null → spec.defaultOverridesNull = false) :
    spec.member s = s := by
  rw [member, inside_of_not_nested h]
  exact filled_eq_self hs hnull

end SpecOf

namespace Population

variable {specs : List (String × Spec)} {ms : List (String × Json)} {key k : String}

/-- Which objects have defaults filled in inside a member, by some rules. -/
theorem fillByFirst_eq (key : String) (overridesNull : Bool) (rules : List Rule)
    (ms : List (String × Json)) :
    fillByFirst key overridesNull rules ms =
      match (rules.filterMap Rule.members?).head?,
        (if overridesNull && (Members.slot key ms).isNull then .unspecified
          else Members.slot key ms : Slot).members? with
      | some specs, some xs => Members.insert key (.object (fillMembers specs xs)) ms
      | _, _ => ms := by
  induction rules with
  | nil => rw [fillByFirst]; rfl
  | cons rule rules ih =>
    cases rule with
    | leaf kind param regex => rw [fillByFirst, ih]; rfl
    | structured kind specs =>
      have hfirst : ((Rule.structured kind specs :: rules).filterMap Rule.members?).head? =
          some specs := rfl
      rw [fillByFirst, hfirst]
      generalize (if overridesNull && (Members.slot key ms).isNull then Slot.unspecified
        else Members.slot key ms) = current
      cases hcurrent : current.members? with
      | some xs => rw [Slot.onMembers_of_members? hcurrent]
      | none =>
        -- A state without members is no object, so nothing is written back.
        rw [Slot.onMembers_eq_self hcurrent]
        split
        · simp [Slot.members?] at hcurrent
        · rfl

theorem fillInside_eq (key : String) (spec : Spec) (ms : List (String × Json)) :
    fillInside key spec ms =
      match spec.nested?, spec.start? (Members.slot key ms) with
      | some specs, some xs => Members.insert key (.object (fillMembers specs xs)) ms
      | _, _ => ms := by
  obtain ⟨_, _, _, overridesNull, _, _, rules, populates, _, _, _, _, _, _, _⟩ := spec
  rw [fillInside]
  cases populates with
  | true => exact fillByFirst_eq key overridesNull rules ms
  | false => rfl

theorem slot_fillInside (key k : String) (spec : Spec) (ms : List (String × Json)) :
    Members.slot k (fillInside key spec ms) =
      if k = key then spec.inside (Members.slot key ms) else Members.slot k ms := by
  have hkept : Members.slot k ms = if k = key then Members.slot key ms else Members.slot k ms := by
    split
    case isTrue hk => rw [hk]
    case isFalse => rfl
  rw [fillInside_eq, SpecOf.inside]
  cases spec.nested? with
  | none => exact hkept
  | some specs =>
    cases spec.start? (Members.slot key ms) with
    | none => exact hkept
    | some xs => exact Members.slot_insert key k _ ms

theorem pairwise_fillInside (hdistinct : ms.Pairwise fun a b => a.1 ≠ b.1) (key : String)
    (spec : Spec) : (fillInside key spec ms).Pairwise fun a b => a.1 ≠ b.1 := by
  rw [fillInside_eq]
  split
  · exact Members.pairwise_insert hdistinct key _
  · exact hdistinct

/-- What becomes of the members where one of them is treated. -/
theorem slot_fillMember (hdistinct : ms.Pairwise fun a b => a.1 ≠ b.1) (spec : Spec) :
    Members.slot k (Members.fillDefault key spec (fillInside key spec ms)) =
      if k = key then spec.member (Members.slot key ms) else Members.slot k ms := by
  rw [Members.slot_fillDefault (pairwise_fillInside hdistinct key spec), slot_fillInside,
    slot_fillInside, if_pos rfl, SpecOf.member]
  by_cases hk : k = key
  · rw [if_pos hk, if_pos hk]
  · rw [if_neg hk, if_neg hk, if_neg hk]

/-! ## All members -/

/-- **What becomes of each member.** Each specified member is treated by itself, and the others are
left alone. -/
theorem slot_fillMembers (hspecs : specs.Pairwise fun a b => a.1 ≠ b.1)
    (hdistinct : ms.Pairwise fun a b => a.1 ≠ b.1) (k : String) :
    Members.slot k (fillMembers specs ms) =
      match specs.lookup k with
      | some spec => spec.member (Members.slot k ms)
      | none => Members.slot k ms := by
  induction specs generalizing ms with
  | nil => rw [fillMembers]; rfl
  | cons e specs ih =>
    obtain ⟨key, spec⟩ := e
    obtain ⟨hne, hrest⟩ := List.pairwise_cons.1 hspecs
    have hinside := pairwise_fillInside hdistinct key spec
    rw [fillMembers, ih hrest (Members.pairwise_fillDefault hinside key spec),
      slot_fillMember hdistinct spec, List.lookup_cons]
    by_cases hk : k = key
    · -- No later step treats the member again.
      have hnone : specs.lookup k = none :=
        Entries.lookup_eq_none_iff.2 fun e he heq => hne e he (hk.symm.trans heq.symm)
      rw [hnone, if_pos hk, beq_iff_eq.2 hk, hk]
    · rw [if_neg hk, beq_eq_false_iff_ne.2 hk]

theorem lookup_fillMembers_of_none (hspecs : specs.Pairwise fun a b => a.1 ≠ b.1)
    (hdistinct : ms.Pairwise fun a b => a.1 ≠ b.1) (hkey : specs.lookup key = none) :
    (fillMembers specs ms).lookup key = ms.lookup key := by
  rw [← Members.toJson?_slot, slot_fillMembers hspecs hdistinct, hkey]
  exact Members.toJson?_slot key ms

theorem lookup_fillMembers_of_some (hspecs : specs.Pairwise fun a b => a.1 ≠ b.1)
    (hdistinct : ms.Pairwise fun a b => a.1 ≠ b.1) {spec : Spec}
    (hkey : specs.lookup key = some spec) :
    (fillMembers specs ms).lookup key = (spec.member (Members.slot key ms)).toJson? := by
  rw [← Members.toJson?_slot, slot_fillMembers hspecs hdistinct, hkey]

/-- A value stays where nothing is filled in inside it and no default overrides it. -/
theorem lookup_fillMembers_of_kept (hspecs : specs.Pairwise fun a b => a.1 ≠ b.1)
    (hdistinct : ms.Pairwise fun a b => a.1 ≠ b.1) {v : Json} (hv : ms.lookup key = some v)
    (hkept : ∀ spec, specs.lookup key = some spec →
      (spec.nested? = none ∨ spec.start? (Members.slot key ms) = none) ∧
        (v = .null → spec.defaultOverridesNull = false)) :
    (fillMembers specs ms).lookup key = some v := by
  cases hkey : specs.lookup key with
  | none => rw [lookup_fillMembers_of_none hspecs hdistinct hkey, hv]
  | some spec =>
    obtain ⟨hnot, hnull⟩ := hkept spec hkey
    have hslot : (Members.slot key ms).toJson? = some v := (Members.toJson?_slot key ms).trans hv
    rw [lookup_fillMembers_of_some hspecs hdistinct hkey,
      SpecOf.member_of_not_nested hnot hslot hnull, hslot]

/-- A value that is not an object stays unless it is null and a default overrides it. -/
theorem lookup_fillMembers_of_scalar (hspecs : specs.Pairwise fun a b => a.1 ≠ b.1)
    (hdistinct : ms.Pairwise fun a b => a.1 ≠ b.1) {v : Json} (hv : ms.lookup key = some v)
    (hobject : ∀ xs, v ≠ .object xs)
    (hnull : v = .null → ∀ spec, specs.lookup key = some spec → spec.defaultOverridesNull = false) :
    (fillMembers specs ms).lookup key = some v := by
  refine lookup_fillMembers_of_kept hspecs hdistinct hv fun spec hspec => ⟨Or.inr ?_, ?_⟩
  · exact SpecOf.start?_eq_none ((Members.toJson?_slot key ms).trans hv) hobject
      fun h => hnull h spec hspec
  · exact fun h => hnull h spec hspec

/-- A member with a default is there. -/
theorem exists_lookup_fillMembers_of_default (hspecs : specs.Pairwise fun a b => a.1 ≠ b.1)
    (hdistinct : ms.Pairwise fun a b => a.1 ≠ b.1) {spec : Spec} {v : Json}
    (hspec : specs.lookup key = some spec) (hdefault : spec.default? = some (.value v)) :
    ∃ w, (fillMembers specs ms).lookup key = some w := by
  have hsupplied : (spec.member (Members.slot key ms)).isSupplied = true :=
    SpecOf.isSupplied_filled hdefault _
  rw [lookup_fillMembers_of_some hspecs hdistinct hspec]
  cases hmember : spec.member (Members.slot key ms) with
  | value w => exact ⟨w, rfl⟩
  | null => exact ⟨.null, rfl⟩
  | unspecified => simp [hmember, Slot.isSupplied] at hsupplied

/-- What filling in the defaults of its members may make of an object. Nothing but nested objects and
overridden nulls is changed, no member is added that is not specified, and none is missing that has a
default; and so for each nested object into which defaults are filled. -/
inductive Populated : List (String × Spec) → List (String × Json) → List (String × Json) → Prop
  | intro {specs : List (String × Spec)} {ms rs : List (String × Json)}
      (unnamed : ∀ {key}, specs.lookup key = none → rs.lookup key = ms.lookup key)
      (value : ∀ {key v}, ms.lookup key = some v → v ≠ .null → (∀ xs, v ≠ .object xs) →
        rs.lookup key = some v)
      (null : ∀ {key}, ms.lookup key = some .null →
        (∀ spec, specs.lookup key = some spec → spec.defaultOverridesNull = false) →
          rs.lookup key = some .null)
      (object : ∀ {key spec xs}, specs.lookup key = some spec → spec.nested? = none →
        ms.lookup key = some (.object xs) → rs.lookup key = some (.object xs))
      -- An absent member starts from the empty object, and so does an overridden null.
      (nested : ∀ {key spec inner xs}, specs.lookup key = some spec → spec.nested? = some inner →
        spec.start? (Members.slot key ms) = some xs →
          rs.lookup key = some (.object (fillMembers inner xs)))
      (inside : ∀ {key spec inner xs}, specs.lookup key = some spec → spec.nested? = some inner →
        spec.start? (Members.slot key ms) = some xs → Populated inner xs (fillMembers inner xs))
      (default : ∀ {key spec v}, specs.lookup key = some spec → spec.default? = some (.value v) →
        ∃ w, rs.lookup key = some w) :
      Populated specs ms rs

/-- One level of an object, given what happens to the objects nested in it. -/
theorem populated_of_inside (hspecs : specs.Pairwise fun a b => a.1 ≠ b.1)
    (hdistinct : ms.Pairwise fun a b => a.1 ≠ b.1)
    (hinside : ∀ {key spec inner xs}, specs.lookup key = some spec → spec.nested? = some inner →
      spec.start? (Members.slot key ms) = some xs → Populated inner xs (fillMembers inner xs)) :
    Populated specs ms (fillMembers specs ms) := by
  refine .intro ?unnamed ?value ?null ?object ?nested hinside ?default
  case unnamed =>
    intro key hkey
    exact lookup_fillMembers_of_none hspecs hdistinct hkey
  case value =>
    intro key v hv hne hobject
    exact lookup_fillMembers_of_scalar hspecs hdistinct hv hobject fun hnull => absurd hnull hne
  case null =>
    intro key hv hnull
    exact lookup_fillMembers_of_scalar hspecs hdistinct hv (by simp) fun _ => hnull
  case object =>
    intro key spec xs hspec hnested hv
    refine lookup_fillMembers_of_kept hspecs hdistinct hv fun spec' hspec' => ?_
    obtain rfl : spec = spec' := Option.some.inj (hspec.symm.trans hspec')
    exact ⟨Or.inl hnested, by simp⟩
  case nested =>
    intro key spec inner xs hspec hnested hstart
    rw [lookup_fillMembers_of_some hspecs hdistinct hspec,
      SpecOf.member_of_nested hnested hstart]
    rfl
  case default =>
    intro key spec v hspec hdefault
    exact exists_lookup_fillMembers_of_default hspecs hdistinct hspec hdefault

/-- No object repeats a key among the members that a member starts from. -/
theorem wellFormed_of_start? (hms : (Json.object ms).WellFormed) {spec : Spec}
    {xs : List (String × Json)} (h : spec.start? (Members.slot key ms) = some xs) :
    (Json.object xs).WellFormed := by
  rcases SpecOf.start?_cases h with rfl | hslot
  · exact .object .nil (by simp)
  · have hlookup : ms.lookup key = some (.object xs) := by
      rw [← Members.toJson?_slot, hslot]
      rfl
    exact hms.of_mem (key, .object xs) (Members.mem_of_lookup hlookup)

theorem populated_of_everywhere {spec : Spec} (h : spec.Everywhere SpecOf.OrderedMembers)
    (hspecs : specs ∈ spec.structuredMembers) (hms : (Json.object ms).WellFormed) :
    Populated specs ms (fillMembers specs ms) := by
  -- By induction on what is nested; the keys of each level are different by assumption.
  induction h generalizing specs ms with
  | @intro spec here inside ih =>
    refine populated_of_inside (here specs hspecs).pairwise_ne hms.distinct ?_
    intro key nestedSpec inner xs hkey hnested hstart
    exact ih specs hspecs (key, nestedSpec) (Members.mem_of_lookup hkey)
      (SpecOf.mem_structuredMembers_of_nested? hnested) (wellFormed_of_start? hms hstart)

end Population

namespace SpecOf

theorem populate_eq_onMembers {spec : Spec} (h : spec.populateMembers = true) (s : Slot) :
    spec.populate s = s.onMembers fun ms =>
      spec.structuredMembers.foldl (fun ms specs => Population.fillMembers specs ms) ms := by
  rw [populate, if_pos h]

theorem populate_of_members?_eq_none {spec : Spec} {s : Slot} (h : s.members? = none) :
    spec.populate s = s := by
  unfold populate
  split
  · exact Slot.onMembers_eq_self h _
  · rfl

theorem populate_eq_self {spec : Spec} {s : Slot} {v : Json} (hs : s.toJson? = some v)
    (hv : ∀ ms, v ≠ .object ms) : spec.populate s = s :=
  populate_of_members?_eq_none (Slot.members?_eq_none hs hv)

/-- **Filling in nested defaults keeps what was sent and leaves no default out.** A specification
with at most one structured rule that asks for nested defaults makes an object of an absent value and
of an object: all values are kept but those that a default may replace, no member is added that is
not specified, and no specified member with a default is missing, at every depth. Any other value
stays as it is, and so does every value if the specification does not ask for nested defaults. -/
theorem populate_conservative (spec : Spec) (hordered : spec.Everywhere OrderedMembers)
    (hone : spec.structuredMembers.length ≤ 1) (s : Slot) :
    (spec.populateMembers = true → ∀ ms, s.members? = some ms → (Json.object ms).WellFormed →
      ∃ rs, spec.populate s = .value (.object rs) ∧
        Population.Populated (spec.structuredMembers.headD []) ms rs) ∧
    (spec.populateMembers = false ∨ s.members? = none → spec.populate s = s) := by
  constructor
  · intro hpopulates ms hs hms
    rw [populate_eq_onMembers hpopulates, Slot.onMembers_of_members? hs]
    refine ⟨_, rfl, ?_⟩
    cases hrules : spec.structuredMembers with
    | nil =>
      have hnothing : Population.Populated [] ms (Population.fillMembers [] ms) :=
        Population.populated_of_inside .nil hms.distinct fun hkey => nomatch hkey
      rwa [Population.fillMembers] at hnothing
    | cons specs rest =>
      obtain rfl : rest = [] := by
        cases rest with
        | nil => rfl
        | cons _ _ => simp [hrules] at hone
      exact Population.populated_of_everywhere hordered (by simp [hrules]) hms
  · rintro (hnot | hs)
    · rw [populate, hnot]
      rfl
    · exact populate_of_members?_eq_none hs

/-- The options of a port keep a note, and get a network and, in place of null, a level of security. -/
theorem populate_conservative_port :
    let level : Spec := { default? := some (.value (.ofInt 1)) }
    let security : Spec :=
      { defaultOverridesNull := true, populateMembers := true
        rules := [.structured (.builtin .objectOrNull) [("level", level)]] }
    let members := [("security", security), ("vlan", level)]
    let options : Spec :=
      { populateMembers := true, rules := [.structured (.builtin .object) members] }
    let sent : List (String × Json) := [("note", .string "uplink"), ("security", .null)]
    (∃ rs, options.populate (.value (.object sent)) = .value (.object rs) ∧
      Population.Populated members sent rs) ∧
    options.populate .null = .null := by
  intro level security members options sent
  have hlevel : level.Everywhere OrderedMembers := .of_leaf (.of_leaf rfl) rfl
  have hsecurity : security.Everywhere OrderedMembers :=
    .of_single (.of_single rfl (List.pairwise_singleton _ _)) rfl (by simpa using hlevel)
  have hoptions : options.Everywhere OrderedMembers := by
    refine .of_single (.of_single rfl ?_) rfl ?_
    · exact List.pairwise_pair.2 (by decide)
    · simpa [members] using ⟨hsecurity, hlevel⟩
  have hsent : (Json.object sent).WellFormed := by
    refine .object (List.pairwise_pair.2 (by decide)) ?_
    simpa [sent] using ⟨.string _, .null⟩
  have hconservative := populate_conservative options hoptions (by decide)
  exact ⟨(hconservative (.value (.object sent))).1 rfl sent rfl hsent,
    (hconservative .null).2 (Or.inr rfl)⟩

end SpecOf

end AttributeSchema
