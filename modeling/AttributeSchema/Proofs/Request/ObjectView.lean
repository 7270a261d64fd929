import AttributeSchema.Proofs.Request.Completion
import AttributeSchema.Proofs.Request.Marks
import AttributeSchema.Proofs.Traversal

/-!
# Bodies and objects

Defaults are filled into the attributes of a body and into the members of an object by the same
rule, but the two keep differently that nothing is specified. A body stores a mark; an object drops
the member, and its last member takes the place. A body shows an object if each attribute is in the
state of its member (`Body.Shows`). Filling in a default preserves this, and so does every run of
such steps. Main statement: `Body.toObject_fillEach`.
-/

namespace AttributeSchema

/-! ## Defaults in turn -/

/-- Fill in the defaults of some attributes in turn. -/
def Body.fillEach (calls : List (String × Spec)) (b : Body) : Body :=
  calls.foldl (fun b call => b.fillDefault call.1 call.2) b

/-- Fill in the defaults of some members in turn. -/
def Members.fillEach (calls : List (String × Spec)) (ms : List (String × Json)) :
    List (String × Json) :=
  calls.foldl (fun ms call => Members.fillDefault call.1 call.2 ms) ms

/-! ## The object that a body shows -/

namespace Body

variable {b : Body} {ms : List (String × Json)} {key k : String} {spec : Spec}

theorem slot_fillDefault (b : Body) (key k : String) (spec : Spec) :
    (b.fillDefault key spec).slot k = if k = key then spec.filled (b.slot key) else b.slot k := by
  unfold fillDefault SpecOf.filled
  cases spec.defaultOver? (b.slot key) with
  | some s => exact slot_insert b key k s
  | none =>
    by_cases hk : k = key
    · rw [if_pos hk, hk, Option.getD_none]
    · rw [if_neg hk]

/-- Each attribute of the body is in the state of its member in the object. An attribute that is
marked as unspecified or absent has no member. -/
structure Shows (b : Body) (ms : List (String × Json)) : Prop where
  distinct : ms.Pairwise fun a b => a.1 ≠ b.1
  slot : ∀ key, b.slot key = Members.slot key ms

/-- The body of an object shows that object. -/
theorem shows_ofObject (hdistinct : ms.Pairwise fun a b => a.1 ≠ b.1) : (ofObject ms).Shows ms := by
  refine ⟨hdistinct, fun key => ?_⟩
  have hstates : (ms.map fun e => (e.1, Slot.ofJson e.2)).Pairwise fun a b => a.1 ≠ b.1 :=
    List.pairwise_map.2 hdistinct
  have hget : (ofObject ms).get? key = (ms.lookup key).map Slot.ofJson := by
    calc
      (ofObject ms).get? key
      _ = (ms.map fun e => (e.1, Slot.ofJson e.2)).reverse.lookup key :=
        Entries.lookup_ofPairs _ key
      _ = (ms.map fun e => (e.1, Slot.ofJson e.2)).lookup key :=
        (Members.lookup_of_perm hstates (List.reverse_perm _).symm key).symm
      _ = (ms.lookup key).map Slot.ofJson := Entries.lookup_map Slot.ofJson ms key
  unfold slot Members.slot
  rw [hget]
  cases ms.lookup key <;> rfl

namespace Shows

theorem proper (h : b.Shows ms) : b.Proper := by
  intro key
  rw [h.slot key]
  exact Members.proper_slot key ms

/-- Read off as an object, the body is the object that it shows, in the order of the keys. -/
theorem perm_toObject (h : b.Shows ms) : b.toObject.Perm ms := by
  have hobject : b.toObject.Pairwise fun a b => a.1 ≠ b.1 :=
    Entries.Ascending.pairwise_ne (b.ascending.filterMap _)
  have hlookup : ∀ key, b.toObject.lookup key = ms.lookup key := by
    intro key
    rw [lookup_toObject, h.slot key, Members.toJson?_slot]
  -- Neither list repeats a key, so the same look-ups make the same members.
  refine (List.perm_ext_iff_of_nodup ?_ ?_).2 fun m => ?_
  · exact hobject.imp fun hne heq => hne (congrArg Prod.fst heq)
  · exact h.distinct.imp fun hne heq => hne (congrArg Prod.fst heq)
  · obtain ⟨key, v⟩ := m
    rw [← Entries.lookup_eq_some_iff hobject, hlookup, Entries.lookup_eq_some_iff h.distinct]

/-- A step that treats one attribute and its member alike. -/
theorem step {b' : Body} {ms' : List (String × Json)} {s : Slot → Slot} (h : b.Shows ms)
    (hdistinct : ms'.Pairwise fun a b => a.1 ≠ b.1)
    (hb : ∀ k, b'.slot k = if k = key then s (b.slot key) else b.slot k)
    (hms : ∀ k, Members.slot k ms' =
      if k = key then s (Members.slot key ms) else Members.slot k ms) : b'.Shows ms' := by
  refine ⟨hdistinct, fun k => ?_⟩
  rw [hb, hms, h.slot key, h.slot k]

/-- The default of an attribute and that of its member are filled in alike. A mark that is stored in
the body reads as the absence of the member that is dropped. -/
theorem fillDefault (h : b.Shows ms) (key : String) (spec : Spec) :
    (b.fillDefault key spec).Shows (Members.fillDefault key spec ms) :=
  h.step (Members.pairwise_fillDefault h.distinct key spec)
    (fun k => slot_fillDefault b key k spec) (fun _ => Members.slot_fillDefault h.distinct spec)

theorem fillEach (h : b.Shows ms) (calls : List (String × Spec)) :
    (b.fillEach calls).Shows (Members.fillEach calls ms) := by
  induction calls generalizing b ms with
  | nil => exact h
  | cons call calls ih => exact ih (h.fillDefault call.1 call.2)

end Shows

end Body

/-! ## Nested and top-level filling -/

namespace SpecOf

variable {spec : Spec} {s : Slot}

/-- An attribute may be given on creation, and the defaults inside it, if there are any to fill in,
are those of one rule and do not replace null. Only attributes can be forbidden on creation, only
members start over from null, and only attributes look at more than one rule. -/
structure FilledAlike (spec : Spec) : Prop where
  allowPost : spec.allowPost = true
  one : spec.populateMembers = true → spec.structuredMembers.length ≤ 1
  keepsNull : spec.populateMembers = true → spec.defaultOverridesNull = false

theorem inside_cases (spec : Spec) (s : Slot) :
    spec.inside s = s ∨ ∃ rs, spec.inside s = .value (.object rs) := by
  unfold inside
  split
  · exact Or.inr ⟨_, rfl⟩
  · exact Or.inl rfl

theorem proper_inside (hs : s.Proper) : (spec.inside s).Proper := by
  rcases inside_cases spec s with hsame | ⟨rs, hrs⟩
  · rwa [hsame]
  · simp [hrs, Slot.Proper]

theorem inside_of_not_populate (h : (spec.populateMembers && spec.isStructured) = false)
    (s : Slot) : spec.inside s = s := by
  refine inside_of_not_nested (Or.inl ?_)
  unfold nested?
  split
  case isFalse => rfl
  case isTrue hpopulates =>
    have hnone : spec.structuredMembers = [] := by simpa [hpopulates, isStructured] using h
    rw [hnone]
    rfl

/-- An attribute is filled inside as a member is. -/
theorem FilledAlike.populate_eq (h : spec.FilledAlike) (hpopulates : spec.populateMembers = true)
    (hstructured : spec.isStructured = true) (s : Slot) : spec.populate s = spec.inside s := by
  obtain ⟨specs, hspecs⟩ : ∃ specs, spec.structuredMembers = [specs] := by
    refine List.length_eq_one_iff.1 (Nat.le_antisymm (h.one hpopulates) ?_)
    exact List.length_pos_iff.2 (by simpa [isStructured] using hstructured)
  have hnested : spec.nested? = some specs := by simp [nested?, hpopulates, hspecs]
  have hstart : spec.start? s = s.members? := by simp [start?, h.keepsNull hpopulates]
  rw [populate_eq_onMembers hpopulates, hspecs]
  cases hmembers : s.members? with
  | some xs =>
    rw [Slot.onMembers_of_members? hmembers, inside_of_nested hnested (hstart.trans hmembers)]
    rfl
  | none =>
    rw [Slot.onMembers_eq_self hmembers, inside_of_not_nested (Or.inr (hstart.trans hmembers))]

end SpecOf

namespace Request

variable {b : Body} {name k : String} {spec : Spec}

theorem slot_populateNested (hspec : spec.FilledAlike) (hproper : (b.slot name).Proper)
    (k : String) :
    (populateNested name spec b).slot k =
      if k = name then spec.inside (b.slot name) else b.slot k := by
  have hkept : ∀ s, b.slot name = s → b.slot k = if k = name then s else b.slot k := by
    rintro s rfl
    split
    case isTrue hk => rw [hk]
    case isFalse => rfl
  unfold populateNested
  split
  case isFalse hnot =>
    rw [SpecOf.inside_of_not_populate (by simpa using hnot)]
    exact hkept _ rfl
  case isTrue hboth =>
    obtain ⟨hpopulates, hstructured⟩ := Bool.and_eq_true_iff.1 hboth
    have hinside := hspec.populate_eq hpopulates hstructured (b.slot name)
    rw [hinside]
    split
    case h_1 v hv =>
      have hvalue : Slot.ofJson v = .value v :=
        Slot.ofJson_of_toJson? (by rw [← hv]; exact SpecOf.proper_inside hproper) rfl
      rw [hv, Body.slot_insert, hvalue]
    case h_2 hvalue =>
      -- Where no value comes out, nothing was filled in.
      rcases SpecOf.inside_cases spec (b.slot name) with hsame | ⟨rs, hrs⟩
      · exact hkept _ hsame.symm
      · exact absurd hrs (hvalue _)

/-- Where its default is filled in alike, an attribute is treated on creation as a member is. -/
theorem slot_createAttribute (checkAllowPost : Bool) (hspec : spec.FilledAlike)
    (hproper : (b.slot name).Proper) (k : String) :
    (createAttribute checkAllowPost name spec b).body.slot k =
      if k = name then spec.member (b.slot name) else b.slot k := by
  rw [body_createAttribute, completeAttribute, if_pos hspec.allowPost, Body.slot_fillDefault,
    slot_populateNested hspec hproper, if_pos rfl, SpecOf.member]
  by_cases hk : k = name
  · rw [if_pos hk, if_pos hk]
  · rw [if_neg hk, if_neg hk, slot_populateNested hspec hproper, if_neg hk]

end Request

namespace Body

variable {b : Body} {ms : List (String × Json)}

/-- The attributes of a body are filled in on creation as the members of the object that it shows,
whether or not required attributes are found missing. -/
theorem Shows.fillAll (h : b.Shows ms) (checkAllowPost : Bool) {specs : List (String × Spec)}
    (hspecs : ∀ e ∈ specs, e.2.FilledAlike) :
    (Request.fillAll checkAllowPost specs b).body.Shows (Population.fillMembers specs ms) := by
  induction specs generalizing b ms with
  | nil =>
    rw [Population.fillMembers]
    exact h
  | cons e specs ih =>
    obtain ⟨key, spec⟩ := e
    obtain ⟨hspec, hrest⟩ := List.forall_mem_cons.1 hspecs
    have hdistinct := Population.pairwise_fillInside h.distinct key spec
    rw [Population.fillMembers]
    exact ih (h.step (Members.pairwise_fillDefault hdistinct key spec)
      (Request.slot_createAttribute checkAllowPost hspec (h.proper key))
      (fun _ => Population.slot_fillMember h.distinct spec)) hrest

/-- **Bodies and objects are filled in alike.** Defaults are filled in in turn, of any attributes,
each as often as one likes: as values, as null, as the mark that nothing was specified, and over null.
Done to an object and to its body, this leads to an object without repeated keys and to a body which,
read off as an object, has the same members, and in which each attribute is in the state of its
member. So nested defaults agree with those of attributes: where both are filled in alike, a creation
makes of the body of the object what nested filling makes of the object. -/
theorem toObject_fillEach (ms : List (String × Json))
    (hdistinct : ms.Pairwise fun a b => a.1 ≠ b.1) (calls : List (String × Spec)) :
    let object := Members.fillEach calls ms
    let body := (ofObject ms).fillEach calls
    (object.Pairwise fun a b => a.1 ≠ b.1) ∧
      body.toObject.Perm object ∧
      (∀ key, body.slot key = Members.slot key object) ∧
      ∀ checkAllowPost, (∀ call ∈ calls, call.2.FilledAlike) →
        (Request.fillAll checkAllowPost calls (ofObject ms)).body.toObject.Perm
          (Population.fillMembers calls ms) := by
  intro object body
  have hstart : (ofObject ms).Shows ms := shows_ofObject hdistinct
  -- The run keeps in step whatever the calls are, so a mark of one call is absence to the next.
  have hrun : body.Shows object := hstart.fillEach calls
  refine ⟨hrun.distinct, hrun.perm_toObject, hrun.slot, fun checkAllowPost hcalls => ?_⟩
  exact (hstart.fillAll checkAllowPost hcalls).perm_toObject

/-- A port whose unit is sent as null: the mark takes its place and null again that of the mark,
while the object loses the member and gets it back behind the name. Security is filled in from
inside. -/
theorem toObject_fillEach_port :
    let level : Spec := { default? := some (.value (.ofInt 1)) }
    let security : Spec :=
      { allowPost := true, populateMembers := true
        rules := [.structured (.builtin .object) [("level", level)]] }
    let sent : List (String × Json) := [("mtu", .null), ("name", .string "uplink")]
    let calls : List (String × Spec) :=
      [("mtu", { allowPost := true, default? := some .unspecified, defaultOverridesNull := true }),
        ("mtu", { allowPost := true, default? := some (.value .null) }),
        ("security", security)]
    let object : List (String × Json) := [("name", .string "uplink"), ("mtu", .null)]
    (sent.Pairwise fun a b => a.1 ≠ b.1) ∧
      Members.fillEach calls sent = object ∧
      ((ofObject sent).fillEach calls).toObject.Perm object ∧
      (∀ call ∈ calls, call.2.FilledAlike) ∧
      (Request.fillAll true calls (ofObject sent)).body.toObject.Perm
        (Population.fillMembers calls sent) := by
  intro level security sent calls object
  have hsent : sent.Pairwise fun a b => a.1 ≠ b.1 := List.pairwise_pair.2 (by decide)
  have hobject : Members.fillEach calls sent = object := by rfl
  have hcalls : ∀ call ∈ calls, call.2.FilledAlike := by
    simp only [calls, List.forall_mem_cons, List.not_mem_nil, false_implies, implies_true, and_true]
    exact ⟨⟨rfl, by simp, by simp⟩, ⟨rfl, by simp, by simp⟩,
      ⟨rfl, fun _ => by decide, fun _ => rfl⟩⟩
  obtain ⟨-, hperm, -, hcreated⟩ := toObject_fillEach sent hsent calls
  rw [hobject] at hperm
  exact ⟨hsent, hobject, hperm, hcalls, hcreated true hcalls⟩

end Body

end AttributeSchema
