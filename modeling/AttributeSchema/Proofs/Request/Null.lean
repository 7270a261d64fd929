import AttributeSchema.Proofs.Request.Attribute
import AttributeSchema.Proofs.Request.Settlement

/-!
# One state for null

An attribute could be in the state of a value that is null, and would then pass for set. It never
is: the body of an object keeps null in a state of its own, and so does whatever is done to it, also
where it fails in the middle. What one step preserves is said stage by stage. Main statements:
`Request.Operation.proper_apply` for one operation and `Request.null_of_operations` for any number.
-/

namespace AttributeSchema

namespace Body

variable {b : Body} {key : String}

theorem Proper.set (h : b.Proper) (key : String) (v : Json) : (b.set key v).Proper :=
  h.insert (Slot.proper_ofJson v) key

theorem Proper.erase (h : b.Proper) (key : String) : Proper (b.erase key) := by
  intro k
  rw [slot_erase]
  split
  · simp [Slot.Proper]
  · exact h k

/-- Changes that each keep null in its own state do so together. -/
theorem Proper.foldl {α : Type} {change : Body → α → Body}
    (hchange : ∀ b x, b.Proper → (change b x).Proper) (h : b.Proper) (xs : List α) :
    (xs.foldl change b).Proper := by
  induction xs generalizing b with
  | nil => exact h
  | cons x xs ih => exact ih (hchange b x h)

theorem Proper.not_mem_entries (h : b.Proper) (key : String) : (key, .value .null) ∉ b.entries := by
  intro hmem
  have hslot : b.slot key = .value .null := by
    rw [slot, Dict.mem_entries_iff.1 hmem, Option.getD_some]
  exact h key hslot

/-- An attribute whose value is null is in the state of null. -/
theorem Proper.get?_of_null (h : b.Proper) (hnull : (b.slot key).toJson? = some .null) :
    b.get? key = some .null := by
  rw [get?_eq_some_slot (isSupplied_iff_toJson?.2 ⟨.null, hnull⟩),
    ← Slot.ofJson_of_toJson? (h key) hnull]
  rfl

/-- A default of null leads to the state of null, unless a value was set. -/
theorem get?_fillDefault_of_null {spec : Spec} (hdefault : spec.default? = some (.value .null))
    (hset : (b.slot key).isSet = false) : (b.fillDefault key spec).get? key = some .null := by
  cases hover : spec.defaultOver? (b.slot key) with
  | some s =>
    obtain ⟨d, hd, rfl⟩ := SpecOf.exists_of_defaultOver? hover
    obtain rfl : Default.value .null = d := Option.some.inj (hdefault.symm.trans hd)
    rw [fillDefault_of_some hover]
    exact Dict.get?_insert_self b key _
  | none =>
    have hsupplied := isSupplied_of_defaultOver? hdefault hover
    rw [fillDefault_of_none hover, get?_eq_some_slot hsupplied]
    unfold isSupplied at hsupplied
    cases hslot : b.slot key with
    | null => rfl
    | value v => simp [hslot, Slot.isSet] at hset
    | unspecified => simp [hslot, Slot.isSupplied] at hsupplied

end Body

namespace Outcome

variable {o : Outcome} {next : Body → Outcome}

theorem proper_andThen (ho : o.body.Proper) (hnext : ∀ b, b.Proper → (next b).body.Proper) :
    (o.andThen next).body.Proper := by
  unfold andThen
  split
  · exact hnext o.body ho
  · exact ho

theorem proper_andAlso (ho : o.body.Proper) (hnext : ∀ b, b.Proper → (next b).body.Proper) :
    (o.andAlso next).body.Proper := hnext o.body ho

theorem proper_of_eq_done {f : Body} (ho : o.body.Proper) (h : o = done f) : f.Proper := by
  rw [h] at ho
  exact ho

end Outcome

/-! ## Stages -/

namespace Ownership

open Schema (tenantKey projectKey)

variable {b : Body}

theorem proper_copyAcross (hb : b.Proper) : (copyAcross b).Proper := by
  -- What is copied is a state that the body has.
  unfold copyAcross
  split
  · exact hb.insert (hb tenantKey) projectKey
  · exact hb.insert (hb projectKey) tenantKey
  · exact hb

theorem proper_dropUndeclared (schema : Schema) (hb : b.Proper) :
    (dropUndeclared schema b).Proper := by
  refine hb.foldl (fun b key hb => ?_) keys
  split
  · exact hb
  · exact hb.erase key

theorem proper_assign (schema : Schema) (project : String) (hb : b.Proper) :
    (assign schema project b).Proper := by
  refine hb.foldl (fun b key hb => ?_) keys
  split
  · exact hb.set key _
  · exact hb

theorem proper_body_align (schema : Schema) (hb : b.Proper) : (align schema b).body.Proper := by
  unfold align
  split
  · exact hb
  · split
    · exact proper_dropUndeclared schema (proper_copyAcross hb)
    · exact hb

theorem proper_body_assignOwn (schema : Schema) (caller : Caller) (hb : b.Proper) :
    (assignOwn schema caller b).body.Proper := by
  unfold assignOwn
  split
  · exact hb
  · split
    · exact proper_assign schema _ hb
    · split
      · exact hb
      · exact hb

/-- A settlement keeps null in its own state, whether it succeeds or fails. -/
theorem proper_body_settle (schema : Schema) (caller : Caller) (creating : Bool) (hb : b.Proper) :
    (settle schema caller creating b).body.Proper := by
  refine Outcome.proper_andThen (proper_body_align schema hb) fun b hb => ?_
  split
  · exact hb
  · split
    · exact proper_body_assignOwn schema caller hb
    · exact hb

theorem proper_settle {schema : Schema} {caller : Caller} {creating : Bool} {f : Body}
    (h : settle schema caller creating b = .done f) (hb : b.Proper) : f.Proper :=
  Outcome.proper_of_eq_done (proper_body_settle schema caller creating hb) h

end Ownership

namespace Request

variable {schema : Schema} {name : String} {spec : Spec} {raw v : Json} {b : Body}

theorem proper_populateNested (name : String) (spec : Spec) (hb : b.Proper) :
    (populateNested name spec b).Proper := by
  unfold populateNested
  split
  · split
    · exact hb.set name _
    · exact hb
  · exact hb

theorem proper_body_createAttribute (checkAllowPost : Bool) (name : String) (spec : Spec)
    (hb : b.Proper) : (createAttribute checkAllowPost name spec b).body.Proper := by
  have hnested : (populateNested name spec b).Proper := proper_populateNested name spec hb
  unfold createAttribute
  split
  · rw [fillAttribute_body]
    split
    · exact hnested
    · exact hnested.fillDefault name spec
  · split
    · exact hb
    · exact hb

theorem proper_body_fillAll (checkAllowPost : Bool) (es : List (String × Spec)) (hb : b.Proper) :
    (fillAll checkAllowPost es b).body.Proper := by
  induction es generalizing b with
  | nil => exact hb
  | cons e es ih =>
    exact Outcome.proper_andAlso (proper_body_createAttribute checkAllowPost e.1 e.2 hb) fun _ => ih

theorem proper_body_convertAttribute (name : String) (spec : Spec) (hb : b.Proper) :
    (convertAttribute name spec b).body.Proper := by
  unfold convertAttribute
  split
  · exact hb
  · split
    · exact hb
    · -- The value is stored whatever the rules say of it.
      split
      · exact hb.set name _
      · exact hb.set name _

theorem proper_body_convertAll (es : List (String × Spec)) (hb : b.Proper) :
    (convertAll es b).body.Proper := by
  induction es generalizing b with
  | nil => exact hb
  | cons e es ih =>
    exact Outcome.proper_andThen (proper_body_convertAttribute e.1 e.2 hb) fun _ => ih

theorem body_verifyAttributes (schema : Schema) (b : Body) :
    (verifyAttributes schema b).body = b := by
  unfold verifyAttributes
  split <;> rfl

theorem body_checkUpdatable (schema : Schema) (b : Body) :
    (checkUpdatable schema b).body = b := by
  unfold checkUpdatable
  split <;> rfl

theorem proper_body_fillDefaults (schema : Schema) (checkAllowPost : Bool) (hb : b.Proper) :
    (fillDefaults schema checkAllowPost b).body.Proper := proper_body_fillAll checkAllowPost _ hb

theorem proper_fillDefaults {checkAllowPost : Bool} {f : Body} (hb : b.Proper)
    (h : fillDefaults schema checkAllowPost b = .done f) : f.Proper :=
  Outcome.proper_of_eq_done (proper_body_fillDefaults schema checkAllowPost hb) h

theorem proper_body_convertValues (schema : Schema) (hb : b.Proper) :
    (convertValues schema b).body.Proper := proper_body_convertAll _ hb

theorem proper_body_verifyAttributes (schema : Schema) (hb : b.Proper) :
    (verifyAttributes schema b).body.Proper := by
  rw [body_verifyAttributes]
  exact hb

theorem proper_body_checkUpdatable (schema : Schema) (hb : b.Proper) :
    (checkUpdatable schema b).body.Proper := by
  rw [body_checkUpdatable]
  exact hb

/-- A preparation keeps null in its own state, at whichever stage it fails. -/
theorem proper_body_prepare (schema : Schema) (config : Config) (caller : Caller) (action : Action)
    (hb : b.Proper) : (prepare schema config caller action b).body.Proper := by
  refine Outcome.proper_andThen ?settled fun b hb => ?converted
  case settled =>
    refine Outcome.proper_andThen (Ownership.proper_body_settle schema caller _ hb) fun b hb => ?_
    cases action with
    | create => exact proper_body_fillDefaults schema config.checkAllowPost hb
    | update => exact proper_body_checkUpdatable schema hb
  case converted =>
    refine Outcome.proper_andThen (proper_body_convertValues schema hb) fun b hb => ?_
    split
    · exact proper_body_verifyAttributes schema hb
    · exact hb

/-! ## What a conversion stores -/

/-- A value that can be converted is stored as it was converted, also if it is rejected then. -/
theorem get?_convertAttribute (hraw : (b.slot name).toJson? = some raw)
    (hconvert : spec.convert raw = .ok v) :
    (convertAttribute name spec b).body.get? name = some (.ofJson v) := by
  unfold convertAttribute
  rw [hraw]
  dsimp only
  rw [hconvert]
  dsimp only
  split
  · exact Dict.get?_insert_self b name _
  · exact Dict.get?_insert_self b name _

theorem get?_convertAll_of_not_mem {es : List (String × Spec)} (hname : ∀ e ∈ es, e.1 ≠ name) :
    (convertAll es b).body.get? name = b.get? name := by
  induction es generalizing b with
  | nil => rfl
  | cons e es ih =>
    obtain ⟨he, hes⟩ := List.forall_mem_cons.1 hname
    have hfirst : (convertAttribute e.1 e.2 b).body.get? name = b.get? name :=
      (actsAt_convertAttribute e.1 e.2).frame b name he.symm
    rw [convertAll, Outcome.andThen]
    split
    · exact (ih hes).trans hfirst
    · exact hfirst

theorem get?_convertAll {es : List (String × Spec)} (hascending : Entries.Ascending es)
    (hmem : (name, spec) ∈ es) (hraw : (b.slot name).toJson? = some raw)
    (hconvert : spec.convert raw = .ok v)
    (hearlier : ∀ e ∈ es, e.1 < name → (convertAttribute e.1 e.2 b).error? = none) :
    (convertAll es b).body.get? name = some (.ofJson v) := by
  induction es generalizing b with
  | nil => simp at hmem
  | cons e es ih =>
    obtain ⟨hlt, hrest⟩ := List.pairwise_cons.1 hascending
    obtain ⟨hfirst, hlater⟩ := List.forall_mem_cons.1 hearlier
    rw [convertAll, Outcome.andThen]
    rcases List.mem_cons.1 hmem with rfl | hmem
    · -- What comes later, if anything does, leaves the attribute alone.
      have hstored := get?_convertAttribute hraw hconvert
      have hnot : ∀ e ∈ es, e.1 ≠ name := fun e he heq => String.lt_irrefl name (heq ▸ hlt e he)
      split
      · exact (get?_convertAll_of_not_mem hnot).trans hstored
      · exact hstored
    · -- The attribute comes later, and the one that is first goes through and leaves it alone.
      have hbefore : e.1 < name := hlt _ hmem
      have hframe : ∀ k, e.1 < k → (convertAttribute e.1 e.2 b).body.get? k = b.get? k :=
        fun k hk => (actsAt_convertAttribute e.1 e.2).frame b k fun heq =>
          String.lt_irrefl e.1 (heq ▸ hk)
      rw [hfirst hbefore]
      refine ih hrest hmem ?_ fun e' he' hlt' => ?_
      · rw [Body.slot_congr (hframe name hbefore)]
        exact hraw
      · rw [(actsAt_convertAttribute e'.1 e'.2).error (hframe e'.1 (hlt e' he'))]
        exact hlater e' he' hlt'

/-- A declared value that can be converted is stored as it was converted, if no attribute before it
fails. -/
theorem get?_convertValues (hspec : schema.spec? name = some spec)
    (hraw : (b.slot name).toJson? = some raw) (hconvert : spec.convert raw = .ok v)
    (hearlier : ∀ name' spec', schema.spec? name' = some spec' → name' < name →
      (convertAttribute name' spec' b).error? = none) :
    (convertValues schema b).body.get? name = some (.ofJson v) :=
  get?_convertAll schema.attributes.ascending (Dict.mem_entries_iff.2 hspec) hraw hconvert
    fun e he => hearlier e.1 e.2 (Dict.mem_entries_iff.1 he)

/-! ## Operations in turn -/

/-- The operations on the body of a request. -/
inductive Operation where
  | set (key : String) (v : Json)
  | mark (key : String)
  | erase (key : String)
  | fillDefault (key : String) (spec : Spec)
  | settle (schema : Schema) (caller : Caller) (creating : Bool)
  | fillDefaults (schema : Schema) (checkAllowPost : Bool)
  | checkUpdatable (schema : Schema)
  | convertValues (schema : Schema)
  | verifyAttributes (schema : Schema)
  | prepare (schema : Schema) (config : Config) (caller : Caller) (action : Action)

namespace Operation

/-- The body that an operation leaves, whether it succeeds or not. -/
def apply (b : Body) : Operation → Body
  | .set key v => b.set key v
  | .mark key => b.insert key .unspecified
  | .erase key => b.erase key
  | .fillDefault key spec => b.fillDefault key spec
  | .settle schema caller creating => (Ownership.settle schema caller creating b).body
  | .fillDefaults schema checkAllowPost => (Request.fillDefaults schema checkAllowPost b).body
  | .checkUpdatable schema => (Request.checkUpdatable schema b).body
  | .convertValues schema => (Request.convertValues schema b).body
  | .verifyAttributes schema => (Request.verifyAttributes schema b).body
  | .prepare schema config caller action => (Request.prepare schema config caller action b).body

/-- No operation makes a value of null. -/
theorem proper_apply (op : Operation) (hb : b.Proper) : (op.apply b).Proper := by
  cases op with
  | set key v => exact hb.set key v
  | mark key => exact hb.insert (by simp [Slot.Proper]) key
  | erase key => exact hb.erase key
  | fillDefault key spec => exact hb.fillDefault key spec
  | settle schema caller creating => exact Ownership.proper_body_settle schema caller creating hb
  | fillDefaults schema checkAllowPost => exact proper_body_fillDefaults schema checkAllowPost hb
  | checkUpdatable schema => exact proper_body_checkUpdatable schema hb
  | convertValues schema => exact proper_body_convertValues schema hb
  | verifyAttributes schema => exact proper_body_verifyAttributes schema hb
  | prepare schema config caller action => exact proper_body_prepare schema config caller action hb

end Operation

/-- **Null has one state.** Whatever operations are applied in turn to the body of an object, and
however many of them fail, no entry of the body is a value that is null. So an attribute whose value
is null is in the state of null and is not set. A default of null is stored in this state where no
value is set, and so is null that a value was converted to, even if the rules reject it then. -/
theorem null_of_operations (members : List (String × Json)) (ops : List Operation) :
    let b := ops.foldl Operation.apply (Body.ofObject members)
    (∀ key, (key, .value .null) ∉ b.entries) ∧
      (∀ key, (b.slot key).toJson? = some .null →
        b.get? key = some .null ∧ (b.slot key).isSet = false) ∧
      (∀ key spec, spec.default? = some (.value .null) → (b.slot key).isSet = false →
        (b.fillDefault key spec).get? key = some .null) ∧
      ∀ schema name spec raw, schema.spec? name = some spec → (b.slot name).toJson? = some raw →
        spec.convert raw = .ok .null →
        (∀ name' spec', schema.spec? name' = some spec' → name' < name →
          (convertAttribute name' spec' b).error? = none) →
        (convertValues schema b).body.get? name = some .null := by
  intro b
  have hb : b.Proper :=
    (Body.proper_ofObject members).foldl (fun _ op hb => op.proper_apply hb) ops
  refine ⟨hb.not_mem_entries, fun key hnull => ?_, fun _ _ => Body.get?_fillDefault_of_null,
    fun _ _ _ _ => get?_convertValues⟩
  have hget := hb.get?_of_null hnull
  exact ⟨hget, by rw [Body.slot, hget]; rfl⟩

/-- A port gets null for its note by default, and for its unit, which is rejected, by conversion. -/
theorem null_of_operations_port :
    let mtu : Spec :=
      { allowPost := true, convertTo := some [.custom ⟨"to_nothing", fun _ => .ok .null⟩]
        rules := [.ofLeaf .nonNegative none] }
    let note : Spec := { allowPost := true, default? := some (.value .null) }
    let schema : Schema := ⟨"ports", Dict.ofPairs [("mtu", mtu), ("note", note)]⟩
    let b := [Operation.fillDefaults schema true].foldl Operation.apply
      (.ofObject [("mtu", .ofInt 1500)])
    b.get? "note" = some .null ∧
      (convertValues schema b).body.get? "mtu" = some .null ∧
      (convertValues schema b).error?.isSome = true := by
  intro mtu note schema b
  obtain ⟨-, hnull, -, hconverted⟩ :=
    null_of_operations [("mtu", .ofInt 1500)] [.fillDefaults schema true]
  refine ⟨(hnull "note" (by cbv)).1, ?_, by cbv⟩
  refine hconverted schema "mtu" mtu (.ofInt 1500) (by cbv) (by cbv) (by cbv)
    fun name spec hspec hlt => ?_
  have hmem := Dict.mem_of_get?_ofPairs hspec
  simp only [List.mem_cons, Prod.mk.injEq, List.not_mem_nil, or_false] at hmem
  rcases hmem with ⟨rfl, -⟩ | ⟨rfl, -⟩
  · exact absurd hlt (by decide)
  · exact absurd hlt (by decide)

end Request

end AttributeSchema
