import AttributeSchema.Proofs.Request.Settlement
import Mathlib

/-!
# Two runs side by side

A stage reads the states of some attributes and writes to these only. So two bodies that are alike
where a stage looks are treated alike: it fails on both with the same error or on neither, and the
bodies that it leaves are alike again. What it means to be alike is left open, and each relation that
survives what stages do will serve. Main statement: `Request.alike_prepare`.
-/

namespace AttributeSchema

/-- Related bodies are in the same state at each watched attribute, and they stay related when the
same is done to both of them there. -/
structure Body.Congruence (watched : String → Prop) (R : Body → Body → Prop) : Prop where
  slot : ∀ {b b' key}, R b b' → watched key → b.slot key = b'.slot key
  insert : ∀ {b b' key}, R b b' → watched key → ∀ s, R (b.insert key s) (b'.insert key s)
  erase : ∀ {b b' key}, R b b' → watched key → R (b.erase key) (b'.erase key)

theorem Body.Congruence.isSupplied {watched : String → Prop} {R : Body → Body → Prop}
    (hR : Congruence watched R) {b b' : Body} {key : String} (h : R b b') (hkey : watched key) :
    b.isSupplied key = b'.isSupplied key := by
  rw [Body.isSupplied, Body.isSupplied, hR.slot h hkey]

/-! ## Outcomes that are alike -/

namespace Outcome

/-- Two outcomes with the same error and with related bodies. -/
structure Alike (R : Body → Body → Prop) (o o' : Outcome) : Prop where
  error : o.error? = o'.error?
  body : R o.body o'.body

variable {R : Body → Body → Prop} {o o' : Outcome} {next : Body → Outcome} {b b' f : Body}

theorem Alike.done (h : R b b') : Alike R (.done b) (.done b') := ⟨rfl, h⟩

theorem Alike.fail (h : R b b') (e : RequestError) : Alike R (.fail b e) (.fail b' e) := ⟨rfl, h⟩

theorem Alike.andThen (h : Alike R o o')
    (hnext : ∀ {b b'}, R b b' → Alike R (next b) (next b')) :
    Alike R (o.andThen next) (o'.andThen next) := by
  unfold Outcome.andThen
  rw [h.error]
  split
  · exact hnext h.body
  · exact h

theorem Alike.andAlso (h : Alike R o o')
    (hnext : ∀ {b b'}, R b b' → Alike R (next b) (next b')) :
    Alike R (o.andAlso next) (o'.andAlso next) := by
  have hlast : Alike R (next o.body) (next o'.body) := hnext h.body
  refine ⟨?_, hlast.body⟩
  simp only [Outcome.andAlso, h.error, hlast.error]

/-- Where one of the two succeeds the other one does, with a related body. -/
theorem Alike.exists_done (h : Alike R o o') (ho : o = .done f) : ∃ f', o' = .done f' ∧ R f f' := by
  obtain ⟨herror, rfl⟩ := eq_done_iff.1 ho
  exact ⟨o'.body, eq_done_iff.2 ⟨h.error ▸ herror, rfl⟩, h.body⟩

end Outcome

open Outcome (Alike)

/-! ## The owner -/

namespace Ownership

open Schema (tenantKey projectKey)

variable {watched : String → Prop} {R : Body → Body → Prop} {schema : Schema} {caller : Caller}
  {b b' : Body}

theorem related_copyAcross (hR : Body.Congruence watched R) (hkeys : ∀ key ∈ keys, watched key)
    (h : R b b') : R (copyAcross b) (copyAcross b') := by
  have htenant : watched tenantKey := hkeys _ tenantKey_mem
  have hproject : watched projectKey := hkeys _ projectKey_mem
  unfold copyAcross
  rw [hR.isSupplied h htenant, hR.isSupplied h hproject, hR.slot h htenant, hR.slot h hproject]
  split
  · exact hR.insert h hproject _
  · exact hR.insert h htenant _
  · exact h

theorem related_dropUndeclared (hR : Body.Congruence watched R)
    (hkeys : ∀ key ∈ keys, watched key) (h : R b b') :
    R (dropUndeclared schema b) (dropUndeclared schema b') := by
  refine List.foldl_rel h fun key hkey c c' hc => ?_
  split
  · exact hc
  · exact hR.erase hc (hkeys key hkey)

theorem related_assign (hR : Body.Congruence watched R) (hkeys : ∀ key ∈ keys, watched key)
    (h : R b b') (project : String) : R (assign schema project b) (assign schema project b') := by
  refine List.foldl_rel h fun key hkey c c' hc => ?_
  split
  · exact hR.insert hc (hkeys key hkey) _
  · exact hc

theorem alike_align (hR : Body.Congruence watched R) (hkeys : ∀ key ∈ keys, watched key)
    (h : R b b') : Alike R (align schema b) (align schema b') := by
  have htenant : watched tenantKey := hkeys _ tenantKey_mem
  have hproject : watched projectKey := hkeys _ projectKey_mem
  unfold align
  rw [hR.isSupplied h htenant, hR.isSupplied h hproject, hR.slot h htenant, hR.slot h hproject]
  split
  · exact .fail h _
  · split
    · exact .done (related_dropUndeclared hR hkeys (related_copyAcross hR hkeys h))
    · exact .done h

theorem alike_assignOwn (hR : Body.Congruence watched R) (hkeys : ∀ key ∈ keys, watched key)
    (h : R b b') : Alike R (assignOwn schema caller b) (assignOwn schema caller b') := by
  unfold assignOwn
  rw [hR.isSupplied h (hkeys _ tenantKey_mem), hR.isSupplied h (hkeys _ projectKey_mem)]
  split
  · exact .done h
  · split
    · exact .done (related_assign hR hkeys h _)
    · split
      · exact .fail h _
      · exact .done h

theorem namesForeign_congr (hR : Body.Congruence watched R) (hkeys : ∀ key ∈ keys, watched key)
    (h : R b b') : namesForeign caller b = namesForeign caller b' := by
  simp only [namesForeign, keys, List.any_cons, List.any_nil,
    hR.slot h (hkeys _ tenantKey_mem), hR.slot h (hkeys _ projectKey_mem)]

/-- A settlement treats bodies alike that agree about the two spellings of the owner. -/
theorem alike_settle (hR : Body.Congruence watched R) (hkeys : ∀ key ∈ keys, watched key)
    (h : R b b') (creating : Bool) :
    Alike R (settle schema caller creating b) (settle schema caller creating b') := by
  refine (alike_align hR hkeys h).andThen fun {a a'} ha => ?_
  rw [namesForeign_congr hR hkeys ha]
  split
  · exact .fail ha _
  · split
    · exact alike_assignOwn hR hkeys ha
    · exact .done ha

end Ownership

/-! ## The attributes -/

namespace Request

variable {watched : String → Prop} {R : Body → Body → Prop} {schema : Schema} {config : Config}
  {caller : Caller} {action : Action} {b b' : Body} {name : String}

theorem related_populateNested (hR : Body.Congruence watched R) (hname : watched name) (h : R b b')
    (spec : Spec) : R (populateNested name spec b) (populateNested name spec b') := by
  unfold populateNested
  rw [hR.slot h hname]
  split
  · split
    · exact hR.insert h hname _
    · exact h
  · exact h

theorem related_fillDefault (hR : Body.Congruence watched R) (hname : watched name) (h : R b b')
    (spec : Spec) : R (b.fillDefault name spec) (b'.fillDefault name spec) := by
  unfold Body.fillDefault
  rw [hR.slot h hname]
  split
  · exact hR.insert h hname _
  · exact h

theorem alike_fillAttribute (hR : Body.Congruence watched R) (hname : watched name) (h : R b b')
    (spec : Spec) : Alike R (fillAttribute name spec b) (fillAttribute name spec b') := by
  have hpopulated := related_populateNested hR hname h spec
  unfold fillAttribute
  dsimp only
  rw [hR.isSupplied hpopulated hname]
  split
  · exact .fail hpopulated _
  · exact .done (related_fillDefault hR hname hpopulated spec)

theorem alike_createAttribute (hR : Body.Congruence watched R) (hname : watched name) (h : R b b')
    (checkAllowPost : Bool) (spec : Spec) :
    Alike R (createAttribute checkAllowPost name spec b)
      (createAttribute checkAllowPost name spec b') := by
  unfold createAttribute
  rw [hR.isSupplied h hname]
  split
  · exact alike_fillAttribute hR hname h spec
  · split
    · exact .fail h _
    · exact .done h

theorem alike_convertAttribute (hR : Body.Congruence watched R) (hname : watched name) (h : R b b')
    (spec : Spec) : Alike R (convertAttribute name spec b) (convertAttribute name spec b') := by
  unfold convertAttribute
  rw [hR.slot h hname]
  split
  · exact .done h
  · split
    · exact .fail h _
    · split
      · exact .done (hR.insert h hname _)
      · exact .fail (hR.insert h hname _) _

/-! ## The stages -/

theorem alike_fillAll (hR : Body.Congruence watched R) (checkAllowPost : Bool)
    {es : List (String × Spec)} (hes : ∀ e ∈ es, watched e.1) (h : R b b') :
    Alike R (fillAll checkAllowPost es b) (fillAll checkAllowPost es b') := by
  induction es generalizing b b' with
  | nil => exact .done h
  | cons e es ih =>
    obtain ⟨he, hes⟩ := List.forall_mem_cons.1 hes
    exact (alike_createAttribute hR he h checkAllowPost e.2).andAlso (ih hes)

theorem alike_convertAll (hR : Body.Congruence watched R) {es : List (String × Spec)}
    (hes : ∀ e ∈ es, watched e.1) (h : R b b') : Alike R (convertAll es b) (convertAll es b') := by
  induction es generalizing b b' with
  | nil => exact .done h
  | cons e es ih =>
    obtain ⟨he, hes⟩ := List.forall_mem_cons.1 hes
    exact (alike_convertAttribute hR he h e.2).andThen (ih hes)

theorem alike_checkUpdatable (hR : Body.Congruence watched R)
    (hes : ∀ e ∈ schema.attributes.entries, watched e.1) (h : R b b') :
    Alike R (checkUpdatable schema b) (checkUpdatable schema b') := by
  have hfind : (schema.attributes.entries.find? fun e => !e.2.allowPut && b.isSupplied e.1) =
      schema.attributes.entries.find? fun e => !e.2.allowPut && b'.isSupplied e.1 := by
    refine List.find?_congr fun e he => ?_
    rw [hR.isSupplied h (hes e he)]
  rw [checkUpdatable, checkUpdatable, hfind]
  cases schema.attributes.entries.find? fun e => !e.2.allowPut && b'.isSupplied e.1 with
  | some e => exact .fail h _
  | none => exact .done h

/-- What a preparation of a body watches: the declared attributes and the owner. -/
def Watched (schema : Schema) (key : String) : Prop :=
  schema.declares key = true ∨ key ∈ Ownership.keys

theorem watched_of_mem_entries : ∀ e ∈ schema.attributes.entries, Watched schema e.1 := by
  rintro ⟨name, spec⟩ he
  refine Or.inl ?_
  rw [Schema.declares, Dict.contains_eq, Dict.mem_entries_iff.1 he]
  rfl

/-- **Bodies that are alike are prepared alike**, if the last check of the preparation cannot tell
them apart either. -/
theorem alike_prepare (hR : Body.Congruence (Watched schema) R)
    (hverify : config.verifyAttributes = true → ∀ {b b'}, R b b' →
      Alike R (verifyAttributes schema b) (verifyAttributes schema b')) (h : R b b') :
    Alike R (prepare schema config caller action b) (prepare schema config caller action b') := by
  have hes : ∀ e ∈ schema.attributes.entries, Watched schema e.1 := watched_of_mem_entries
  unfold prepare
  refine Alike.andThen ?_ fun hfilled => ?_
  · refine (Ownership.alike_settle hR (fun _ => Or.inr) h _).andThen fun hsettled => ?_
    cases action with
    | create => exact alike_fillAll hR _ hes hsettled
    | update => exact alike_checkUpdatable hR hes hsettled
  · refine (alike_convertAll hR hes hfilled).andThen fun hconverted => ?_
    split
    case isTrue hverified => exact hverify hverified hconverted
    case isFalse => exact .done hconverted

end Request

end AttributeSchema
