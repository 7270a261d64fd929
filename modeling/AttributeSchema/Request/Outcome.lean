import AttributeSchema.Body
import AttributeSchema.Request.Error

/-!
# Outcomes of stages

A stage of the preparation leaves a body also when it fails.
-/

namespace AttributeSchema

/-- The body that a stage leaves, and the error if it failed. -/
structure Outcome where
  body : Body
  error? : Option RequestError

namespace Outcome

/-- The stage succeeded. -/
def done (body : Body) : Outcome := ⟨body, none⟩

/-- The stage failed. -/
def fail (body : Body) (e : RequestError) : Outcome := ⟨body, some e⟩

/-- Go on with another stage unless this one failed. -/
def andThen (o : Outcome) (next : Body → Outcome) : Outcome :=
  match o.error? with
  | none => next o.body
  | some _ => o

/-- Go on with another stage in any case; the first error counts. -/
def andAlso (o : Outcome) (next : Body → Outcome) : Outcome :=
  let last := next o.body
  ⟨last.body, o.error?.or last.error?⟩

@[simp] theorem andThen_done (b : Body) (next : Body → Outcome) :
    (done b).andThen next = next b := rfl

@[simp] theorem andThen_fail (b : Body) (e : RequestError) (next : Body → Outcome) :
    (fail b e).andThen next = fail b e := rfl

end Outcome

end AttributeSchema
