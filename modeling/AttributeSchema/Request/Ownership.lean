import AttributeSchema.Caller
import AttributeSchema.Request.Outcome
import AttributeSchema.Schema

/-!
# Ownership

The owner of a resource is a project, under two spellings of one attribute. Both spellings agree with
each other and, unless the caller is privileged, with the project of the caller. On creation the
project of the caller is filled in. Main definition: `Ownership.settle`.
-/

namespace AttributeSchema.Ownership

open Schema (tenantKey projectKey)

/-- The two spellings, in the order in which they are treated. -/
def keys : List String := [tenantKey, projectKey]

/-- Give the spelling that is not supplied the state of the other one. -/
def copyAcross (b : Body) : Body :=
  match b.isSupplied tenantKey, b.isSupplied projectKey with
  | true, false => b.insert projectKey (b.slot tenantKey)
  | false, true => b.insert tenantKey (b.slot projectKey)
  | _, _ => b

/-- Drop the spellings that the schema does not declare. -/
def dropUndeclared (schema : Schema) (b : Body) : Body :=
  keys.foldl (fun b key => if schema.declares key then b else b.erase key) b

/-- Make the two spellings agree, if they do not contradict each other. -/
def align (schema : Schema) (b : Body) : Outcome :=
  if b.isSupplied tenantKey && b.isSupplied projectKey && b.slot tenantKey != b.slot projectKey then
    .fail b .ownersDiffer
  else if schema.isProjectScoped then .done (dropUndeclared schema (copyAcross b))
  else .done b

/-- The project of the caller as a value. -/
def own (caller : Caller) : Json :=
  match caller.project? with
  | some project => .string project
  | none => .null

/-- Whether the body names a project that is not the one of the caller. -/
def namesForeign (caller : Caller) (b : Body) : Bool :=
  keys.any fun key =>
    match (b.slot key).toJson? with
    | some requested => requested != own caller
    | none => false

/-- Set every declared spelling to a project. -/
def assign (schema : Schema) (project : String) (b : Body) : Body :=
  keys.foldl (fun b key => if schema.declares key then b.set key (.string project) else b) b

/-- Fill in the project of the caller where a body names none. -/
def assignOwn (schema : Schema) (caller : Caller) (b : Body) : Outcome :=
  if b.isSupplied tenantKey || b.isSupplied projectKey then .done b
  else match caller.project? with
    | some project => .done (assign schema project b)
    | none => if schema.isProjectScoped then .fail b .noOwner else .done b

/-- Settle who owns the resource of a request. -/
def settle (schema : Schema) (caller : Caller) (creating : Bool) (b : Body) : Outcome :=
  (align schema b).andThen fun b =>
    if namesForeign caller b && !caller.mayActForOthers then .fail b .foreignOwner
    else if creating then assignOwn schema caller b
    else .done b

end AttributeSchema.Ownership
