import AttributeSchema.Caller
import AttributeSchema.Document.Source

/-!
# Callers as documents
-/

namespace AttributeSchema.Caller

open Source

/-- The fields of a caller. Others are ignored. -/
def layout : Layout where
  names := ["user_id", "project_id", "roles", "is_admin", "service_roles"]
  strict := false
  least := 2

/-- Read a caller; the user has to be given. -/
def read? {τ : Type} [Source τ] (n : τ) : Option Caller := do
  let fs ← fields? layout n
  let userId ← field fs "user_id" (fun n => (text? n).bind fun s => Uuid.read? s.toList) none
  let project? ← field fs "project_id" (optional? text?) (some none)
  let roles ← field fs "roles" texts? (some [])
  let adminFlag ← field fs "is_admin" flag? (some false)
  let serviceRoles ← field fs "service_roles" texts? (some defaultServiceRoles)
  return { userId, project?, roles, adminFlag, serviceRoles }

/-- Read a caller from a JSON text. What is ignored may nest to any depth. -/
def ofText? (text : String) : Option Caller := (Json.Written.read? none text).bind read?

/-- The caller as a value. -/
def toJson (caller : Caller) : Json :=
  .object
    [("user_id", .string caller.userId.render),
      ("project_id", (caller.project?.map Json.string).getD .null),
      ("roles", .array (caller.roles.map .string)),
      ("is_admin", .bool caller.adminFlag),
      ("service_roles", .array (caller.serviceRoles.map .string))]

end AttributeSchema.Caller
