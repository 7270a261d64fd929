import AttributeSchema.Config
import AttributeSchema.Document.Source

/-!
# Settings as documents
-/

namespace AttributeSchema.Config

open Source

/-- Read settings; those that are not given take their defaults. -/
def read? {τ : Type} [Source τ] (n : τ) : Option Config := do
  let fs ← fields? ⟨["check_allow_post", "verify_attributes", "service_roles"], true, 0⟩ n
  let checkAllowPost ← field fs "check_allow_post" flag? (some true)
  let verifyAttributes ← field fs "verify_attributes" flag? (some true)
  let serviceRoles ← field fs "service_roles" texts? (some Caller.defaultServiceRoles)
  return { checkAllowPost, verifyAttributes, serviceRoles }

/-- Read settings from a JSON text. -/
def ofText? (text : String) : Option Config :=
  (Json.Written.read? (some Json.Written.maxDepth) text).bind read?

/-- The settings as a value. -/
def toJson (config : Config) : Json :=
  .object
    [("check_allow_post", .bool config.checkAllowPost),
      ("verify_attributes", .bool config.verifyAttributes),
      ("service_roles", .array (config.serviceRoles.map .string))]

end AttributeSchema.Config
