import AttributeSchema.Config

/-!
# Values of settings

A layer of settings gives values by name. What is neither a flag, a text nor a list cannot be used, which
matters only if no later layer gives another value. Main definition: `Setting.config?`.
-/

namespace AttributeSchema.Command

/-- The value of a setting. -/
inductive Setting where
  | flag (b : Bool)
  | text (s : String)
  | list (items : List Setting)
  /-- A value of another kind. -/
  | other
  deriving Inhabited

namespace Setting

/-- The names of settings. -/
def names : List String := ["check_allow_post", "verify_attributes", "service_roles"]

def flag? : Setting → Option Bool
  | flag b => some b
  | _ => none

def text? : Setting → Option String
  | text s => some s
  | _ => none

def texts? : Setting → Option (List String)
  | list items => items.mapM text?
  | _ => none

/-- Read the last value of a name, or take its default. -/
def lastOr {α : Type} (layers : List (String × Setting)) (name : String)
    (read? : Setting → Option α) (default : α) : Option α :=
  match layers.reverse.lookup name with
  | some v => read? v
  | none => some default

/-- The settings that some layers give, later values over earlier ones. Other names are refused. -/
def config? (layers : List (String × Setting)) : Option Config := do
  let default : Config := {}
  if layers.all fun (name, _) => names.contains name then
    let checkAllowPost ← lastOr layers "check_allow_post" flag? default.checkAllowPost
    let verifyAttributes ← lastOr layers "verify_attributes" flag? default.verifyAttributes
    let serviceRoles ← lastOr layers "service_roles" texts? default.serviceRoles
    return { checkAllowPost, verifyAttributes, serviceRoles }
  else none

end Setting

end AttributeSchema.Command
