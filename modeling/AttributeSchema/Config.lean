import AttributeSchema.Caller

/-!
# Settings of request preparation
-/

namespace AttributeSchema

/-- Which checks are made of a request, and which roles are trusted. -/
structure Config where
  /-- Attributes that may not be given on creation are rejected. -/
  checkAllowPost : Bool := true
  /-- Attributes that the schema does not declare are rejected. -/
  verifyAttributes : Bool := true
  /-- The roles that mark a trusted service; the identity of a caller is built with them. -/
  serviceRoles : List String := Caller.defaultServiceRoles
  deriving DecidableEq, Inhabited

end AttributeSchema
