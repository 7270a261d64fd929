import AttributeSchema.Uuid

/-!
# Callers

Who sends a request: the user, the project, the roles, and which roles mark a trusted service.
-/

namespace AttributeSchema

/-- The identity of the sender of a request. -/
structure Caller where
  userId : Uuid
  /-- The project of the caller; there is none without authentication. -/
  project? : Option String
  roles : List String
  /-- The caller is an administrator whatever its roles are. -/
  adminFlag : Bool
  /-- The roles that mark a trusted service. -/
  serviceRoles : List String
  deriving DecidableEq

namespace Caller

/-- The role that marks an administrator. -/
def adminRole : String := "admin"

/-- The roles that mark a trusted service unless others are named. -/
def defaultServiceRoles : List String := ["advsvc", "service"]

/-- A caller without project, roles and privileges. -/
def anonymous : Caller := ⟨.zero, none, [], false, defaultServiceRoles⟩

def hasRole (caller : Caller) (role : String) : Bool := caller.roles.contains role

def isAdmin (caller : Caller) : Bool := caller.adminFlag || caller.hasRole adminRole

/-- Whether some role of the caller marks a trusted service. -/
def isService (caller : Caller) : Bool := caller.serviceRoles.any caller.hasRole

/-- Whether the caller may name a project other than its own. -/
def mayActForOthers (caller : Caller) : Bool := caller.isAdmin || caller.isService

end Caller

end AttributeSchema
