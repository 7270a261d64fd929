import AttributeSchema.Converter.Error
import AttributeSchema.Diagnostic

/-!
# Errors of requests

Why a request is rejected, and the wording of each reason. A reason is either an invalid value of some
attribute or a fault of the request as a whole.
-/

namespace AttributeSchema

/-- Why a request is rejected. -/
inductive RequestError where
  | conversion (e : ConvertError)
  | rejected (name : String) (reason : Diagnostic)
  | missing (name : String)
  | notOnCreate (name : String)
  | notOnUpdate (name : String)
  /-- A segment of a list is not an object. -/
  | notSegment (v : Json)
  | undeclared (names : List String)
  /-- The two spellings of the owner disagree. -/
  | ownersDiffer
  | foreignOwner
  | noOwner

namespace RequestError

/-- The two kinds of rejection. -/
inductive Kind where
  | invalidInput
  | badRequest
  deriving DecidableEq, Repr

def kind : RequestError → Kind
  | .undeclared _ | .ownersDiffer | .foreignOwner | .noOwner => .badRequest
  | _ => .invalidInput

/-- The wording of a reason. -/
def message : RequestError → String
  | .conversion e => e.message
  | .rejected name reason =>
    let reason := reason.message
    s!"Invalid input for {name}. Reason: {reason}."
  | .missing name => s!"Required attribute '{name}' not specified"
  | .notOnCreate name => s!"Attribute '{name}' not allowed in POST"
  | .notOnUpdate name => s!"Cannot update read-only attribute '{name}'"
  | .notSegment v =>
    let shown := v.display
    s!"Invalid input for segments. Reason: '{shown}' is not a dictionary."
  | .undeclared names =>
    let shown := ", ".intercalate names
    s!"Unrecognized attribute(s) '{shown}'"
  | .ownersDiffer => "'project_id' and 'tenant_id' do not match"
  | .foreignOwner =>
    "Specifying 'project_id' or 'tenant_id' other than the authenticated project in request requires admin or service privileges"
  | .noOwner => "Running without authentication requires that tenant_id is specified"

end RequestError

end AttributeSchema
