import AttributeSchema.Check.Leaf

/-!
# Configuration errors

What can be wrong with a registration, a schema document or the name of a resource, and the wording of
each error. The compiler of patterns and the readers of documents word what they refuse themselves, so
their words are a parameter.
-/

namespace AttributeSchema

/-- An error of the configuration, as opposed to one of a request. -/
inductive ConfigError where
  | unknownValidator (name : String)
  | duplicateValidator (name : String)
  | unknownConverter (name : String)
  | duplicateConverter (name : String)
  /-- The parameter of a rule cannot be used; `path` leads to the attribute. -/
  | invalidRuleParam (path rule : String) (fault : ParamFault)
  | unknownResource (name : String)
  /-- A document does not parse or does not have the shape of a schema, as a whole or in the entry of
  the nested attribute that `path?` leads to. -/
  | malformedDocument (path? : Option String)
  deriving DecidableEq, Repr

/-- The wording of an error, where `said` is what the compiler or the reader that found it says. -/
def ConfigError.message (said : String) : ConfigError → String
  | .unknownValidator name => s!"Validator '{name}' does not exist"
  | .duplicateValidator name => s!"Validator '{name}' is already registered"
  | .unknownConverter name => s!"Converter '{name}' does not exist"
  | .duplicateConverter name => s!"Converter '{name}' is already registered"
  | .invalidRuleParam path rule fault =>
    let reason := fault.message said
    s!"invalid parameter for rule '{rule}' on attribute '{path}': {reason}"
  | .unknownResource name => s!"unknown resource '{name}'"
  | .malformedDocument none => s!"malformed schema document: {said}"
  | .malformedDocument (some path) => s!"malformed schema document: {path}: {said}"

end AttributeSchema
