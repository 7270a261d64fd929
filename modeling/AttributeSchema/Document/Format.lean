import AttributeSchema.Document.Resolve
import AttributeSchema.Yaml.Modern.Document

/-!
# Formats of schema documents
-/

namespace AttributeSchema

/-- The formats of schema documents. -/
inductive Format where
  | json
  | yaml
  deriving DecidableEq, Repr

namespace Registries

/-- Load a schema document. -/
def loadText (reg : Registries) (format : Format) (text : String) : Except ConfigError SchemaSet :=
  match format with
  | .json => reg.load (Json.Written.read? (some Json.Written.maxDepth) text)
  | .yaml => reg.load (Yaml.Node.ofModern? text)

/-- Load an extension and add what it declares to a schema set. -/
def extendBy (reg : Registries) (set : SchemaSet) (text : String) :
    SchemaSet × Option ConfigError :=
  match reg.loadText .yaml text with
  | .ok extension => set.absorb extension
  | .error e => (set, some e)

end Registries

end AttributeSchema
