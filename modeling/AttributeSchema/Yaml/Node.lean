import AttributeSchema.Yaml.Tag
import AttributeSchema.Yaml.Token

/-!
# YAML nodes

A YAML text is a tree of scalars, sequences and mappings, each with an optional tag.
-/

namespace AttributeSchema.Yaml

/-- A scalar. -/
structure Scalar where
  text : String
  style : Style := .plain
  tag? : Option Tag := none
  deriving DecidableEq, Inhabited

/-- A node of a tree. -/
inductive Node where
  | scalar (s : Scalar)
  | sequence (tag? : Option Tag) (items : List Node)
  | mapping (tag? : Option Tag) (entries : List (Node × Node))
  deriving Inhabited

/-- The node that stands where nothing is written. -/
def Node.empty : Node := .scalar { text := "" }

end AttributeSchema.Yaml
