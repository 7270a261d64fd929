/-!
# Tokens of YAML

The scanner of a dialect turns a text into tokens. Indentation has become brackets of its own: a block
collection starts with its token and ends with `blockEnd`.
-/

namespace AttributeSchema.Yaml

/-- How a scalar is written. -/
inductive Style where
  | plain
  | singleQuoted
  | doubleQuoted
  | block
  deriving DecidableEq, Inhabited

/-- A token of a YAML text. -/
inductive Token where
  | streamEnd
  | versionDirective (major minor : Nat)
  | tagDirective (handle tagPrefix : String)
  | otherDirective
  | documentStart
  | documentEnd
  | blockSequenceStart
  | blockMappingStart
  | blockEnd
  | flowSequenceStart
  | flowSequenceEnd
  | flowMappingStart
  | flowMappingEnd
  | blockEntry
  | flowEntry
  | key
  | value
  | alias (name : String)
  /-- An anchor, with the column where it is written. -/
  | anchor (name : String) (column : Nat)
  /-- A tag, with the column where it is written. -/
  | tag (handle suffix : String) (column : Nat)
  | scalar (style : Style) (text : String)
  deriving DecidableEq, Inhabited

/-- The column of an anchor or of a tag. -/
def Token.propertyColumn? : Token → Option Nat
  | .anchor _ column => some column
  | .tag _ _ column => some column
  | _ => none

end AttributeSchema.Yaml
