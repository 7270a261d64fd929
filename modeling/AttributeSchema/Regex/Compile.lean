import AttributeSchema.Regex.Automaton.Size
import AttributeSchema.Regex.Match
import AttributeSchema.Regex.Meaning
import AttributeSchema.Regex.Pattern.Reader

/-!
# Expressions of patterns

The text of a pattern gives an expression unless it is malformed, nested too deeply, without a meaning
under its flags, or too large.
-/

namespace AttributeSchema.Regex

/-- The expression of the text of a pattern. -/
def compile? (text : String) : Option Regex :=
  match Pattern.read? text with
  | some p =>
    if p.depth ≤ Pattern.maxDepth then
      match p.meaning? {} with
      | some (r, _) => if r.fits then some r else none
      | none => none
    else none
  | none => none

end AttributeSchema.Regex
