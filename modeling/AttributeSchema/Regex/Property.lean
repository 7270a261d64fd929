import AttributeSchema.Text.Unicode.Age
import AttributeSchema.Text.Unicode.Category
import AttributeSchema.Text.Unicode.Property
import AttributeSchema.Text.Unicode.Script
import AttributeSchema.Text.Unicode.Segmentation

/-!
# Names of properties

Patterns name sets of characters by Unicode properties and their values. Names are compared loosely: case,
blanks, hyphens, underscores and a leading "is" do not count.
-/

namespace AttributeSchema.Regex

open Text (CharSet NamedSet)

/-- Drop a leading "is" of any case. -/
def dropIs : List Char → List Char × Bool
  | i :: s :: rest =>
    if i.toLower = 'i' ∧ s.toLower = 's' then (rest, true) else (i :: s :: rest, false)
  | cs => (cs, false)

/-- The form in which names are compared. The name of one letter that is left of "isc" is none, since that
is short for another property. -/
def looseName (name : List Char) : String :=
  let (rest, hadIs) := dropIs name
  let kept := rest.filter fun c => c != ' ' && c != '_' && c != '-' && c.toNat < 0x80
  let loose := String.ofList (kept.map Char.toLower)
  if hadIs ∧ loose = "c" then "isc" else loose

/-- The set of a property with two values, of a general category or of a script. -/
def propertySet? (name : List Char) : Option CharSet :=
  let name := looseName name
  let binary := if name ∈ ["cf", "sc", "lc"] then none else Text.Unicode.property? name
  binary <|> Text.Unicode.category? name <|> Text.Unicode.script? name

/-- The set of a value of a property. -/
def valueSet? (property value : List Char) : Option CharSet :=
  let value := looseName value
  match looseName property with
  | "gc" | "generalcategory" => Text.Unicode.category? value
  | "sc" | "script" => Text.Unicode.script? value
  | "scx" | "scriptextensions" => Text.Unicode.scriptExtension? value
  | "age" => Text.Unicode.age? value
  | "gcb" | "graphemeclusterbreak" => NamedSet.find? Text.Unicode.graphemeBreaks value
  | "wb" | "wordbreak" => NamedSet.find? Text.Unicode.wordBreaks value
  | "sb" | "sentencebreak" => NamedSet.find? Text.Unicode.sentenceBreaks value
  | _ => none

/-- The parts of a text before and after the first place where a mark stands. -/
def splitAtMark (mark : List Char) : List Char → Option (List Char × List Char)
  | [] => none
  | c :: cs =>
    if mark.isPrefixOf (c :: cs) then some ([], (c :: cs).drop mark.length)
    else (splitAtMark mark cs).map fun (before, after) => (c :: before, after)

/-- The set that the text in the braces of a property names, and whether the text says that characters
have another value than the named one. -/
def namedSet? (text : List Char) : Option (CharSet × Bool) :=
  match splitAtMark ['!', '='] text, splitAtMark [':'] text, splitAtMark ['='] text with
  | some (property, value), _, _ => (valueSet? property value).map (·, true)
  | none, some (property, value), _ => (valueSet? property value).map (·, false)
  | none, none, some (property, value) => (valueSet? property value).map (·, false)
  | none, none, none => (propertySet? text).map (·, false)

end AttributeSchema.Regex
