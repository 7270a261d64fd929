import AttributeSchema.Command.Variable
import AttributeSchema.Yaml.Classic.Document
import AttributeSchema.Yaml.Classic.Spelling

/-!
# Layers of settings

Settings come from their defaults, from a file in the classic dialect of YAML, and from variables of the
environment, each layer over the one before. A file cannot be read if a node in it has a tag of its own
or a text that its tag does not admit. Main definition: `Settings.load?`.
-/

namespace AttributeSchema

namespace Yaml

open Command (Setting)

/-- What a plain text without a tag stands for. -/
def Classic.plainSetting (text : String) : Setting :=
  if text.isEmpty || spellsNull text then .other
  else
    match flag? text with
    | some b => .flag b
    | none => if isNumber text then .other else .text text

/-- What a scalar stands for. -/
def Scalar.setting? (s : Scalar) : Option Setting :=
  let other (isSpelled : Bool) := if isSpelled then some Setting.other else none
  match s.tag? with
  | none => some (if s.style == .plain then Classic.plainSetting s.text else .text s.text)
  | some .own => none
  | some .null => other (Classic.spellsNull s.text)
  | some .bool => (Classic.flag? s.text).map .flag
  | some .int => other (Classic.isWhole s.text)
  | some .float => other (Classic.isReal s.text)
  | some _ => some (.text s.text)

namespace Node

/-- Whether a node can be the name of a setting. -/
def name? : Node → Option String
  | .scalar s => some s.text
  | _ => none

mutual

/-- What a node stands for. -/
def setting? : Node → Option Setting
  | .scalar s => s.setting?
  | .sequence tag? items => if tag? == some .own then none else (settings? items).map .list
  | .mapping tag? entries =>
    if tag? == some .own then none else (namedSettings? entries).map fun _ => .other

/-- What items stand for. -/
def settings? : List Node → Option (List Setting)
  | [] => some []
  | n :: ns =>
    match setting? n, settings? ns with
    | some v, some vs => some (v :: vs)
    | _, _ => none

/-- The settings that entries give. -/
def namedSettings? : List (Node × Node) → Option (List (String × Setting))
  | [] => some []
  | (k, n) :: es =>
    match k.name?, setting? n, namedSettings? es with
    | some name, some v, some vs => some ((name, v) :: vs)
    | _, _, _ => none

end

end Node

end Yaml

namespace Command.Settings

/-- The settings that a file gives. A file may be empty. -/
def ofFile? (text : String) : Option (List (String × Setting)) :=
  match Yaml.Node.ofClassic? text with
  | some (.mapping _ entries) => Yaml.Node.namedSettings? entries
  | some (.scalar s) => if s.text.isEmpty && s.style == .plain then some [] else none
  | _ => none

/-- The settings of a file, if there is one, and of the environment. -/
def load? (file? : Option String) (environment : List (String × String)) : Option Config := do
  let fromFile ← match file? with
    | some text => ofFile? text
    | none => some []
  Setting.config? (fromFile ++ Variable.ofEnvironment environment)

end Command.Settings

end AttributeSchema
