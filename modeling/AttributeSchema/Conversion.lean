import AttributeSchema.Rule

/-!
# Conversion by specification

A value is converted by the converters of its specification, and after that the members of an object,
or of the objects in a list, are converted by the specifications of the structured rules. Main
definition: `SpecOf.convert`.
-/

namespace AttributeSchema

namespace Conversion

/-- Convert a value as a whole: by the value converters, else by the list converter, else not. -/
def whole (convertTo : Option (List Converter)) (convertListTo : Option ListConverter) (v : Json) :
    Converted :=
  match convertTo, convertListTo with
  | some converters, _ => Converter.applyAll converters v
  | none, some collapse => collapse.apply v
  | none, none => .ok v

/-- Convert the members of an object; any other value is kept. -/
def onObject (convert : List (String × Json) → Except ConvertError (List (String × Json))) :
    Json → Converted
  | .object ms => (convert ms).map .object
  | v => .ok v

/-- Convert the members of an object, or of each object in a list; any other value is kept. -/
def onObjects (convert : List (String × Json) → Except ConvertError (List (String × Json))) :
    Json → Converted
  | .array items => (items.mapM (onObject convert)).map .array
  | v => onObject convert v

mutual

/-- Convert a value by a specification. -/
def convert : SpecOf Rule → Json → Converted
  | ⟨_, _, _, _, convertTo, convertListTo, rules, _, _, _, _, _, _, _, _⟩, v =>
    match whole convertTo convertListTo v with
    | .ok w => convertByRules rules w
    | .error e => .error e

/-- Convert the members that the structured rules specify, rule after rule. -/
def convertByRules : List Rule → Json → Converted
  | [], v => .ok v
  | .leaf _ _ _ :: rules, v => convertByRules rules v
  | .structured _ specs :: rules, v =>
    match onObjects (convertMembers specs) v with
    | .ok w => convertByRules rules w
    | .error e => .error e

/-- Convert the members of an object that have a specification and are present. -/
def convertMembers : List (String × SpecOf Rule) → List (String × Json) →
    Except ConvertError (List (String × Json))
  | [], ms => .ok ms
  | (key, spec) :: specs, ms =>
    match ms.lookup key with
    | none => convertMembers specs ms
    | some v =>
      match convert spec v with
      | .ok w => convertMembers specs (Members.insert key w ms)
      | .error e => .error e

end

end Conversion

/-- Convert a value by a specification. -/
def SpecOf.convert (spec : Spec) (v : Json) : Converted := Conversion.convert spec v

end AttributeSchema
