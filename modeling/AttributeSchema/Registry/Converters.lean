import AttributeSchema.ConfigError
import AttributeSchema.Converter.Basic
import AttributeSchema.Dict

/-!
# The registry of converters

The built-in converters are always registered, and further ones by name. A name is bound once, to a
value converter or to a list converter, and keeps its meaning.
-/

namespace AttributeSchema

/-- A converter that was registered by name. -/
inductive CustomConverter where
  | value (c : CustomValueConverter)
  | list (c : CustomListConverter)

namespace CustomConverter

def name : CustomConverter → String
  | .value c => c.name
  | .list c => c.name

end CustomConverter

/-- The converters that were registered in addition to the built-in ones. -/
structure ConverterRegistry where
  custom : Dict CustomConverter := ∅

namespace ConverterRegistry

/-- Whether a name is bound. -/
def contains (r : ConverterRegistry) (name : String) : Bool :=
  (BuiltinConverter.ofName? name).isSome || name == ListConverter.pairsName || r.custom.contains name

/-- The value converter that a name is bound to. -/
def lookup (r : ConverterRegistry) (name : String) : Except ConfigError Converter :=
  match BuiltinConverter.ofName? name with
  | some c => .ok (.builtin c)
  | none =>
    match r.custom.get? name with
    | some (.value c) => .ok (.custom c)
    | _ => .error (.unknownConverter name)

/-- The list converter that a name is bound to. -/
def lookupList (r : ConverterRegistry) (name : String) : Except ConfigError ListConverter :=
  if name = ListConverter.pairsName then .ok .pairs
  else match r.custom.get? name with
    | some (.list c) => .ok (.custom c)
    | _ => .error (.unknownConverter name)

/-- The value converters that some names are bound to, up to the first unknown name. -/
def lookupAll (r : ConverterRegistry) (names : List String) : Except ConfigError (List Converter) :=
  names.mapM r.lookup

/-- Bind the name of a converter. The answer is the registry and, if the name is taken, an error. -/
def register (r : ConverterRegistry) (c : CustomConverter) :
    ConverterRegistry × Option ConfigError :=
  if r.contains c.name then (r, some (.duplicateConverter c.name))
  else ({ r with custom := r.custom.insert c.name c }, none)

end ConverterRegistry

end AttributeSchema
