import AttributeSchema.ConfigError
import AttributeSchema.Rule

/-!
# The registry of validators

The built-in validators are always registered, and further ones by name. A name is bound once, to a
leaf validator or to a structured one, and keeps its meaning.
-/

namespace AttributeSchema

/-- A validator, by the shape of the rules that it makes. -/
inductive ValidatorKind where
  | leaf (kind : LeafKind)
  | structured (kind : StructuredKind)

namespace ValidatorKind

def name : ValidatorKind → String
  | .leaf kind => kind.name
  | .structured kind => kind.name

/-- The built-in validator with a given name. -/
def builtin? (name : String) : Option ValidatorKind :=
  match LeafValidator.ofName? name with
  | some v => some (.leaf (.builtin v))
  | none => (StructuredValidator.ofName? name).map fun v => .structured (.builtin v)

end ValidatorKind

/-- A validator that was registered by name. -/
inductive CustomValidator where
  | leaf (v : CustomLeaf)
  | structured (v : CustomStructured)

namespace CustomValidator

def name : CustomValidator → String
  | .leaf v => v.name
  | .structured v => v.name

def kind : CustomValidator → ValidatorKind
  | .leaf v => .leaf (.custom v)
  | .structured v => .structured (.custom v)

end CustomValidator

/-- The validators that were registered in addition to the built-in ones. -/
structure ValidatorRegistry where
  custom : Dict CustomValidator := ∅

namespace ValidatorRegistry

/-- The validator that a name is bound to. -/
def lookup? (r : ValidatorRegistry) (name : String) : Option ValidatorKind :=
  match ValidatorKind.builtin? name with
  | some kind => some kind
  | none => (r.custom.get? name).map CustomValidator.kind

/-- Whether a name is bound. -/
def contains (r : ValidatorRegistry) (name : String) : Bool :=
  (ValidatorKind.builtin? name).isSome || r.custom.contains name

/-- The validator that a name is bound to, or an error. -/
def lookup (r : ValidatorRegistry) (name : String) : Except ConfigError ValidatorKind :=
  match r.lookup? name with
  | some kind => .ok kind
  | none => .error (.unknownValidator name)

/-- Bind the name of a validator. The answer is the registry and, if the name is taken, an error. -/
def register (r : ValidatorRegistry) (v : CustomValidator) :
    ValidatorRegistry × Option ConfigError :=
  if r.contains v.name then (r, some (.duplicateValidator v.name))
  else ({ r with custom := r.custom.insert v.name v }, none)

/-- Bind the names of some validators in turn, up to the first error. Those before it stay bound. -/
def registerAll (r : ValidatorRegistry) : List CustomValidator →
    ValidatorRegistry × Option ConfigError
  | [] => (r, none)
  | v :: vs =>
    match r.register v with
    | (r, none) => r.registerAll vs
    | (r, some e) => (r, some e)

/-- The names of the built-in validators. -/
def builtinNames : List String :=
  LeafValidator.all.map LeafValidator.name ++ StructuredValidator.all.map StructuredValidator.name

/-- The bound names: the built-in ones, then the others in ascending order. -/
def names (r : ValidatorRegistry) : List String := builtinNames ++ r.custom.keys

theorem contains_eq_isSome_lookup? (r : ValidatorRegistry) (name : String) :
    r.contains name = (r.lookup? name).isSome := by
  unfold contains lookup?
  cases ValidatorKind.builtin? name <;> simp [Dict.contains]

end ValidatorRegistry

end AttributeSchema
