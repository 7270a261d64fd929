import AttributeSchema.Document.Basic
import AttributeSchema.Registry.Converters
import AttributeSchema.Registry.Validators

/-!
# Resolving documents

The names in a document are resolved in registries, and the parameters of rules are checked. The
parameter of a structured rule declares the members of an object, whose entries are resolved in turn.
Main definitions: `Registries.rule`, by recursion on the parameter, and `Registries.schemaSet`.
-/

namespace AttributeSchema

/-- The registries that names are resolved in. -/
structure Registries where
  converters : ConverterRegistry
  validators : ValidatorRegistry

/-- The parameter of a rule, where null stands for none. -/
def Rule.givenParam (param : Json) : Option Json := if param.isNull then none else some param

namespace Registries

/-- A leaf rule. Only the parameters of built-in validators are checked. -/
def leafRule (path : String) (kind : LeafKind) (param : Option Json) : Except ConfigError Rule :=
  match kind with
  | .builtin v =>
    match Rule.ofLeaf? v param with
    | .ok rule => .ok rule
    | .error fault => .error (.invalidRuleParam path v.name fault)
  | .custom v => .ok (.ofCustom v param)

/-- The specification of an entry, given the outcome of resolving its rules. Converters are resolved
before that outcome is looked at. -/
def complete (reg : Registries) (e : Entry) (rules : Except ConfigError (List Rule)) :
    Except ConfigError Spec := do
  let convertTo ← e.converters?.mapM reg.converters.lookupAll
  let convertListTo ← e.listConverter?.mapM reg.converters.lookupList
  let rules ← rules
  return { e.spec with convertTo, convertListTo, rules }

/-- The rule of a validator with a parameter, for the attribute that a path leads to. -/
def rule (reg : Registries) (path name : String) (param : Json) : Except ConfigError Rule :=
  match reg.validators.lookup name with
  | .error e => .error e
  | .ok (.leaf kind) => leafRule path kind (Rule.givenParam param)
  | .ok (.structured kind) =>
    match param with
    | .null => .ok (.structured kind [])
    | .object members => do
      let specs ← members.attach.mapM fun ⟨(key, v), _⟩ => do
        let path := path ++ "." ++ key
        if v.isNull then
          let spec ← reg.complete ({} : Entry) (.ok [])
          return (key, spec)
        else
          match _he : Entry.read? v with
          | none => throw (.malformedDocument (some path))
          | some e =>
            let spec ← reg.complete e (e.spec.rules.attach.mapM fun ⟨(name, param), _⟩ =>
              reg.rule path name param)
            return (key, spec)
      return .structured kind (Entries.ofPairs specs)
    | _ => .error (.invalidRuleParam path name .notMembers)
termination_by sizeOf param
decreasing_by
  have hparam := Entry.sizeOf_param_lt _he ‹_ ∈ e.spec.rules›
  have hmember := List.sizeOf_lt_of_mem ‹_ ∈ members›
  simp only [Json.object.sizeOf_spec, Prod.mk.sizeOf_spec] at hparam hmember ⊢
  omega

/-- The specification of an entry, for the attribute that a path leads to. -/
def spec (reg : Registries) (path : String) (e : Entry) : Except ConfigError Spec :=
  reg.complete e (e.spec.rules.mapM fun (name, param) => reg.rule path name param)

/-- The specifications of entries, up to the first error. -/
def attributes (reg : Registries) (path : String) (entries : Dict Entry) :
    Except ConfigError (Dict Spec) := do
  let specs ← entries.entries.mapM fun (name, e) => do
    let spec ← reg.spec (path ++ "." ++ name) e
    return (name, spec)
  return Dict.ofPairs specs

/-- The schemas of a document: first those of the resources, then those of the sub-resources. -/
def schemaSet (reg : Registries) (doc : Document) : Except ConfigError SchemaSet := do
  let resources ← doc.resources.entries.mapM fun (name, entries) => do
    let attributes ← reg.attributes name entries
    return (name, { resource := name, attributes : Schema })
  let subResources ← doc.subResources.entries.mapM fun (name, sub) => do
    let attributes ← reg.attributes name sub.attributes
    return (name, { parent := sub.parent, schema := { resource := name, attributes } : SubResource })
  return ⟨Dict.ofPairs resources, Dict.ofPairs subResources⟩

/-- Load a document from a source, if there is one. -/
def load {τ : Type} [Source τ] (reg : Registries) (source? : Option τ) :
    Except ConfigError SchemaSet :=
  match source?.bind Document.read? with
  | some doc => reg.schemaSet doc
  | none => .error (.malformedDocument none)

end Registries

namespace SchemaSet

/-- Add the attributes of some schemas to the schemas of the same names, up to the first name that is
unknown. What was added before that stays. -/
def extendAll (set : SchemaSet) : List (String × Schema) → SchemaSet × Option ConfigError
  | [] => (set, none)
  | (name, schema) :: rest =>
    match set.extend name schema.attributes with
    | .ok set => set.extendAll rest
    | .error e => (set, some e)

/-- Add what an extension declares: attributes to the resources that it names and, unless one of
them is unknown, its sub-resources. -/
def absorb (set extension : SchemaSet) : SchemaSet × Option ConfigError :=
  match set.extendAll extension.resources.entries with
  | (set, some e) => (set, some e)
  | (set, none) =>
    (extension.subResources.entries.foldl (fun set (_, sub) => set.insertSubResource sub) set, none)

end SchemaSet

end AttributeSchema
