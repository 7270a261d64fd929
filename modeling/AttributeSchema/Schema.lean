import AttributeSchema.ConfigError
import AttributeSchema.Rule

/-!
# Schemas

A schema specifies the attributes of one resource. A schema set holds the schemas of resources and of
sub-resources, where a sub-resource also refers to its parent. A name is looked up among the resources
first.
-/

namespace AttributeSchema

/-- The specifications of the attributes of a resource. -/
structure Schema where
  resource : String
  attributes : Dict Spec

namespace Schema

/-- The two spellings of the attribute that holds the owner of a resource. -/
def tenantKey : String := "tenant_id"

@[inherit_doc tenantKey]
def projectKey : String := "project_id"

/-- Whether the schema declares an attribute. -/
def declares (schema : Schema) (name : String) : Bool := schema.attributes.contains name

/-- The specification of an attribute. -/
def spec? (schema : Schema) (name : String) : Option Spec := schema.attributes.get? name

/-- Whether resources of the schema belong to a project. -/
def isProjectScoped (schema : Schema) : Bool :=
  schema.declares tenantKey || schema.declares projectKey

/-- The attributes with a property, in ascending order. -/
def namesWhere (schema : Schema) (p : Spec → Bool) : List String :=
  (schema.attributes.entries.filter fun (_, spec) => p spec).map Prod.fst

def visible (schema : Schema) : List String := schema.namesWhere (·.isVisible)

def filterKeys (schema : Schema) : List String := schema.namesWhere (·.isFilter)

def sortKeys (schema : Schema) : List String := schema.namesWhere (·.isSortKey)

/-- The first attribute that is marked as the primary key. -/
def primaryKey? (schema : Schema) : Option String := (schema.namesWhere (·.primaryKey)).head?

/-- The attributes that a policy has to check. -/
def policyChecked (schema : Schema) : List String :=
  schema.namesWhere fun spec => spec.enforcePolicy || spec.requiredByPolicy

/-- Add attributes; one that is already there is replaced. -/
def extend (schema : Schema) (attributes : Dict Spec) : Schema :=
  { schema with attributes := schema.attributes.union attributes }

end Schema

/-- The parent of a sub-resource. -/
structure Parent where
  collection : String
  member : String
  deriving DecidableEq, Repr

/-- The attribute that refers to the parent. -/
def Parent.idAttribute (parent : Parent) : String := parent.member ++ "_id"

/-- A schema under a parent. -/
structure SubResource where
  parent : Parent
  schema : Schema

/-- The schemas of a service, by name. -/
structure SchemaSet where
  resources : Dict Schema := ∅
  subResources : Dict SubResource := ∅

namespace SchemaSet

instance : EmptyCollection SchemaSet := ⟨⟨∅, ∅⟩⟩

def isEmpty (set : SchemaSet) : Bool := set.resources.isEmpty && set.subResources.isEmpty

/-- Add the schema of a resource under the name of the resource. -/
def insertResource (set : SchemaSet) (schema : Schema) : SchemaSet :=
  { set with resources := set.resources.insert schema.resource schema }

/-- Add a sub-resource under the name of the resource. -/
def insertSubResource (set : SchemaSet) (sub : SubResource) : SchemaSet :=
  { set with subResources := set.subResources.insert sub.schema.resource sub }

/-- The schema of a resource or, failing that, of a sub-resource. -/
def schema? (set : SchemaSet) (name : String) : Except ConfigError Schema :=
  match set.resources.get? name with
  | some schema => .ok schema
  | none =>
    match set.subResources.get? name with
    | some sub => .ok sub.schema
    | none => .error (.unknownResource name)

/-- Add attributes to the schema that a name refers to. -/
def extend (set : SchemaSet) (name : String) (attributes : Dict Spec) :
    Except ConfigError SchemaSet :=
  match set.resources.get? name with
  | some schema =>
    .ok { set with resources := set.resources.insert name (schema.extend attributes) }
  | none =>
    match set.subResources.get? name with
    | some sub =>
      let sub := { sub with schema := sub.schema.extend attributes }
      .ok { set with subResources := set.subResources.insert name sub }
    | none => .error (.unknownResource name)

end SchemaSet

end AttributeSchema
