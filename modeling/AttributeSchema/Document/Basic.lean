import AttributeSchema.Document.Entry
import AttributeSchema.Schema

/-!
# Schema documents

A schema document declares the attributes of resources, and of sub-resources together with their
parents. A mapping of attributes or resources may repeat a name; the last declaration counts.
-/

namespace AttributeSchema

/-- The declaration of a sub-resource. -/
structure SubEntry where
  parent : Parent
  attributes : Dict Entry

/-- What a schema document declares. -/
structure Document where
  resources : Dict (Dict Entry)
  subResources : Dict SubEntry

namespace Document

open Source

variable {τ : Type} [Source τ]

/-- The entries of attributes by name. -/
def attributes? (n : τ) : Option (Dict Entry) := (mapping? Entry.read? n).map Dict.ofPairs

/-- A reference to a parent; both names have to be given. -/
def parent? (n : τ) : Option Parent := do
  let fs ← fields? ⟨["collection_name", "member_name"], true, 2⟩ n
  let collection ← field fs "collection_name" text? none
  let member ← field fs "member_name" text? none
  return { collection, member }

/-- A sub-resource; the parent has to be given. -/
def subEntry? (n : τ) : Option SubEntry := do
  let fs ← fields? ⟨["parent", "attributes"], true, 1⟩ n
  let parent ← field fs "parent" parent? none
  let attributes ← field fs "attributes" attributes? (some ∅)
  return { parent, attributes }

/-- Read a document. -/
def read? (n : τ) : Option Document := do
  let fs ← fields? ⟨["resources", "sub_resources"], true, 0⟩ n
  let resources ← field fs "resources" (mapping? attributes?) (some [])
  let subResources ← field fs "sub_resources" (mapping? subEntry?) (some [])
  return ⟨Dict.ofPairs resources, Dict.ofPairs subResources⟩

end Document

end AttributeSchema
