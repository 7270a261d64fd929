import AttributeSchema.Document.Source
import AttributeSchema.Yaml.Modern.Entries

/-!
# Values of nodes in the modern dialect

A node of the modern dialect as a source of typed data, and as an untyped value. Tags of collections do
not matter.
-/

namespace AttributeSchema.Yaml

/-- What a node stands for. A repeated key keeps its first position and its last value. -/
def Node.value? (n : Node) : Option Json :=
  match n with
  | .scalar s => s.value?
  | .sequence _ items => (items.attach.mapM fun m : { m // m ∈ items } => m.1.value?).map .array
  | .mapping tag? entries =>
    match _ : (Node.mapping tag? entries).entries? with
    | none => none
    | some es =>
      (es.attach.mapM fun e : { e // e ∈ es } => e.1.2.value?.map fun v => (e.1.1, v)).map
        fun ms => .object (Members.ofPairs ms)
termination_by sizeOf n
decreasing_by
  · have := List.sizeOf_lt_of_mem m.2
    simp only [Node.sequence.sizeOf_spec]
    omega
  · exact Node.sizeOf_lt_of_mem_entries? ‹_› e.2

/-- A flag and a text may be any scalar that spells one. -/
instance : Source Node where
  isNull
    | .scalar s => s.isAbsent
    | _ => false
  flag?
    | .scalar s => s.flag?
    | _ => none
  text?
    | .scalar s => s.text?
    | _ => none
  items?
    | .sequence _ items => some items
    | _ => none
  entries? := Node.entries?
  positional? _ := none
  value? := Node.value?

end AttributeSchema.Yaml
