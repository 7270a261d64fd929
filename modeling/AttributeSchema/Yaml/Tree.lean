import AttributeSchema.Yaml.Node

/-!
# Trees of tokens

Tokens are read as a tree of nodes. An alias stands for the node with its anchor, which has to be
complete; a name may be used for several anchors, and the latest counts.

A node that aliases repeat is shared, so a short text may describe a huge tree. `Part` counts what a tree
would hold if nothing were shared. Main definition: `Reader.node?`.
-/

namespace AttributeSchema.Yaml

/-- A node with its size, where a node that is repeated counts each time. -/
structure Part where
  node : Node
  /-- The number of nodes. -/
  nodes : Nat := 1
  /-- The number of bytes in scalars. -/
  bytes : Nat := 0
  /-- The number of collections that are inside of one another. -/
  height : Nat := 0
  deriving Inhabited

namespace Part

def empty : Part := { node := .empty }

def ofScalar (s : Scalar) : Part := { node := .scalar s, bytes := s.text.utf8ByteSize }

/-- The size of a collection of parts. -/
def ofParts (node : Node) (parts : List Part) : Part where
  node
  nodes := parts.foldl (fun n p => n + p.nodes) 1
  bytes := parts.foldl (fun n p => n + p.bytes) 0
  height := parts.foldl (fun n p => max n p.height) 0 + 1

/-- A sequence of items, given latest first. -/
def sequence (tag? : Option Tag) (reversed : List Part) : Part :=
  let items := reversed.reverse
  ofParts (.sequence tag? (items.map Part.node)) items

/-- A mapping of keys to values, given latest first. -/
def mapping (tag? : Option Tag) (reversed : List (Part × Part)) : Part :=
  let entries := reversed.reverse
  ofParts (.mapping tag? (entries.map fun (k, v) => (k.node, v.node)))
    (entries.flatMap fun (k, v) => [k, v])

end Part

/-- What a dialect decides about nodes. -/
structure Conventions where
  /-- The meaning of a handle with a suffix, where directives are given as pairs of a handle and what it
  stands for. -/
  tag? : List (String × String) → String → String → Option Tag
  /-- An empty scalar that has an anchor counts as plain even in single quotes. -/
  anchoredEmptyIsPlain : Bool
  /-- The colon of an entry may stand where no key is. -/
  allowsMissingKeys : Bool

/-- The tokens that are left, and what has been seen of anchors and aliases. -/
structure Reader where
  tokens : List Token
  directives : List (String × String) := []
  /-- What anchors stand for, latest first. An anchor stands for nothing until its node is complete. -/
  anchors : List (String × Option Part) := []
  anchorCount : Nat := 0
  aliasCount : Nat := 0

namespace Reader

/-- Skip the next token. -/
def skip (r : Reader) : Reader := { r with tokens := r.tokens.tail }

/-- Whether the next token is one of some. -/
def isAt (r : Reader) (ts : List Token) : Bool := r.tokens.head?.any ts.contains

/-! ## Properties -/

/-- The anchor and the tag of a node. -/
structure Properties where
  anchor? : Option String := none
  tag? : Option Tag := none

/-- Read an anchor if one is next. -/
def anchor (r : Reader) : Option String × Reader :=
  match r.tokens with
  | .anchor name _ :: ts =>
    (some name,
      { r with tokens := ts, anchors := (name, none) :: r.anchors, anchorCount := r.anchorCount + 1 })
  | _ => (none, r)

/-- Read a tag if one is next. -/
def tag? (c : Conventions) (r : Reader) : Option (Option Tag × Reader) :=
  match r.tokens with
  | .tag handle suffix _ :: ts =>
    (c.tag? r.directives handle suffix).map fun t => (some t, { r with tokens := ts })
  | _ => some (none, r)

/-- Read an anchor and a tag in either order, each at most once. -/
def properties? (c : Conventions) (r : Reader) : Option (Properties × Reader) := do
  match r.anchor with
  | (some name, r) =>
    let (tag?, r) ← r.tag? c
    return (⟨some name, tag?⟩, r)
  | (none, r) =>
    let (tag?, r) ← r.tag? c
    if tag?.isSome then
      let (anchor?, r) := r.anchor
      return (⟨anchor?, tag?⟩, r)
    else return ({}, r)

/-- Let the anchor of a node stand for it. -/
def define (r : Reader) (props : Properties) (part : Part) : Part × Reader :=
  match props.anchor? with
  | some name => (part, { r with anchors := (name, some part) :: r.anchors })
  | none => (part, r)

/-- A scalar with its properties. -/
def scalar (c : Conventions) (props : Properties) (style : Style) (text : String) : Part :=
  let isPlain := c.anchoredEmptyIsPlain && props.anchor?.isSome && text.isEmpty
    && style == .singleQuoted
  .ofScalar { text, style := if isPlain then .plain else style, tag? := props.tag? }

/-! ## Nodes -/

mutual

/-- Read a node. Block collections are read only if `block` allows it, and a sequence that is not
indented only if `indentless` does. -/
def node? (c : Conventions) : Nat → (block indentless : Bool) → Reader → Option (Part × Reader)
  | 0, _, _, _ => none
  | fuel + 1, block, indentless, r =>
    match r.tokens with
    | .alias name :: _ =>
      match r.anchors.lookup name with
      | some (some part) => some (part, { r.skip with aliasCount := r.aliasCount + 1 })
      | _ => none
    | _ =>
      match r.properties? c with
      | none => none
      | some (props, r) =>
        let read : Option (Part × Reader) := match r.tokens with
          | .scalar style text :: _ => some (scalar c props style text, r.skip)
          | .flowSequenceStart :: _ => flowItems? c props.tag? fuel true [] r.skip
          | .flowMappingStart :: _ => flowEntries? c props.tag? fuel true [] r.skip
          | t :: _ =>
            if t == .blockEntry && indentless then indentlessItems? c props.tag? fuel [] r
            else if t == .blockSequenceStart && block then blockItems? c props.tag? fuel [] r.skip
            else if t == .blockMappingStart && block then blockEntries? c props.tag? fuel [] r.skip
            else if props.tag?.isSome || props.anchor?.isSome then
              some (scalar c props .plain "", r)
            else none
          | [] => none
        read.map fun (part, r) => r.define props part

/-- Read a node, or nothing if one of some tokens is next. -/
def optionalNode? (c : Conventions) : Nat → (block indentless : Bool) → List Token → Reader →
    Option (Part × Reader)
  | 0, _, _, _, _ => none
  | fuel + 1, block, indentless, ends, r =>
    match r.tokens with
    | [] => none
    | t :: _ => if ends.contains t then some (.empty, r) else node? c fuel block indentless r

/-- Read the items of a block sequence up to its end. -/
def blockItems? (c : Conventions) (tag? : Option Tag) :
    Nat → List Part → Reader → Option (Part × Reader)
  | 0, _, _ => none
  | fuel + 1, items, r =>
    match r.tokens with
    | .blockEntry :: _ =>
      match optionalNode? c fuel true false [.blockEntry, .blockEnd] r.skip with
      | some (item, r) => blockItems? c tag? fuel (item :: items) r
      | none => none
    | .blockEnd :: _ => some (.sequence tag? items, r.skip)
    | _ => none

/-- Read the items of a sequence that is not indented. -/
def indentlessItems? (c : Conventions) (tag? : Option Tag) :
    Nat → List Part → Reader → Option (Part × Reader)
  | 0, _, _ => none
  | fuel + 1, items, r =>
    match r.tokens with
    | .blockEntry :: _ =>
      match optionalNode? c fuel true false [.blockEntry, .key, .value, .blockEnd] r.skip with
      | some (item, r) => indentlessItems? c tag? fuel (item :: items) r
      | none => none
    | [] => none
    | _ => some (.sequence tag? items, r)

/-- Read the entries of a block mapping up to its end. -/
def blockEntries? (c : Conventions) (tag? : Option Tag) :
    Nat → List (Part × Part) → Reader → Option (Part × Reader)
  | 0, _, _ => none
  | fuel + 1, entries, r =>
    if r.isAt [.blockEnd] then some (.mapping tag? entries, r.skip)
    else if r.isAt [.key] || (c.allowsMissingKeys && r.isAt [.value]) then
      let key? := if r.isAt [.key] then
          optionalNode? c fuel true true [.key, .value, .blockEnd] r.skip
        else some (.empty, r)
      match key? with
      | none => none
      | some (key, r) =>
        let value? := if r.isAt [.value] then
            optionalNode? c fuel true true [.key, .value, .blockEnd] r.skip
          else if r.tokens.isEmpty then none else some (.empty, r)
        match value? with
        | some (value, r) => blockEntries? c tag? fuel ((key, value) :: entries) r
        | none => none
    else none

/-- Read the items of a flow sequence up to its end. A pair without braces is a mapping of its own. -/
def flowItems? (c : Conventions) (tag? : Option Tag) :
    Nat → (first : Bool) → List Part → Reader → Option (Part × Reader)
  | 0, _, _, _ => none
  | fuel + 1, first, items, r =>
    if r.isAt [.flowSequenceEnd] then some (.sequence tag? items, r.skip)
    else if !first && !r.isAt [.flowEntry] then none
    else
      let r := if first then r else r.skip
      if r.isAt [.flowSequenceEnd] then some (.sequence tag? items, r.skip)
      else
        let item? := if r.isAt [.key] then flowPair? c fuel r.skip else node? c fuel false false r
        match item? with
        | some (item, r) => flowItems? c tag? fuel false (item :: items) r
        | none => none

/-- Read a pair in a flow sequence after the mark of its key. -/
def flowPair? (c : Conventions) : Nat → Reader → Option (Part × Reader)
  | 0, _ => none
  | fuel + 1, r =>
    let key? := if r.isAt [.value, .flowEntry, .flowSequenceEnd] then some (.empty, r.skip)
      else node? c fuel false false r
    match key? with
    | none => none
    | some (key, r) =>
      let value? := if r.isAt [.value] then
          optionalNode? c fuel false false [.flowEntry, .flowSequenceEnd] r.skip
        else if r.tokens.isEmpty then none else some (.empty, r)
      value?.map fun (value, r) => (.mapping none [(key, value)], r)

/-- Read the entries of a flow mapping up to its end. -/
def flowEntries? (c : Conventions) (tag? : Option Tag) :
    Nat → (first : Bool) → List (Part × Part) → Reader → Option (Part × Reader)
  | 0, _, _, _ => none
  | fuel + 1, first, entries, r =>
    if r.isAt [.flowMappingEnd] then some (.mapping tag? entries, r.skip)
    else if !first && !r.isAt [.flowEntry] then none
    else
      let r := if first then r else r.skip
      if r.isAt [.flowMappingEnd] then some (.mapping tag? entries, r.skip)
      else
        let ends := [.value, .flowEntry, .flowMappingEnd]
        let key? := if r.isAt [.key] then optionalNode? c fuel false false ends r.skip
          else if c.allowsMissingKeys && r.isAt [.value] then some (.empty, r)
          else node? c fuel false false r
        let marked := r.isAt [.key, .value]
        match key? with
        | none => none
        | some (key, r) =>
          let value? := if marked && r.isAt [.value] then
              optionalNode? c fuel false false [.flowEntry, .flowMappingEnd] r.skip
            else if r.tokens.isEmpty then none else some (.empty, r)
          match value? with
          | some (value, r) => flowEntries? c tag? fuel false ((key, value) :: entries) r
          | none => none

end

/-- Whether a node can begin with the next tokens. -/
def beginsNode (c : Conventions) (r : Reader) : Bool :=
  match r.tokens with
  | .alias _ :: _ => false
  | _ =>
    match r.properties? c with
    | none => false
    | some (props, r) =>
      r.isAt [.blockSequenceStart, .blockMappingStart, .flowSequenceStart, .flowMappingStart]
        || (r.tokens.head?.any fun t => match t with | .scalar _ _ => true | _ => false)
        || (!r.tokens.isEmpty && (props.tag?.isSome || props.anchor?.isSome))

/-- A bound on the number of steps in which the tokens are read. -/
def fuel (r : Reader) : Nat := 2 * r.tokens.length + 4

end Reader

end AttributeSchema.Yaml
