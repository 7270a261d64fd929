import AttributeSchema.Yaml.Classic.Scanner
import AttributeSchema.Yaml.Tree

/-!
# Documents of the classic dialect

A text holds at most one document, and nothing but end marks follows it. Directives may stand before its
mark: its version, and the meaning of handles, each at most once. Main definition: `Node.ofClassic?`.
-/

namespace AttributeSchema.Yaml.Classic

/-! ## Directives -/

/-- What handles stand for unless a directive says otherwise. -/
def defaultHandles : List (String × String) := [("!", "!"), ("!!", corePrefix)]

/-- The meaning of a tag that is written out. -/
def meaning (text : String) : Tag :=
  let cs := text.toList
  let start := corePrefix.toList
  if cs.head? == some '!' then .own
  else if start.isPrefixOf cs then Tag.ofCoreSuffix (String.ofList (cs.drop start.length))
  else .foreign

/-- The meaning of a tag. Every handle needs a meaning, by default or by a directive. -/
def tag? (directives : List (String × String)) (handle suffix : String) : Option Tag :=
  if handle == "" then some (meaning suffix)
  else ((directives ++ defaultHandles).lookup handle).map fun start => meaning (start ++ suffix)

/-- The conventions of the classic dialect. -/
def conventions : Conventions where
  tag?
  anchoredEmptyIsPlain := false
  allowsMissingKeys := false

/-- Whether a version can be read. -/
def isKnownVersion (major minor : Nat) : Bool := major == 1 && (minor == 1 || minor == 2)

/-- Read the directives before a document. -/
def directives? (versioned : Bool) (table : List (String × String)) :
    List Token → Option (List (String × String) × List Token)
  | .versionDirective major minor :: ts =>
    if versioned || !isKnownVersion major minor then none else directives? true table ts
  | .tagDirective handle start :: ts =>
    if (table.lookup handle).isSome then none else directives? versioned ((handle, start) :: table) ts
  | ts => some (table, ts)

/-! ## The document -/

/-- Whether no node of a document stands before a token. -/
def endsDocument : Token → Bool
  | .versionDirective _ _ | .tagDirective _ _ | .documentStart | .documentEnd | .streamEnd => true
  | _ => false

/-- Whether a token starts a document explicitly. -/
def startsDocument (t : Token) : Bool := endsDocument t && t != .documentEnd && t != .streamEnd

/-- Read the document at the start of some tokens. -/
def document? (ts : List Token) : Option (Part × Reader) :=
  if ts.head?.any startsDocument then
    match directives? false [] ts with
    | some (directives, .documentStart :: ts) =>
      let r : Reader := { tokens := ts, directives }
      if ts.head?.any endsDocument then some (.empty, r) else r.node? conventions r.fuel true false
    | _ => none
  else
    let r : Reader := { tokens := ts }
    r.node? conventions r.fuel true false

/-- The greatest number of collections that may be inside of one another. -/
def maxHeight : Nat := 128

/-- Read the only document of some tokens. -/
def onlyDocument? (ts : List Token) : Option Node :=
  (document? ts).bind fun (part, r) =>
    if r.tokens.dropWhile (· == .documentEnd) == [.streamEnd] && part.height ≤ maxHeight then
      some part.node
    else none

end Classic

/-- Read a text in the classic dialect, which may start with a byte order mark. An empty text is read as
a node where nothing is written. -/
def Node.ofClassic? (text : String) : Option Node :=
  let cs := text.toList
  (Classic.scan? (if cs.head? == some '\ufeff' then cs.tail else cs)).bind fun ts =>
    if ts == [.streamEnd] then some .empty else Classic.onlyDocument? ts

end AttributeSchema.Yaml
