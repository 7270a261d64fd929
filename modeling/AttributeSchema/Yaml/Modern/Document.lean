import AttributeSchema.Yaml.Modern.Scanner
import AttributeSchema.Yaml.Modern.Value
import AttributeSchema.Yaml.Tree

/-!
# Documents of the modern dialect

A text holds one document. Directives may stand before its mark; of these only the last gives a handle a
meaning. What follows the document does not matter unless it is another document, and a fault in what
follows its end mark does not either. Main definition: `Node.ofModern?`.
-/

namespace AttributeSchema.Yaml.Modern

/-! ## Directives -/

/-- The meaning of a tag. Two exclamation marks stand for the core types unless a directive says
otherwise, and only a handle without a second mark may do without a directive. A tag in angle brackets
is none of the core types. -/
def tag? (directives : List (String × String)) (handle suffix : String) : Option Tag :=
  if handle == "" then some (if suffix == "!" then .own else .foreign)
  else
    match directives.lookup handle with
    | some tagPrefix => some (if tagPrefix == corePrefix then Tag.ofCoreSuffix suffix else .foreign)
    | none =>
      if handle == "!!" then some (Tag.ofCoreSuffix suffix)
      else if isClosedHandle handle.toList then none
      else some .foreign

/-- The conventions of the modern dialect. -/
def conventions : Conventions where
  tag?
  anchoredEmptyIsPlain := true
  allowsMissingKeys := true

/-- Read the directives before a document. A version may be given once. -/
def directives? (versioned : Bool) (table : List (String × String)) :
    List Token → Option (List (String × String) × List Token)
  | .versionDirective _ _ :: ts => if versioned then none else directives? true [] ts
  | .tagDirective handle tagPrefix :: ts => directives? versioned [(handle, tagPrefix)] ts
  | .otherDirective :: ts => directives? versioned [] ts
  | ts => some (table, ts)

/-- Whether a token starts a document explicitly. -/
def startsDocument : Token → Bool
  | .versionDirective _ _ | .tagDirective _ _ | .otherDirective | .documentStart => true
  | _ => false

/-- Whether no node of a document stands before a token. -/
def endsDocument (t : Token) : Bool :=
  startsDocument t || t == .documentEnd || t == .streamEnd

/-- Skip the end marks of documents. -/
def skipEnds (ts : List Token) : List Token := ts.dropWhile (· == .documentEnd)

/-- Read the directives and the mark of a document that starts explicitly. -/
def explicitStart? (ts : List Token) : Option Reader :=
  match directives? false [] ts with
  | some (directives, .documentStart :: ts) => some { tokens := ts, directives }
  | _ => none

/-! ## The document -/

/-- Read the node of a document. -/
def root? (r : Reader) : Option (Part × Reader) :=
  match r.tokens with
  | [] => none
  | t :: _ => if endsDocument t then some (.empty, r) else r.node? conventions r.fuel true false

/-- Read the first document of a text. -/
def document? (ts : List Token) : Option (Part × Reader) :=
  match skipEnds ts with
  | [] => none
  | t :: ts =>
    if startsDocument t then (explicitStart? (t :: ts)).bind root?
    else if t == .streamEnd then some (.empty, { tokens := [t] })
    else
      let r : Reader := { tokens := t :: ts }
      r.node? conventions r.fuel true false

/-- Whether another document follows some tokens. A document without a mark can only follow an end
mark. -/
def isFollowed (afterEnd : Bool) (ts : List Token) : Bool :=
  match skipEnds ts with
  | [] => false
  | t :: ts =>
    if startsDocument t then
      match explicitStart? (t :: ts) with
      | some r => r.tokens.head?.any endsDocument || r.beginsNode conventions
      | none => false
    else afterEnd && Reader.beginsNode conventions { tokens := t :: ts }

/-- Whether a document may end before some tokens, no document following it. -/
def isClosed : List Token → Bool
  | [] => false
  | .versionDirective _ _ :: _ | .tagDirective _ _ :: _ => false
  | .documentEnd :: ts => !isFollowed true ts
  | ts => !isFollowed false ts

/-! ## Limits -/

/-- What a document may hold, counting what aliases repeat. -/
def maxNodes : Nat := 250000
def maxBytes : Nat := 67108864
def maxHeight : Nat := 2000

/-- The number of aliases that are never too many, and how many there may be for each anchor. -/
def fewAliases : Nat := 100
def aliasesPerAnchor : Nat := 10

/-- Whether a document is small enough. -/
def isWithinLimits (part : Part) (r : Reader) : Bool :=
  part.nodes ≤ maxNodes && part.bytes ≤ maxBytes && part.height ≤ maxHeight
    && (r.aliasCount < fewAliases || r.aliasCount ≤ aliasesPerAnchor * r.anchorCount)

/-- Read the only document of some tokens. -/
def onlyDocument? (ts : List Token) : Option Node :=
  (document? ts).bind fun (part, r) =>
    if isClosed r.tokens && isWithinLimits part r then some part.node else none

end Modern

/-- Read a text in the modern dialect, which may start with a byte order mark. -/
def Node.ofModern? (text : String) : Option Node :=
  let cs := text.toList
  Modern.onlyDocument? (Modern.scan (if cs.head? == some '\ufeff' then cs.tail else cs))

end AttributeSchema.Yaml
