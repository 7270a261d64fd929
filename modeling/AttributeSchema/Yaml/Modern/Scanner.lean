import AttributeSchema.Yaml.KeyPlace
import AttributeSchema.Yaml.Modern.Block
import AttributeSchema.Yaml.Modern.Plain
import AttributeSchema.Yaml.Modern.Quoted
import AttributeSchema.Yaml.Tag
import AttributeSchema.Yaml.Token

/-!
# Tokens of the modern dialect

The scanner reads one token after another. A token that may turn out to be a key is remembered, and a
colon later on puts the mark of a key in front of it. A block collection is opened where a line is
indented more than the one around it, and closed where a line is indented less. The space after a colon
opens a margin of one column, so that what belongs to the value is indented more than its key.

Main definition: `scan`, the tokens of a text before the first fault. They end with `Token.streamEnd` if
there is none.
-/

namespace AttributeSchema.Yaml.Modern

/-- An indentation that is in force. -/
structure Level where
  /-- The indentation that was in force before. -/
  outer : Int
  /-- It belongs to a block collection, which ends with it. -/
  isBlock : Bool

/-- The state of the scanner. -/
structure Scanner where
  place : Cursor
  tokens : Array Token := #[]
  /-- A key may start here. -/
  keyAllowed : Bool := true
  /-- The places of possible keys: one for each open flow collection, innermost first, and one for what
  is outside of them. -/
  keys : List KeyPlace := [{}]
  indent : Int := -1
  /-- Innermost first. -/
  levels : List Level := []
  /-- Where a colon may be followed directly by a value. -/
  adjacentAt : Nat := 0
  /-- The mapping that a key in a flow sequence belongs to has been opened. -/
  mappingStarted : Bool := false
  /-- For each open flow sequence, innermost first, whether a pair without braces is open in it. -/
  pairs : List Bool := []
  /-- The end of the text has been reached. -/
  ended : Bool := false

namespace Scanner

/-- The number of open flow collections. -/
def flowLevel (s : Scanner) : Nat := s.keys.length - 1

def inFlow (s : Scanner) : Bool := 1 < s.keys.length

def margin (s : Scanner) : Margin := ⟨s.indent, !s.levels.isEmpty, s.inFlow⟩

def push (s : Scanner) (t : Token) : Scanner := { s with tokens := s.tokens.push t }

/-- Put a token in front of those from a number on, which is at most the number of tokens. -/
def pushAt (s : Scanner) (n : Nat) (t : Token) : Scanner :=
  { s with tokens := s.tokens.insertIdxIfInBounds n t }

/-! ## Possible keys -/

def key (s : Scanner) : KeyPlace := s.keys.headD {}

def setKey (s : Scanner) (k : KeyPlace) : Scanner := { s with keys := k :: s.keys.tail }

/-- Remember that a key may start here. -/
def saveKey (s : Scanner) : Scanner :=
  if s.keyAllowed then
    let required := !s.inFlow && s.indent == s.place.column && s.levels.head?.any Level.isBlock
    s.setKey (.ofCursor s.place s.tokens.size required)
  else s

/-- Forget the possible key, unless it has to be one. -/
def dropKey? (s : Scanner) : Option Scanner := s.key.drop?.map s.setKey

/-- Forget the key that can no longer end here. In flow collections a key may end anywhere. -/
def dropStale? (s : Scanner) : Option Scanner :=
  if s.inFlow then some s else (s.key.dropStale? s.place).map s.setKey

/-- The tokens that are known to be no keys, with all before them. -/
def settled (s : Scanner) : List Token :=
  let pending := (s.keys.filter KeyPlace.possible).map KeyPlace.token
  s.tokens.toList.take (pending.foldl min s.tokens.size)

/-! ## Indentation -/

/-- Leave a margin at the innermost level. -/
def leaveMargin (s : Scanner) : Scanner :=
  match s.levels with
  | level :: levels => if level.isBlock then s else { s with indent := level.outer, levels }
  | [] => s

/-- Open a block collection at a column, unless one is open there. Its token goes in front of those
from a number on. -/
def openBlock (s : Scanner) (column : Nat) (n : Nat) (t : Token) : Scanner :=
  if s.inFlow then s
  else
    let s := if s.indent ≤ column then s.leaveMargin else s
    if s.indent < column then
      let s := { s with levels := ⟨s.indent, true⟩ :: s.levels, indent := column }
      s.pushAt n t
    else s

/-- Close the levels that are indented by more than some columns, innermost first. -/
def closeLevels (column : Int) : List Level → Scanner → Scanner
  | [], s => { s with levels := [] }
  | level :: levels, s =>
    if column < s.indent then
      let s := { s with indent := level.outer }
      closeLevels column levels (if level.isBlock then s.push .blockEnd else s)
    else { s with levels := level :: levels }

/-- Close what is indented by more than some columns. -/
def closeTo (s : Scanner) (column : Int) : Scanner :=
  if s.inFlow then s else closeLevels column s.levels s

/-- Open a margin of one column in a block collection. -/
def openMargin (s : Scanner) : Scanner :=
  if !s.inFlow && s.levels.head?.any Level.isBlock then
    { s with levels := ⟨s.indent, false⟩ :: s.levels, indent := s.indent + 1 }
  else s

/-! ## Space -/

/-- Skip all space before the next token. -/
def toToken? (s : Scanner) : Option Scanner :=
  (Modern.toToken? s.margin (s.place.rest.length + 1) s.place).map fun (place, passed) =>
    { s with place, keyAllowed := s.keyAllowed || passed }

/-- Skip the space before the end of the line or the next token. -/
def toLineEnd? (s : Scanner) : Option Scanner :=
  (skipToLineEnd? true s.place).map fun (place, _) => { s with place }

def skip (s : Scanner) (n : Nat) : Scanner := { s with place := s.place.skip n }

/-! ## Documents and directives -/

/-- Close everything that is open. -/
def reset? (s : Scanner) : Option Scanner :=
  ((s.closeTo (-1)).dropKey?).map fun s => { s with keyAllowed := false }

/-- The end of the text. -/
def streamEnd? (s : Scanner) : Option Scanner :=
  if s.keys.any fun k => k.possible && k.required then none
  else
    let s := { s with keys := s.keys.map KeyPlace.forget }
    let s := (s.closeTo (-1)).push .streamEnd
    some { s with ended := true }

/-- The mark of the start or the end of a document. -/
def documentMark? (s : Scanner) (t : Token) : Option Scanner :=
  s.reset?.map fun s => (s.push t).skip 3

/-- The end of a document, after which nothing may stand in the line. -/
def documentEnd? (s : Scanner) : Option Scanner := do
  let s ← s.documentMark? .documentEnd
  let s ← s.toLineEnd?
  if endsLine s.place.peek? then return s else none

/-- The character that octets stand for, put one after the other. -/
def charOfOctets? (octets : List Nat) : Option Char :=
  Text.charOf? (octets.foldl (fun n octet => 256 * n + octet) 0)

/-- The characters of the suffix of a tag. -/
def isTagChar (c : Char) : Bool := isUriChar c && !isFlowIndicator c && c != '!'

/-- Read what a directive gives a handle the meaning of. -/
def tagPrefix? (p : Cursor) : Option (List Char × Cursor) :=
  let uri (p : Cursor) := uri? isUriChar charOfOctets? (p.rest.length + 1) p
  if p.isAt '!' then (uri (p.skip 1)).map fun (cs, p) => ('!' :: cs, p)
  else if p.peek?.any isTagChar then uri p
  else none

/-- Read a directive after its percent sign and its name. -/
def directiveBody? (name : String) (p : Cursor) : Option (Token × Cursor) :=
  match name with
  | "YAML" => do
    let (major, minor, p) ← version? p
    return (.versionDirective major minor, p)
  | "TAG" => do
    let (handle, p) ← handle? p.skipBlankRun
    if !isClosedHandle handle && handle.length != 1 then none
    else
      let (tagPrefix, p) ← tagPrefix? p.skipBlankRun
      if endsWord p.peek? then
        return (.tagDirective (String.ofList handle) (String.ofList tagPrefix), p)
      else none
  | _ => some (.otherDirective, p.skipBlanks (p.rest.takeWhile (· != '\n')).length)

/-- Read a directive. -/
def directive? (s : Scanner) : Option Scanner := do
  let s ← s.reset?
  let (name, p) := (s.place.skip 1).takeWhile isWordChar
  if name.isEmpty || !endsWord p.peek? then none
  else
    let (t, p) ← directiveBody? (String.ofList name) p
    let (p, _) ← skipToLineEnd? true p
    if endsLine p.peek? then
      return { (s.push t) with place := if p.rest.isEmpty then p else p.skipBreak }
    else none

/-! ## Flow collections -/

/-- The greatest number of flow collections that may be open at once. -/
def maxFlowLevel : Nat := 255

/-- Open a flow collection. -/
def flowStart? (s : Scanner) (t : Token) : Option Scanner := do
  let s := s.saveKey.openMargin
  if s.flowLevel = maxFlowLevel then none
  else
    let s := { s with keys := {} :: s.keys, keyAllowed := true }
    let s := if t == .flowMappingStart then { s with mappingStarted := true }
      else { s with pairs := false :: s.pairs }
    let s ← (s.skip 1).toLineEnd?
    return s.push t

/-- Close the pair without braces in the innermost flow sequence. -/
def closePair (s : Scanner) : Scanner :=
  match s.pairs with
  | true :: pairs => { s with mappingStarted := false, pairs := false :: pairs }.push .flowMappingEnd
  | _ => s

/-- Close a flow collection. -/
def flowEnd? (s : Scanner) (t : Token) : Option Scanner := do
  let s ← s.dropKey?
  let s := if s.inFlow then { s with keys := s.keys.tail } else s
  let s := { s with keyAllowed := false }
  let s := if t == .flowSequenceEnd then
      let s := s.closePair
      { s with pairs := s.pairs.tail }
    else s
  let s ← (s.skip 1).toLineEnd?
  let s := if s.inFlow then { s with adjacentAt := s.place.index } else s
  return s.push t

/-- The comma between two items. -/
def flowEntry? (s : Scanner) : Option Scanner := do
  let s ← s.dropKey?
  let s := { s with keyAllowed := true }.closePair
  let s ← (s.skip 1).toLineEnd?
  return s.push .flowEntry

/-! ## Entries, keys and values -/

/-- The dash before an item of a block sequence. Space with tabs may not stand between two dashes, and
an anchor or a tag at the start of a line may not belong to a sequence at the start of the next. -/
def blockEntry? (queued : Bool) (s : Scanner) : Option Scanner := do
  if s.inFlow || !s.keyAllowed then none
  else if queued && s.place.column = 0 && -1 < s.indent
      && (s.tokens.back?.bind Token.propertyColumn?) == some 0 then none
  else
    let column := s.place.column
    let s := (s.skip 1).openBlock column s.tokens.size .blockSequenceStart
    let (p, gap) ← skipToLineEnd? true s.place
    if gap.hasTab && p.isAt '-' && endsWord (p.peekAt? 1) then none
    else
      let (p, _) ← skipToLineEnd? false p
      let s := { s with place := p }
      let s := if p.peek?.any fun c => c == '\n' || isFlowIndicator c then s.openMargin else s
      let s ← s.dropKey?
      return { (s.push .blockEntry) with keyAllowed := true }

/-- The question mark before a key. -/
def keyMark? (s : Scanner) : Option Scanner := do
  if !s.inFlow && !s.keyAllowed then none
  else
    let s := if s.inFlow then { s with mappingStarted := true }
      else s.openBlock s.place.column s.tokens.size .blockMappingStart
    let s ← s.dropKey?
    let s := { s with keyAllowed := !s.inFlow }.skip 1
    let (p, passed) ← afterKeyMark? s.inFlow (s.place.rest.length + 1) false s.place
    if p.isAt '\t' then none
    else return { (s.push .key) with place := p, keyAllowed := s.keyAllowed || passed }

/-- Put the mark of a key in front of it, and before that the start of a pair without braces. -/
def markKey (s : Scanner) (k : KeyPlace) (isPair : Bool) : Scanner :=
  let s := s.pushAt k.token .key
  if isPair then s.pushAt k.token .flowMappingStart else s

/-- The colon before a value. If a key is possible, its marks are put in front of it. -/
def value? (s : Scanner) : Option Scanner := do
  let k := s.key
  let start := s.place
  let isPair := !s.pairs.isEmpty && !s.mappingStarted
  let s := if isPair then { s with pairs := true :: s.pairs.tail } else s
  let s := s.skip 1
  let place ←
    if s.place.isAt '\t' then
      match skipToLineEnd? true s.place with
      | some (p, gap) =>
        if !gap.hasSpace && (p.peek?.any isWordChar) then none else some p
      | none => none
    else some s.place
  let s := { s with place }
  if k.possible then
    if isPair && k.line < start.line then none
    else
      let s := s.markKey k isPair
      let s := (s.openBlock k.column k.token .blockMappingStart).openMargin
      let s := s.setKey k.forget
      return { s with keyAllowed := false }.push .value
  else
    let s := if isPair then s.push .flowMappingStart else s
    if s.inFlow then return { s with keyAllowed := false }.push .value
    else if !s.keyAllowed then none
    else
      let s := (s.openBlock start.column s.tokens.size .blockMappingStart).openMargin
      return { s with keyAllowed := true }.push .value

/-- A colon in a flow collection before something else than space. It may stand before an opening
bracket only after a quoted key or a collection. -/
def flowValue? (s : Scanner) : Option Scanner :=
  if s.place.index != s.adjacentAt && (s.place.peekAt? 1).any fun c => c == '[' || c == '\x7b' then none
  else s.value?

/-! ## Anchors, tags and scalars -/

/-- The characters of the name of an anchor. -/
def isAnchorChar (c : Char) : Bool :=
  !isBlank c && c != '\n' && c != '\ufeff' && !isFlowIndicator c

/-- An anchor or an alias, which differ in their first character. -/
def anchor? (s : Scanner) (token : String → Token) : Option Scanner :=
  let s := { s.saveKey with keyAllowed := false }
  let (name, place) := (s.place.skip 1).takeWhile isAnchorChar
  if name.isEmpty then none else some { (s.push (token (String.ofList name))) with place }

/-- A tag. -/
def tag? (s : Scanner) : Option Scanner := do
  let s := { s.saveKey with keyAllowed := false }
  let start := s.place
  let (handle, suffix, p) ←
    if start.peekAt? 1 == some '<' then
      match uri? isUriChar charOfOctets? (start.rest.length + 1) (start.skip 2) with
      | some (suffix, p) => if p.isAt '>' then some ([], suffix, p.skip 1) else none
      | none => none
    else shorthand? (uri? isTagChar charOfOctets?) start
  if endsWord p.peek? || (s.inFlow && p.peek?.any isFlowIndicator) then
    let t := Token.tag (String.ofList handle) (String.ofList suffix) start.column
    return { (s.push t) with place := p }
  else none

/-- A plain scalar. -/
def plain? (s : Scanner) : Option Scanner :=
  let s := { s.saveKey with keyAllowed := false }.leaveMargin
  (Modern.plain? s.inFlow (s.indent + 1) s.place).map fun (text, place) =>
    { (s.push (.scalar .plain text)) with place, keyAllowed := place.leading }

/-- A quoted scalar. -/
def quoted? (s : Scanner) (style : Style) (quote : Char) : Option Scanner := do
  let s := { s.saveKey with keyAllowed := false }
  let (text, place) ← Modern.quoted? s.margin quote s.place
  let s ← { s with place }.toToken?
  return { (s.push (.scalar style text)) with adjacentAt := s.place.index }

/-- A block scalar. -/
def block? (s : Scanner) (folds : Bool) : Option Scanner :=
  let s := { s.saveKey with keyAllowed := true }.leaveMargin
  (Modern.block? folds s.indent s.place).map fun (text, place) =>
    { (s.push (.scalar .block text)) with place }

/-! ## The next token -/

/-- Read the token that starts with a character, where another one is next. -/
def token? (s : Scanner) (queued : Bool) (c : Char) (next : Option Char) : Option Scanner :=
  let column := s.place.column
  match c with
  | '[' => s.flowStart? .flowSequenceStart
  | '\x7b' => s.flowStart? .flowMappingStart
  | ']' => s.flowEnd? .flowSequenceEnd
  | '\x7d' => s.flowEnd? .flowMappingEnd
  | ',' => s.flowEntry?
  | '-' => if endsWord next then s.blockEntry? queued else s.plain?
  | '?' => if endsWord next then s.keyMark? else s.plain?
  | ':' =>
    if endsWord next then s.value?
    else if s.inFlow && (next.any isFlowIndicator || s.place.index == s.adjacentAt) then s.flowValue?
    else s.plain?
  | '*' => s.anchor? .alias
  | '&' => s.anchor? (.anchor · column)
  | '!' => s.tag?
  | '|' => if s.inFlow then s.plain? else s.block? false
  | '>' => if s.inFlow then s.plain? else s.block? true
  | '\'' => s.quoted? .singleQuoted '\''
  | '"' => s.quoted? .doubleQuoted '"'
  | '%' | '@' | '`' => none
  | _ => s.plain?

/-- Whether a character of a flow collection may stand to the left of the block around it. -/
def mayStandLeft (c : Char) : Bool := c == ']' || c == '\x7d' || c == ','

/-- Read one more token, and the ends of the collections before it. -/
def step? (s : Scanner) : Option Scanner := do
  let queued := s.keys.any KeyPlace.possible
  let s ← s.toToken?
  let s ← s.dropStale?
  let p := s.place
  let s := s.closeTo p.column
  match p.peek? with
  | none => s.streamEnd?
  | some c =>
    if p.column = 0 && c == '%' then s.directive?
    else if p.column = 0 && isMarker p.rest then
      if c == '-' then s.documentMark? .documentStart else s.documentEnd?
    else if p.column < s.indent && !(s.inFlow && mayStandLeft c) then none
    else s.token? queued c (p.peekAt? 1)

/-- Read all tokens, of which there are at most as many as the given number. -/
def run : Nat → Scanner → List Token
  | 0, s => s.settled
  | fuel + 1, s =>
    match s.dropStale? with
    | none => s.settled
    | some s =>
      match s.step? with
      | none => s.settled
      | some s => if s.ended then s.tokens.toList else run fuel s

end Scanner

/-- The tokens of a text. -/
def scan (text : List Char) : List Token :=
  let cs := normalize text
  Scanner.run (cs.length + 1) { place := { rest := cs } }

end AttributeSchema.Yaml.Modern
