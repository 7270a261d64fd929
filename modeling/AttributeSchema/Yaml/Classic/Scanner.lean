import AttributeSchema.Yaml.Classic.Block
import AttributeSchema.Yaml.Classic.Plain
import AttributeSchema.Yaml.Classic.Quoted
import AttributeSchema.Yaml.KeyPlace
import AttributeSchema.Yaml.Tag
import AttributeSchema.Yaml.Token

/-!
# Tokens of the classic dialect

The scanner reads one token after another. A token that may turn out to be a key is remembered, and a
colon later on puts the mark of a key in front of it. A block collection is opened where a line is
indented more than the one around it, and closed where a line is indented less. In flow collections
indentation does not matter. Main definition: `scan?`.
-/

namespace AttributeSchema.Yaml.Classic

/-- The state of the scanner. -/
structure Scanner where
  place : Cursor
  tokens : Array Token := #[]
  /-- A key may start here. -/
  keyAllowed : Bool := true
  /-- The places of possible keys: one for each open flow collection, innermost first, and one for what
  is outside of them. -/
  keys : List KeyPlace := [{}]
  /-- The indentation in force. -/
  indent : Int := -1
  /-- The indentations that were in force before, innermost first. -/
  outer : List Int := []

namespace Scanner

def inFlow (s : Scanner) : Bool := 1 < s.keys.length

def push (s : Scanner) (t : Token) : Scanner := { s with tokens := s.tokens.push t }

/-- Put a token in front of those from a number on, which is at most the number of tokens. -/
def pushAt (s : Scanner) (n : Nat) (t : Token) : Scanner :=
  { s with tokens := s.tokens.insertIdxIfInBounds n t }

def skip (s : Scanner) (n : Nat) : Scanner := { s with place := s.place.skip n }

/-! ## Possible keys -/

def key (s : Scanner) : KeyPlace := s.keys.headD {}

def setKey (s : Scanner) (k : KeyPlace) : Scanner := { s with keys := k :: s.keys.tail }

/-- Forget the possible key, unless it has to be one. -/
def dropKey? (s : Scanner) : Option Scanner := s.key.drop?.map s.setKey

/-- Remember that a key may start here. -/
def saveKey? (s : Scanner) : Option Scanner :=
  if s.keyAllowed then
    let required := !s.inFlow && s.indent == s.place.column
    s.dropKey?.map fun s => s.setKey (.ofCursor s.place s.tokens.size required)
  else some s

/-- Remember that a key may start here, but none may start right behind it. -/
def leaf? (s : Scanner) : Option Scanner := s.saveKey?.map fun s => { s with keyAllowed := false }

/-- Forget the keys that can no longer end here. -/
def dropStale? (s : Scanner) : Option Scanner :=
  (s.keys.mapM (KeyPlace.dropStale? s.place)).map fun keys => { s with keys }

/-! ## Indentation -/

/-- Open a block collection at a column, unless one is open there. Its token goes in front of those
from a number on. -/
def openBlock (s : Scanner) (column : Nat) (n : Nat) (t : Token) : Scanner :=
  if !s.inFlow && s.indent < column then
    { s with outer := s.indent :: s.outer, indent := column }.pushAt n t
  else s

/-- Close the block collections that are indented by more than some columns, innermost first. -/
def closeBlocks (column : Int) : List Int → Scanner → Scanner
  | [], s => { s with outer := [] }
  | indent :: outer, s =>
    if column < s.indent then closeBlocks column outer ({ s with indent }.push .blockEnd)
    else { s with outer := indent :: outer }

/-- Close what is indented by more than some columns. -/
def closeTo (s : Scanner) (column : Int) : Scanner :=
  if s.inFlow then s else closeBlocks column s.outer s

/-! ## Documents and directives -/

/-- Close everything that is open. -/
def reset? (s : Scanner) : Option Scanner :=
  ((s.closeTo (-1)).dropKey?).map fun s => { s with keyAllowed := false }

/-- The mark of the start or the end of a document. -/
def documentMark? (s : Scanner) (t : Token) : Option Scanner :=
  s.reset?.map fun s => (s.push t).skip 3

/-- The characters of a tag. Some of them may stand in angle brackets only. -/
def isTagChar (bracketed : Bool) (c : Char) : Bool :=
  isUriChar c && c != '#' && (bracketed || !isFlowIndicator c)

/-- Read the characters of a tag. -/
def tagChars? (bracketed : Bool) (fuel : Nat) (p : Cursor) : Option (List Char × Cursor) :=
  uri? (isTagChar bracketed) charOfOctets? fuel p

/-- Read the characters of a tag, of which there is at least one. -/
def someTagChars? (p : Cursor) : Option (List Char × Cursor) :=
  (tagChars? true (p.rest.length + 1) p).filter fun (cs, _) => !cs.isEmpty

/-- Read a directive after its percent sign and its name. -/
def directiveBody? (name : String) (p : Cursor) : Option (Token × Cursor) :=
  match name with
  | "YAML" => do
    let (major, minor, p) ← version? p
    return (.versionDirective major minor, p)
  | "TAG" => do
    let (handle, p) ← handle? p.skipBlankRun
    if (!isClosedHandle handle && handle.length != 1) || !p.peek?.any isBlank then none
    else
      let (tagPrefix, p) ← someTagChars? p.skipBlankRun
      if endsWord p.peek? then
        return (.tagDirective (String.ofList handle) (String.ofList tagPrefix), p)
      else none
  | _ => none

/-- Read a directive. -/
def directive? (s : Scanner) : Option Scanner := do
  let s ← s.reset?
  let (name, p) := (s.place.skip 1).takeWhile isWordChar
  if name.isEmpty || !endsWord p.peek? then none
  else
    let (t, p) ← directiveBody? (String.ofList name) p
    let place ← lineEnd? p
    return { (s.push t) with place }

/-! ## Flow collections -/

/-- Open a flow collection. -/
def flowStart? (s : Scanner) (t : Token) : Option Scanner :=
  s.saveKey?.map fun s => { s with keys := {} :: s.keys, keyAllowed := true }.skip 1 |>.push t

/-- Close a flow collection. -/
def flowEnd? (s : Scanner) (t : Token) : Option Scanner :=
  s.dropKey?.map fun s =>
    { s with keys := if s.inFlow then s.keys.tail else s.keys, keyAllowed := false }.skip 1 |>.push t

/-- The comma between two items. -/
def flowEntry? (s : Scanner) : Option Scanner :=
  s.dropKey?.map fun s => { s with keyAllowed := true }.skip 1 |>.push .flowEntry

/-! ## Entries, keys and values -/

/-- Open a block collection for a mark that starts an entry, where one may start. -/
def openFor? (s : Scanner) (t : Token) : Option Scanner :=
  if s.inFlow then some s
  else if s.keyAllowed then some (s.openBlock s.place.column s.tokens.size t)
  else none

/-- The dash before an item of a block sequence. -/
def blockEntry? (s : Scanner) : Option Scanner := do
  let s ← s.openFor? .blockSequenceStart
  let s ← s.dropKey?
  return { s with keyAllowed := true }.skip 1 |>.push .blockEntry

/-- The question mark before a key. -/
def keyMark? (s : Scanner) : Option Scanner := do
  let s ← s.openFor? .blockMappingStart
  let s ← s.dropKey?
  return { s with keyAllowed := !s.inFlow }.skip 1 |>.push .key

/-- The colon before a value. If a key is possible, its marks are put in front of it. -/
def value? (s : Scanner) : Option Scanner :=
  let k := s.key
  if k.possible then
    let s := (s.pushAt k.token .key).openBlock k.column k.token .blockMappingStart
    some ({ s.setKey k.forget with keyAllowed := false }.skip 1 |>.push .value)
  else
    (s.openFor? .blockMappingStart).map fun s =>
      { s with keyAllowed := !s.inFlow }.skip 1 |>.push .value

/-! ## Anchors, tags and scalars -/

/-- Whether the name of an anchor ends before a character. -/
def endsAnchor (next : Option Char) : Bool :=
  endsWord next || next.any fun c => "?:,]\x7d%@`".toList.contains c

/-- An anchor or an alias, which differ in their first character. -/
def anchor? (s : Scanner) (token : String → Token) : Option Scanner := do
  let s ← s.leaf?
  let (name, place) := (s.place.skip 1).takeWhile isWordChar
  if name.isEmpty || !endsAnchor place.peek? then none
  else return { (s.push (token (String.ofList name))) with place }

/-- A tag. -/
def tag? (s : Scanner) : Option Scanner := do
  let s ← s.leaf?
  let start := s.place
  let (handle, suffix, p) ←
    if start.peekAt? 1 == some '<' then
      match someTagChars? (start.skip 2) with
      | some (suffix, p) => if p.isAt '>' then some ([], suffix, p.skip 1) else none
      | none => none
    else shorthand? (tagChars? false) start
  if endsWord p.peek? || (s.inFlow && p.isAt ',') then
    let t := Token.tag (String.ofList handle) (String.ofList suffix) start.column
    return { (s.push t) with place := p }
  else none

/-- A plain scalar. -/
def plain? (s : Scanner) : Option Scanner := do
  let s ← s.leaf?
  let (text, place, broken) ← Classic.plain? s.inFlow (s.indent + 1) s.place
  return { (s.push (.scalar .plain text)) with place, keyAllowed := broken }

/-- A quoted scalar. -/
def quoted? (s : Scanner) (style : Style) (quote : Char) : Option Scanner := do
  let s ← s.leaf?
  let (text, place) ← Classic.quoted? quote s.place
  return { (s.push (.scalar style text)) with place }

/-- A block scalar. -/
def block? (s : Scanner) (folds : Bool) : Option Scanner := do
  let s ← s.dropKey?
  let (text, place) ← Classic.block? folds s.indent s.place
  return { (s.push (.scalar .block text)) with place, keyAllowed := true }

/-! ## The next token -/

/-- Whether a plain scalar may start with a character before another one. -/
def startsPlain (inFlow : Bool) (c : Char) (next : Option Char) : Bool :=
  if c == '-' then !next.any isBlank
  else if c == '?' || c == ':' then !inFlow && !endsWord next
  else !(endsWord (some c) || isFlowIndicator c || "#&*!|>'\"%@`".toList.contains c)

/-- Read the token that starts with a character, where another one is next. -/
def token? (s : Scanner) (c : Char) (next : Option Char) : Option Scanner :=
  let isMark := s.inFlow || endsWord next
  let column := s.place.column
  match c with
  | '[' => s.flowStart? .flowSequenceStart
  | '\x7b' => s.flowStart? .flowMappingStart
  | ']' => s.flowEnd? .flowSequenceEnd
  | '\x7d' => s.flowEnd? .flowMappingEnd
  | ',' => s.flowEntry?
  | '*' => s.anchor? .alias
  | '&' => s.anchor? (.anchor · column)
  | '!' => s.tag?
  | '\'' => s.quoted? .singleQuoted '\''
  | '"' => s.quoted? .doubleQuoted '"'
  | _ =>
    if c == '-' && endsWord next then s.blockEntry?
    else if c == '?' && isMark then s.keyMark?
    else if c == ':' && isMark then s.value?
    else if (c == '|' || c == '>') && !s.inFlow then s.block? (c == '>')
    else if startsPlain s.inFlow c next then s.plain?
    else none

/-- Skip all space before the next token, and end the collections before it. -/
def toToken? (s : Scanner) : Option Scanner :=
  let (place, broken) :=
    toToken s.inFlow (s.place.rest.length + 1) (s.inFlow || !s.keyAllowed) s.place
  let s := { s with place, keyAllowed := s.keyAllowed || (broken && !s.inFlow) }
  s.dropStale?.map fun s => s.closeTo place.column

/-- Read all tokens, of which there are at most as many as the given number. -/
def run? : Nat → Scanner → Option (List Token)
  | 0, _ => none
  | fuel + 1, s =>
    match s.toToken? with
    | none => none
    | some s =>
      let p := s.place
      match p.peek? with
      | none => s.reset?.map fun s => (s.push .streamEnd).tokens.toList
      | some c =>
        let read := if p.column = 0 && c == '%' then s.directive?
          else if p.column = 0 && isMarker p.rest then
            s.documentMark? (if c == '-' then .documentStart else .documentEnd)
          else s.token? c (p.peekAt? 1)
        match read with
        | some s => run? fuel s
        | none => none

end Scanner

/-- The tokens of a text. -/
def scan? (text : List Char) : Option (List Token) :=
  (normalize? text).bind fun cs => Scanner.run? (cs.length + 2) { place := { rest := cs } }

end AttributeSchema.Yaml.Classic
