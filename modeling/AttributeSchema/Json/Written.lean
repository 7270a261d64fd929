import AttributeSchema.Json.Basic
import AttributeSchema.Json.Token

/-!
# Written JSON

A JSON text is a tree of words and strings. The tree keeps each of them as it is written, so that a
part which nobody reads may hold a number without bounds or half of a surrogate pair. Main definition:
`Written.read?`, which reads a text lexeme by lexeme against a stack of the containers that are still
open.
-/

namespace AttributeSchema.Json

/-- A JSON value as it is written. Keys may be repeated. -/
inductive Written where
  /-- One of the three names, or a number. -/
  | word (cs : List Char)
  /-- The characters between the quotes. -/
  | string (cs : List Char)
  | array (items : List Written)
  | object (members : List (List Char × Written))
  deriving Inhabited

namespace Written

/-! ## Words and strings -/

/-- Whether an exponent, if there is one, has a digit. -/
def isExponent : List Char → Bool
  | [] => true
  | c :: cs =>
    let digits := match cs with
      | '+' :: ds => ds
      | '-' :: ds => ds
      | ds => ds
    (c == 'e' || c == 'E') && !digits.isEmpty && digits.all Char.isDigit

/-- Whether a number without sign has the right form: no needless zero in front, and a digit on each
side of its point. -/
def isMagnitude (cs : List Char) : Bool :=
  let whole := cs.takeWhile Char.isDigit
  !whole.isEmpty && (whole.head? != some '0' || whole.length == 1) &&
    match cs.dropWhile Char.isDigit with
    | '.' :: rest =>
      (rest.head?.any Char.isDigit) && isExponent (rest.dropWhile Char.isDigit)
    | rest => isExponent rest

/-- Whether a word is one of the three names, or has the form of a number. -/
def isWord : List Char → Bool
  | '-' :: cs => isMagnitude cs
  | cs => ["null".toList, "true".toList, "false".toList].contains cs || isMagnitude cs

/-- The text that a string stands for. -/
def text? (cs : List Char) : Option String := (Token.unescape? cs).map String.ofList

/-! ## Containers -/

/-- A container that is still open, with its finished parts, latest first. -/
inductive Frame where
  | array (items : List Written)
  | object (members : List (List Char × Written)) (key : List Char)

/-- What comes next. A container can be closed at once only if it is `fresh`. -/
inductive Expect where
  | item (fresh : Bool)
  | key (members : List (List Char × Written)) (fresh : Bool)
  | colon (members : List (List Char × Written)) (key : List Char)
  | after (w : Written)

/-- The state of a reader: the open containers, innermost first, and what comes next. -/
structure Reader where
  frames : List Frame
  expect : Expect

/-- The greatest number of containers that may be open at once in a value that is read as a whole. -/
def maxDepth : Nat := 127

/-- Start a value with the given lexeme. -/
def Reader.begin? (limit? : Option Nat) (frames : List Frame) : Token → Option Reader
  | .openArray =>
    if limit?.all (frames.length < ·) then some ⟨.array [] :: frames, .item true⟩ else none
  | .openObject =>
    if limit?.all (frames.length < ·) then some ⟨frames, .key [] true⟩ else none
  | .string cs => some ⟨frames, .after (.string cs)⟩
  | .word cs => if isWord cs then some ⟨frames, .after (.word cs)⟩ else none
  | _ => none

/-- Read one more lexeme. -/
def Reader.step? (limit? : Option Nat) : Reader → Token → Option Reader
  | ⟨.array items :: frames, .item fresh⟩, .closeArray =>
    if fresh then some ⟨frames, .after (.array items.reverse)⟩ else none
  | ⟨frames, .item _⟩, token => Reader.begin? limit? frames token
  | ⟨frames, .key members fresh⟩, .closeObject =>
    if fresh then some ⟨frames, .after (.object members.reverse)⟩ else none
  | ⟨frames, .key members _⟩, .string key => some ⟨frames, .colon members key⟩
  | ⟨frames, .colon members key⟩, .colon => some ⟨.object members key :: frames, .item false⟩
  | ⟨.array items :: frames, .after w⟩, .comma => some ⟨.array (w :: items) :: frames, .item false⟩
  | ⟨.array items :: frames, .after w⟩, .closeArray =>
    some ⟨frames, .after (.array (w :: items).reverse)⟩
  | ⟨.object members key :: frames, .after w⟩, .comma =>
    some ⟨frames, .key ((key, w) :: members) false⟩
  | ⟨.object members key :: frames, .after w⟩, .closeObject =>
    some ⟨frames, .after (.object ((key, w) :: members).reverse)⟩
  | _, _ => none

/-- The value of a reader at the end of the text. -/
def Reader.value? : Reader → Option Written
  | ⟨[], .after w⟩ => some w
  | _ => none

/-- Read a text in which at most the given number of containers, if one is given, are open at once. -/
def read? (limit? : Option Nat) (text : String) : Option Written :=
  match Token.scan? text.toList with
  | some tokens => (tokens.foldlM (Reader.step? limit?) ⟨[], .item false⟩).bind Reader.value?
  | none => none

end Written

end AttributeSchema.Json
