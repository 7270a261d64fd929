import AttributeSchema.Binary64.Decimal
import AttributeSchema.Command.Setting
import AttributeSchema.Text.Blank
import AttributeSchema.Text.Pieces

/-!
# Variables of the environment

The text of a variable is a list in brackets, a text in quotes, a truth value, a number or, failing all
that, a plain text. Main definition: `Variable.ofEnvironment`.
-/

namespace AttributeSchema.Command

namespace Variable

/-- The characters that are dropped around a value. -/
def isSpace (c : Char) : Bool :=
  c == ' ' || c == '\t' || c == '\n' || c == '\r' || c == '\x0c'

/-- The characters that end a plain value. -/
def isSeparator (c : Char) : Bool := ",\x7b\x7d[]".toList.contains c

/-- Whether a text is a number: a whole one that fits a word of 64 bits, or a decimal with a point. -/
def isNumber (word : List Char) : Bool :=
  (word.contains '.' && (Binary64.readDecimal? (Binary64.splitSign word).2).isSome)
    || (Text.readInt? 10 word).any fun n => Text.fitsInt64 n || Text.fitsUInt64 n

/-- A plain text as a value. -/
def ofWord (cs : List Char) : Setting :=
  let word := Text.trim cs
  if isNumber word then .other else .text (String.ofList word)

/-- The character that a letter after a backslash stands for. -/
def simpleEscape? : Char → Option Char
  | '"' => some '"'
  | '\\' => some '\\'
  | 'b' => some '\x08'
  | 'f' => some '\x0c'
  | 'n' => some '\n'
  | 'r' => some '\r'
  | 't' => some '\t'
  | _ => none

/-- Whether a character may stand for itself in a text in quotes. -/
def isQuotable (c : Char) : Bool := c == '\t' || (' ' ≤ c && c != '\x7f')

/-- Read the rest of a text in quotes. An escape that is not known spoils the text. -/
def inQuotes : List Char → Option (List Char × List Char)
  | [] => none
  | '"' :: cs => some ([], cs)
  | '\\' :: 'u' :: a :: b :: c :: d :: cs =>
    match Text.charOfHex? [a, b, c, d] with
    | some x => (inQuotes cs).map fun (text, rest) => (x :: text, rest)
    | none => none
  | '\\' :: 'U' :: a :: b :: c :: d :: e :: f :: g :: h :: cs =>
    match Text.charOfHex? [a, b, c, d, e, f, g, h] with
    | some x => (inQuotes cs).map fun (text, rest) => (x :: text, rest)
    | none => none
  | '\\' :: c :: cs =>
    match simpleEscape? c with
    | some x => (inQuotes cs).map fun (text, rest) => (x :: text, rest)
    | none => none
  | c :: cs =>
    if c != '\\' && isQuotable c then (inQuotes cs).map fun (text, rest) => (c :: text, rest)
    else none

/-- Read a value that is not a list. -/
def scalar? : List Char → Option (Setting × List Char)
  | 't' :: 'r' :: 'u' :: 'e' :: cs => some (.flag true, cs)
  | 'f' :: 'a' :: 'l' :: 's' :: 'e' :: cs => some (.flag false, cs)
  | '\x7b' :: _ => none
  | '"' :: cs => (inQuotes cs).map fun (text, rest) => (.text (String.ofList text), rest)
  | '\'' :: c :: '\'' :: cs => some (.text (String.singleton c), cs)
  | '\'' :: _ => none
  | cs => some (ofWord (cs.takeWhile fun c => !isSeparator c), cs.dropWhile fun c => !isSeparator c)

mutual

/-- Read a value with the spaces around it. -/
def value? : Nat → List Char → Option (Setting × List Char)
  | 0, _ => none
  | fuel + 1, cs =>
    let read : Option (Setting × List Char) := match cs.dropWhile isSpace with
      | '[' :: cs => (items? fuel cs).map fun (items, rest) => (Setting.list items, rest)
      | cs => scalar? cs
    read.map fun (v, rest) => (v, rest.dropWhile isSpace)

/-- Read the items of a list up to its bracket. -/
def items? : Nat → List Char → Option (List Setting × List Char)
  | 0, _ => none
  | fuel + 1, cs =>
    match cs with
    | ']' :: rest => some ([], rest)
    | cs =>
      match value? fuel cs with
      | some (v, ',' :: rest) => (items? fuel rest).map fun (vs, rest) => (v :: vs, rest)
      | some (v, ']' :: rest) => some ([v], rest)
      | _ => none

end

/-- The value of a variable. -/
def value (text : String) : Setting :=
  let cs := text.toList
  match value? (2 * cs.length + 2) cs with
  | some (v, []) => v
  | _ => .text text

/-- What the name of a variable starts with, in lower case. -/
def namePrefix : List Char := "attrkit_".toList

/-- The setting that a variable gives. Spaces around its name and the case of letters do not count. -/
def settingOf? (name : String) : Option String :=
  let cs := (Text.trim name.toList).map Char.toLower
  if namePrefix.isPrefixOf cs then
    Setting.names.find? fun setting => setting.toList == cs.drop namePrefix.length
  else none

/-- The usual names of variables that give settings. -/
def names : List String :=
  Setting.names.map fun setting => (String.ofList namePrefix ++ setting).toUpper

/-- Variables with their values, each of which ends with a null character. -/
def ofBlock (text : String) : List (String × String) :=
  (Text.splitOn '\x00' text.toList).filterMap fun line =>
    (Text.splitOnce? '=' line).map fun (name, value) => (String.ofList name, String.ofList value)

/-- The settings that the environment gives, in its order. -/
def ofEnvironment (environment : List (String × String)) : List (String × Setting) :=
  environment.filterMap fun (name, text) =>
    (settingOf? name).map fun setting => (setting, value text)

end Variable

end AttributeSchema.Command
