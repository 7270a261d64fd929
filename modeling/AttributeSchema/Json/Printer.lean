import AttributeSchema.Binary64.Shortest
import AttributeSchema.Json.Basic

/-!
# Writing JSON

The compact text of a value, and its text indented by two spaces. Characters outside ASCII are
written as they are. A double has the fewest digits that read back; it is written positionally, with
at least one digit after the point, while its decimal exponent lies between -5 and 15.
-/

namespace AttributeSchema

/-- The text of a double. -/
def Binary64.render (x : Binary64) : String :=
  let sign := if x.negative then "-" else ""
  let decimal := x.shortest
  let digits := (toString decimal.digits).toList
  -- The number of digits before the point, if it were written positionally.
  let point : Int := digits.length + decimal.exponent
  let body : List Char :=
    if x.isZero then ['0', '.', '0']
    else if 0 ≤ decimal.exponent ∧ point ≤ 16 then
      digits ++ List.replicate decimal.exponent.toNat '0' ++ ['.', '0']
    else if 0 < point ∧ point ≤ 16 then
      digits.take point.toNat ++ '.' :: digits.drop point.toNat
    else if -5 < point ∧ point ≤ 0 then
      ['0', '.'] ++ List.replicate (-point).toNat '0' ++ digits
    else
      let exponent := point - 1
      let fraction := match digits.drop 1 with
        | [] => []
        | rest => '.' :: rest
      digits.take 1 ++ fraction ++ ['e', if exponent < 0 then '-' else '+']
        ++ (toString exponent.natAbs).toList
  sign ++ String.ofList body

namespace Json

/-- A hexadecimal digit in lower case. -/
def hexDigit (n : Nat) : Char := Nat.digitChar (n % 16)

/-- The characters that stand for one character inside a string. -/
def escape (c : Char) : List Char :=
  if c = '"' then ['\\', '"']
  else if c = '\\' then ['\\', '\\']
  else if c = '\x08' then ['\\', 'b']
  else if c = '\x0c' then ['\\', 'f']
  else if c = '\n' then ['\\', 'n']
  else if c = '\r' then ['\\', 'r']
  else if c = '\t' then ['\\', 't']
  else if c.toNat < 0x20 then ['\\', 'u', '0', '0', hexDigit (c.toNat / 16), hexDigit c.toNat]
  else [c]

/-- A string in quotes. -/
def quoted (s : String) : String :=
  String.ofList ('"' :: s.toList.flatMap escape ++ ['"'])

/-- The text of a number. -/
def numberText : Number → String
  | .integer n => toString n
  | .real x => x.render

mutual

/-- The compact text of a value. -/
def render : Json → String
  | .null => "null"
  | .bool true => "true"
  | .bool false => "false"
  | .number n => numberText n
  | .string s => quoted s
  | .array items => "[" ++ renderItems items ++ "]"
  | .object members => "\x7b" ++ renderMembers members ++ "\x7d"

/-- The texts of items, separated by commas. -/
def renderItems : List Json → String
  | [] => ""
  | [x] => render x
  | x :: xs => render x ++ "," ++ renderItems xs

/-- The texts of members, separated by commas. -/
def renderMembers : List (String × Json) → String
  | [] => ""
  | [(k, x)] => quoted k ++ ":" ++ render x
  | (k, x) :: xs => quoted k ++ ":" ++ render x ++ "," ++ renderMembers xs

end

/-- A new line with the margin of the given depth. -/
def margin (depth : Nat) : String := String.ofList ('\n' :: List.replicate (2 * depth) ' ')

mutual

/-- The text of a value at a depth, indented by two spaces for each level. -/
def renderIndented (depth : Nat) : Json → String
  | .array [] => "[]"
  | .array items =>
    "[" ++ indentedItems (depth + 1) items ++ margin depth ++ "]"
  | .object [] => "\x7b\x7d"
  | .object members =>
    "\x7b" ++ indentedMembers (depth + 1) members ++ margin depth ++ "\x7d"
  | v => render v

/-- The texts of items, each on a line of its own. -/
def indentedItems (depth : Nat) : List Json → String
  | [] => ""
  | [x] => margin depth ++ renderIndented depth x
  | x :: xs => margin depth ++ renderIndented depth x ++ "," ++ indentedItems depth xs

/-- The texts of members, each on a line of its own. -/
def indentedMembers (depth : Nat) : List (String × Json) → String
  | [] => ""
  | [(k, x)] => margin depth ++ quoted k ++ ": " ++ renderIndented depth x
  | (k, x) :: xs =>
    margin depth ++ quoted k ++ ": " ++ renderIndented depth x ++ "," ++ indentedMembers depth xs

end

/-- The text of a value inside a message: a string stands for itself, any other value is written
compactly. -/
def display : Json → String
  | .string s => s
  | v => render v

end Json

end AttributeSchema
