import AttributeSchema.Converter.Error
import AttributeSchema.Dict
import AttributeSchema.Json.Members
import AttributeSchema.Text.Pieces

/-!
# Conversions of sequences

Conversions to sequences, and the collapse of a list of pairs written `key=value` into a mapping from
each key to the values that it was given.
-/

namespace AttributeSchema.Convert

/-- The items of a value: those of an array, the keys of an object, nothing for null, and any other
value on its own. -/
def items : Json → List Json
  | .null => []
  | .array xs => xs
  | .object members => (Members.keys members).map Json.string
  | v => [v]

/-- Convert to a sequence. -/
def toSequence (v : Json) : Converted := .ok (.array (items v))

/-- Replace null by the empty array. -/
def nullToArray (v : Json) : Converted := .ok (if v.isNull then .array [] else v)

/-- Replace null by the empty object. -/
def nullToObject (v : Json) : Converted := .ok (if v.isNull then .object [] else v)

/-- The key and the value of a text with an equals sign that is not its first character. The first
equals sign separates them. -/
def pair? (s : String) : Option (String × String) :=
  match Text.splitOnce? '=' s.toList with
  | some ([], _) => none
  | some (key, value) => some (String.ofList key, String.ofList value)
  | none => none

/-- Read a pair. -/
def toPair (s : String) : Except ConvertError (String × String) :=
  match pair? s with
  | some p => .ok p
  | none => .error (.notPair (.string s))

/-- Put a string in its place in an ascending list, unless it is there. -/
def insertAscending (s : String) : List String → List String
  | [] => [s]
  | x :: xs => if s < x then s :: x :: xs else if s = x then x :: xs else x :: insertAscending s xs

/-- Add a value to the ones of a key. -/
def addPair (d : Dict (List String)) (key value : String) : Dict (List String) :=
  d.insert key (insertAscending value ((d.get? key).getD []))

/-- Collect the pairs of a list of texts. -/
def collectPairs : Dict (List String) → List Json → Except ConvertError (Dict (List String))
  | d, [] => .ok d
  | d, .string s :: xs =>
    match pair? s with
    | some (key, value) => collectPairs (addPair d key value) xs
    | none => .error (.notPair (.string s))
  | _, v :: _ => .error (.notPair v)

/-- Whether a list is the single flag that a command line client sends in place of pairs. -/
def isFlag : List Json → Bool
  | [.string s] => s == "True"
  | _ => false

/-- Collapse a list of pairs into an object. Keys and the values of each key are in ascending order
without repetition. -/
def collapsePairs (xs : List Json) : Converted :=
  if isFlag xs then .ok (.object [])
  else match collectPairs ∅ xs with
    | .ok d => .ok (.object (d.entries.map fun (k, vs) => (k, .array (vs.map Json.string))))
    | .error e => .error e

end AttributeSchema.Convert
