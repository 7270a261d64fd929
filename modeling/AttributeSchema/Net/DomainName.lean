import AttributeSchema.Text.Pieces

/-!
# Domain names

A name is a sequence of labels separated by dots, with at most one dot at the end. A label has 1 to 63
ASCII letters, digits and hyphens, and no hyphen at either end. Of several labels the last one is not
all digits.
-/

namespace AttributeSchema.Net.DomainName

/-- What is wrong with a name. -/
inductive Fault where
  | tooLong (limit : Nat)
  | emptyLabel
  | longLabel (label : String)
  | hyphenAtEdge (label : String)
  | badCharacter (label : String)
  | numericTop (label : String)
  /-- There is no dot at the end where one is required. -/
  | relative
  deriving DecidableEq, Repr

/-- The greatest length of a label in bytes. -/
def maxLabel : Nat := 63

/-- The greatest length of a name in bytes, where no other limit is given. -/
def maxName : Nat := 255

/-- Whether a character may stand in a label. -/
def isLabelChar (c : Char) : Bool := c.isAlphanum || c == '-'

/-- The first fault of a label. -/
def labelFault? (label : List Char) : Option Fault :=
  if label = [] then some .emptyLabel
  else if maxLabel < Text.byteLength label then some (.longLabel (String.ofList label))
  else if label.head? = some '-' ∨ label.getLast? = some '-' then
    some (.hyphenAtEdge (String.ofList label))
  else if label.all isLabelChar then none
  else some (.badCharacter (String.ofList label))

/-- Whether a name ends with a dot. -/
def isAbsolute (name : List Char) : Bool := name.getLast? == some '.'

/-- The labels of a name; a dot at the end is dropped. -/
def labels (name : List Char) : List (List Char) :=
  Text.splitOn '.' (if isAbsolute name then name.dropLast else name)

/-- The last of several labels, if it is all digits. -/
def numericTop? (labels : List (List Char)) : Option (List Char) :=
  match labels with
  | _ :: rest => rest.getLast?.filter (·.all Char.isDigit)
  | [] => none

/-- The first fault of a name that may be relative. -/
def fault? (limit : Nat) (name : List Char) : Option Fault :=
  if limit < Text.byteLength name then some (.tooLong limit)
  else match (labels name).findSome? labelFault? with
    | some fault => some fault
    | none => (numericTop? (labels name)).map fun top => .numericTop (String.ofList top)

/-- The first fault of a name that has to end with a dot. -/
def absoluteFault? (limit : Nat) (name : List Char) : Option Fault :=
  match fault? limit name with
  | some fault => some fault
  | none => if isAbsolute name then none else some .relative

end AttributeSchema.Net.DomainName
