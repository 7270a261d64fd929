import AttributeSchema.Check.Network
import AttributeSchema.Check.Number
import AttributeSchema.Check.Text
import AttributeSchema.Regex.Compile

/-!
# Leaf validators

A leaf validator judges a value as a whole, with an optional parameter. Pattern validators also take
the compiled form of their parameter. A validator with a name ending in `_or_none` accepts null.
-/

namespace AttributeSchema

/-- Why a parameter cannot be used. -/
inductive ParamFault where
  | notValues
  | notBounds
  | notLimit
  | notPattern
  /-- The pattern is not a regular expression. -/
  | badPattern
  | notMembers
  deriving DecidableEq, Repr

/-- The wording of a reason. What is wrong with a pattern is said by the compiler of patterns, in words
of its own. -/
def ParamFault.message (said : String) : ParamFault → String
  | .notValues => "expected a list of allowed values"
  | .notBounds => "expected [min, max]"
  | .notLimit => "expected a maximum length"
  | .notPattern => "expected a regular expression"
  | .badPattern => said
  | .notMembers => "expected a mapping of nested attributes"

/-- The built-in leaf validators. -/
inductive LeafValidator where
  | uuid
  | uuidOrNull
  | uuidList
  | text
  | textOrNull
  | textNotBlank
  | textNotBlankOrNull
  | among
  | range
  | rangeOrNull
  | nonNegative
  | boolean
  | pattern
  | patternOrNull
  | mac
  | address
  | addressOrNull
  | subnet
  | subnetOrNull
  | distinctTexts
  deriving DecidableEq, Repr

namespace LeafValidator

def all : List LeafValidator :=
  [.uuid, .uuidOrNull, .uuidList, .text, .textOrNull, .textNotBlank, .textNotBlankOrNull, .among,
    .range, .rangeOrNull, .nonNegative, .boolean, .pattern, .patternOrNull, .mac, .address,
    .addressOrNull, .subnet, .subnetOrNull, .distinctTexts]

/-- The name by which documents refer to the validator. -/
def name : LeafValidator → String
  | .uuid => "type:uuid"
  | .uuidOrNull => "type:uuid_or_none"
  | .uuidList => "type:uuid_list"
  | .text => "type:string"
  | .textOrNull => "type:string_or_none"
  | .textNotBlank => "type:not_empty_string"
  | .textNotBlankOrNull => "type:not_empty_string_or_none"
  | .among => "type:values"
  | .range => "type:range"
  | .rangeOrNull => "type:range_or_none"
  | .nonNegative => "type:non_negative"
  | .boolean => "type:boolean"
  | .pattern => "type:regex"
  | .patternOrNull => "type:regex_or_none"
  | .mac => "type:mac_address"
  | .address => "type:ip_address"
  | .addressOrNull => "type:ip_address_or_none"
  | .subnet => "type:subnet"
  | .subnetOrNull => "type:subnet_or_none"
  | .distinctTexts => "type:list_of_unique_strings"

/-- The validator with a given name. -/
def ofName? (name : String) : Option LeafValidator := all.find? fun v => v.name == name

/-- Whether the validator accepts null whatever its parameter is. -/
def acceptsNull : LeafValidator → Bool
  | .uuidOrNull | .textOrNull | .textNotBlankOrNull | .rangeOrNull | .patternOrNull
  | .addressOrNull | .subnetOrNull => true
  | _ => false

/-- Whether the parameter of the validator is a regular expression. -/
def isPattern : LeafValidator → Bool
  | .pattern | .patternOrNull => true
  | _ => false

/-- The compiled form of a parameter that is a regular expression. -/
def compile (param : Option Json) : Except ParamFault Regex :=
  match param with
  | some (.string s) =>
    match Regex.compile? s with
    | some r => .ok r
    | none => .error .badPattern
  | _ => .error .notPattern

/-- Whether a value is null or a whole number that fits a signed word of 64 bits. -/
def isBound (v : Json) : Bool := v.isNull || v.toInt64?.isSome

/-- Check that a parameter has the shape that the validator reads. -/
def checkParam (v : LeafValidator) (param : Option Json) : Except ParamFault Unit :=
  match v with
  | .among =>
    match param with
    | some (.array _) => .ok ()
    | _ => .error .notValues
  | .range | .rangeOrNull =>
    match param with
    | some (.array bounds) =>
      if bounds.length = 2 ∧ bounds.all isBound then .ok () else .error .notBounds
    | _ => .error .notBounds
  | .text | .textOrNull | .textNotBlank | .textNotBlankOrNull | .distinctTexts =>
    match param with
    | none => .ok ()
    | some .null => .ok ()
    | some p => if p.toUInt64?.isSome then .ok () else .error .notLimit
  | .pattern | .patternOrNull => (compile param).map fun _ => ()
  | _ => .ok ()

/-- Judge a value. -/
def check (v : LeafValidator) (param : Option Json) (regex : Option Regex) (value : Json) : Verdict :=
  if v.acceptsNull && value.isNull then Verdict.pass
  else match v with
    | .uuid | .uuidOrNull => Check.uuid value
    | .uuidList => Check.distinctList Check.uuid value
    | .text | .textOrNull => Check.text param value
    | .textNotBlank | .textNotBlankOrNull => Check.textNotBlank param value
    | .among => Check.among param value
    | .range | .rangeOrNull => Check.range param value
    | .nonNegative => Check.nonNegative value
    | .boolean => Check.boolean value
    | .pattern | .patternOrNull => Check.pattern regex value
    | .mac => Check.mac value
    | .address | .addressOrNull => Check.address value
    | .subnet | .subnetOrNull => Check.subnet value
    | .distinctTexts => Check.distinctList (Check.text param) value

end LeafValidator

end AttributeSchema
