import AttributeSchema.Converter.Address
import AttributeSchema.Converter.Scalar
import AttributeSchema.Converter.Sequence

/-!
# Converters

A converter is built in or registered under a name by the caller. A value converter maps a value to a
value; a list converter first takes the items of the value and then collapses them.
-/

namespace AttributeSchema

/-- The built-in value converters. -/
inductive BuiltinConverter where
  | boolean
  | booleanOrNull
  | integer
  | nonNegativeDecimal
  | nullToArray
  | nullToObject
  | sequence
  | address
  | subnet
  | protocol
  deriving DecidableEq, Repr

namespace BuiltinConverter

def all : List BuiltinConverter :=
  [.boolean, .booleanOrNull, .integer, .nonNegativeDecimal, .nullToArray, .nullToObject, .sequence,
    .address, .subnet, .protocol]

/-- The name by which documents refer to the converter. -/
def name : BuiltinConverter → String
  | .boolean => "to_boolean"
  | .booleanOrNull => "to_boolean_or_none"
  | .integer => "to_int"
  | .nonNegativeDecimal => "to_positive_float_or_none"
  | .nullToArray => "none_to_empty_sequence"
  | .nullToObject => "none_to_empty_mapping"
  | .sequence => "to_sequence"
  | .address => "ip_to_canonical"
  | .subnet => "cidr_to_canonical"
  | .protocol => "to_protocol"

/-- The converter with a given name. -/
def ofName? (name : String) : Option BuiltinConverter := all.find? fun c => c.name == name

/-- Convert a value. -/
def apply : BuiltinConverter → Json → Converted
  | .boolean => Convert.toBoolean
  | .booleanOrNull => Convert.orNull Convert.toBoolean
  | .integer => Convert.toInteger
  | .nonNegativeDecimal => Convert.toNonNegativeDecimal
  | .nullToArray => Convert.nullToArray
  | .nullToObject => Convert.nullToObject
  | .sequence => Convert.toSequence
  | .address => Convert.toCanonicalAddress
  | .subnet => Convert.toCanonicalSubnet
  | .protocol => Convert.toProtocol

end BuiltinConverter

/-- A value converter that was registered by name. -/
structure CustomValueConverter where
  name : String
  convert : Json → Converted

/-- A value converter. -/
inductive Converter where
  | builtin (c : BuiltinConverter)
  | custom (c : CustomValueConverter)

namespace Converter

def name : Converter → String
  | .builtin c => c.name
  | .custom c => c.name

/-- Convert a value. -/
def apply : Converter → Json → Converted
  | .builtin c => c.apply
  | .custom c => c.convert

/-- Convert a value by some converters in turn. -/
def applyAll : List Converter → Json → Converted
  | [], v => .ok v
  | c :: cs, v =>
    match c.apply v with
    | .ok w => applyAll cs w
    | .error e => .error e

end Converter

/-- A list converter that was registered by name. -/
structure CustomListConverter where
  name : String
  collapse : List Json → Converted

/-- A list converter. The built-in one collapses pairs. -/
inductive ListConverter where
  | pairs
  | custom (c : CustomListConverter)

namespace ListConverter

/-- The name by which documents refer to the built-in list converter. -/
def pairsName : String := "kvp_list_to_mapping"

def name : ListConverter → String
  | .pairs => pairsName
  | .custom c => c.name

/-- Take the items of a value and collapse them. Collapsing pairs keeps an object as it is. -/
def apply : ListConverter → Json → Converted
  | .pairs, .object members => .ok (.object members)
  | .pairs, v => Convert.collapsePairs (Convert.items v)
  | .custom c, v => c.collapse (Convert.items v)

end ListConverter

end AttributeSchema
