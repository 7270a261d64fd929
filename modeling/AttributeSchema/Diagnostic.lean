import AttributeSchema.Json.Printer
import AttributeSchema.Net.DomainName
import AttributeSchema.Net.Subnet

/-!
# Diagnostics

Why a validator rejects a value, and the wording of each reason.
-/

namespace AttributeSchema

/-- Why a validator rejects a value. -/
inductive Diagnostic where
  | notUuid (v : Json)
  | notList (v : Json)
  | notString (v : Json)
  | tooLong (s : String) (limit : Nat)
  | blank (s : String)
  | notAmong (v : Json) (allowed : List Json)
  | notInteger (v : Json)
  | tooSmall (n least : Int)
  | tooLarge (n most : Int)
  | negative (v : Json)
  | notBoolean (v : Json)
  | noMatch (v : Json)
  | notMac (v : Json)
  | notAddress (v : Json)
  | notSubnet (v : Json)
  /-- The host part of a subnet is not zero. -/
  | hostPart (s : String) (subnet : Net.Subnet)
  /-- The items that equal an earlier one. -/
  | repeated (items : List Json)
  | notDictionary (v : Json)
  /-- Some of the expected keys are not among the provided ones. -/
  | missingKeys (expected provided : List String)
  | domainName (name : String) (fault : Net.DomainName.Fault)
  | notDetectionMode (v : Json) (modes : List String)
  | notDetectionInterval (v : Json)
  /-- A reason in the words of a validator that was registered by name. -/
  | other (text : String)

/-- The wording of a fault in a domain name. -/
def Net.DomainName.Fault.message (name : String) : Net.DomainName.Fault → String
  | .tooLong limit => s!"'{name}' exceeds the {limit} character FQDN limit"
  | .emptyLabel =>
    s!"'{name}' not a valid PQDN or FQDN. Reason: Encountered an empty component"
  | .longLabel label =>
    s!"'{name}' not a valid PQDN or FQDN. Reason: '{label}' exceeds {maxLabel} characters"
  | .hyphenAtEdge label =>
    s!"'{name}' not a valid PQDN or FQDN. Reason: '{label}' cannot start or end with a hyphen"
  | .badCharacter label =>
    s!"'{name}' not a valid PQDN or FQDN. Reason: '{label}' contains invalid characters"
  | .numericTop label => s!"'{name}' TLD '{label}' must not be all numeric"
  | .relative => s!"'{name}' is not a FQDN"

namespace Diagnostic

/-- A value in quotes, followed by a remark. -/
def about (v : Json) (remark : String) : String :=
  let shown := v.display
  s!"'{shown}' {remark}"

/-- The wording of a reason. -/
def message : Diagnostic → String
  | .notUuid v => about v "is not a valid UUID"
  | .notList v => about v "is not a list"
  | .notString v => about v "is not a valid string"
  | .tooLong s limit => s!"'{s}' exceeds maximum length of {limit}"
  | .blank s => s!"'{s}' Blank strings are not permitted"
  | .notAmong v allowed =>
    let shown := ", ".intercalate (allowed.map Json.display)
    about v s!"is not in [{shown}]"
  | .notInteger v => about v "is not an integer"
  | .tooSmall n least => s!"'{n}' is too small - must be at least '{least}'"
  | .tooLarge n most => s!"'{n}' is too large - must be no larger than '{most}'"
  | .negative v => about v "should be non-negative"
  | .notBoolean v => about v "is not a valid boolean value"
  | .noMatch v => about v "is not a valid input"
  | .notMac v => about v "is not a valid MAC address"
  | .notAddress v => about v "is not a valid IP address"
  | .notSubnet v => about v "is not a valid IP subnet"
  | .hostPart s subnet =>
    let advice := String.ofList (Net.Subnet.text subnet.network subnet.length)
    s!"'{s}' isn't a recognized IP subnet cidr, '{advice}' is recommended"
  | .repeated items =>
    let shown := ", ".intercalate (items.map Json.render)
    s!"Duplicate items in the list: '{shown}'"
  | .notDictionary v => about v "is not a dictionary"
  | .missingKeys expected provided =>
    let expected := ", ".intercalate expected
    let provided := ", ".intercalate provided
    s!"Validation of dictionary's keys failed. Expected keys: [{expected}] Provided keys: [{provided}]"
  | .domainName name fault => fault.message name
  | .notDetectionMode v modes =>
    let modes := ", ".intercalate modes
    about v s!"is not a valid BFD mode, expected one of [{modes}]"
  | .notDetectionInterval v => about v "is not a valid BFD interval in milliseconds"
  | .other text => text

end Diagnostic

/-- The outcome of a check. -/
abbrev Verdict := Except Diagnostic Unit

namespace Verdict

/-- The value is fine. -/
def pass : Verdict := .ok ()

/-- Reject for a reason unless a condition holds. -/
def require (condition : Bool) (reason : Diagnostic) : Verdict :=
  if condition then pass else .error reason

/-- The first rejection of some checks in turn. -/
def all {α : Type} (check : α → Verdict) : List α → Verdict
  | [] => pass
  | x :: xs =>
    match check x with
    | .ok _ => all check xs
    | .error reason => .error reason

end Verdict

end AttributeSchema
