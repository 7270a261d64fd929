import AttributeSchema.Json.Printer

/-!
# Failures of conversion

Why a value cannot be converted, and the wording of each reason.
-/

namespace AttributeSchema

/-- Why a value cannot be converted. -/
inductive ConvertError where
  | notBoolean (v : Json)
  | notInteger (v : Json)
  | notDecimal (v : Json)
  | negativeDecimal (v : Json)
  | notPair (v : Json)
  | notSubnet (v : Json)
  | notProtocol (v : Json)
  /-- A reason in the words of a converter that was registered by name. -/
  | other (text : String)

/-- The wording of a reason. -/
def ConvertError.message : ConvertError → String
  | .notBoolean v => let shown := v.display; s!"'{shown}' cannot be converted to boolean"
  | .notInteger v => let shown := v.display; s!"'{shown}' is not an integer"
  | .notDecimal v => let shown := v.display; s!"'{shown}' cannot be converted to float"
  | .negativeDecimal v => let shown := v.display; s!"'{shown}' must be a non negative decimal"
  | .notPair v => let shown := v.display; s!"'{shown}' is not of the form <key>=[value]"
  | .notSubnet v => let shown := v.display; s!"'{shown}' is not a valid IP subnet"
  | .notProtocol v =>
    let shown := v.display
    s!"Protocol '{shown}' is not supported. Only protocol names and their integer representation (0 to 255) are supported"
  | .other text => text

/-- The result of a conversion. -/
abbrev Converted := Except ConvertError Json

end AttributeSchema
