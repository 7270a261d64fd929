import AttributeSchema.Binary64.Decimal
import AttributeSchema.Converter.Error
import AttributeSchema.Text.Blank
import AttributeSchema.Text.Numeral

/-!
# Conversions of scalars

Conversions to booleans, whole numbers, decimals and protocol names. Each accepts its own results and
leaves them as they are.
-/

namespace AttributeSchema.Convert

/-- The letters of a string in lower case; only ASCII letters have one. -/
def lowered (s : String) : String := String.ofList (s.toList.map Char.toLower)

/-- Read a decimal numeral that fits 64 bits, within a blank margin. -/
def readInteger? (s : String) : Option Int := Text.readInt64? (Text.trim s.toList)

/-- The truth value that a value stands for. -/
def truth? : Json → Option Bool
  | .bool b => some b
  | .string s =>
    if ["true", "yes", "1"].contains (lowered s) then some true
    else if ["false", "no", "0"].contains (lowered s) then some false
    else none
  | .number (.integer n) => if n = 1 then some true else if n = 0 then some false else none
  | _ => none

/-- Convert to a boolean. -/
def toBoolean (v : Json) : Converted :=
  match truth? v with
  | some b => .ok (.bool b)
  | none => .error (.notBoolean v)

/-- Convert to a whole number. A double converts if it has no fraction and fits 64 bits. -/
def toInteger (v : Json) : Converted :=
  let result : Option Int := match v with
    | .number (.integer n) => some n
    | .number (.real x) => x.toInt?.filter Text.fitsInt64
    | .string s => readInteger? s
    | _ => none
  match result with
  | some n => .ok (.ofInt n)
  | none => .error (.notInteger v)

/-- The double that a value stands for. -/
def decimal? : Json → Option Binary64
  | .number n => n.toBinary64?
  | .string s => Binary64.read? (Text.trim s.toList)
  | _ => none

/-- Convert to a double that is not less than zero; null is kept. -/
def toNonNegativeDecimal (v : Json) : Converted :=
  match v with
  | .null => .ok .null
  | v =>
    match decimal? v with
    | none => .error (.notDecimal v)
    | some x => if x.isNegative then .error (.negativeDecimal v) else .ok (.number (.real x))

/-- The names of protocols, in lower case. -/
def protocolNames : List String :=
  ["ah", "dccp", "egp", "esp", "gre", "hopopt", "icmp", "icmpv6", "igmp", "ipip", "ipv6-encap",
    "ipv6-frag", "ipv6-icmp", "ipv6-nonxt", "ipv6-opts", "ipv6-route", "ospf", "pgm", "rsvp",
    "sctp", "tcp", "udp", "udplite", "vrrp"]

/-- Whether a whole number is the number of a protocol. -/
def isProtocolNumber (n : Int) : Bool := 0 ≤ n && n ≤ 255

/-- Convert to a protocol: a name in lower case, or a number from 0 to 255 in its simplest spelling.
Null is kept, and a number stays a number. -/
def toProtocol (v : Json) : Converted :=
  match v with
  | .null => .ok .null
  | .string s =>
    if protocolNames.contains (lowered s) then .ok (.string (lowered s))
    else match readInteger? s with
      | some n => if isProtocolNumber n then .ok (.string (toString n)) else .error (.notProtocol v)
      | none => .error (.notProtocol v)
  | .number (.integer n) => if isProtocolNumber n then .ok v else .error (.notProtocol v)
  | _ => .error (.notProtocol v)

/-- Apply a conversion to every value but null. -/
def orNull (convert : Json → Converted) (v : Json) : Converted :=
  match v with
  | .null => .ok .null
  | v => convert v

end AttributeSchema.Convert
