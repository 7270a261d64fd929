import AttributeSchema.Diagnostic
import AttributeSchema.Net.Mac

/-!
# Checks of network values

Addresses, subnets, MAC addresses, domain names, and the settings of a forwarding detection session.
-/

namespace AttributeSchema.Check

/-- A MAC address. -/
def mac (v : Json) : Verdict :=
  match v with
  | .string s => Verdict.require (Net.Mac.accepts s.toList) (.notMac v)
  | v => .error (.notMac v)

/-- An address of either family. -/
def address (v : Json) : Verdict :=
  match v with
  | .string s => Verdict.require (Net.Address.read? s.toList).isSome (.notAddress v)
  | v => .error (.notAddress v)

/-- The first address of a subnet, with an explicit prefix length. -/
def subnet (v : Json) : Verdict :=
  match v with
  | .string s =>
    if s.toList.contains '/' then
      match Net.Subnet.read? s.toList with
      | some subnet => Verdict.require (subnet.network = subnet.address) (.hostPart s subnet)
      | none => .error (.notSubnet v)
    else .error (.notSubnet v)
  | v => .error (.notSubnet v)

/-- The greatest length of a domain name that a parameter gives. -/
def nameLimit (param : Option Json) : Nat :=
  (param.bind Json.toUInt64?).getD Net.DomainName.maxName

/-- A domain name without faults; the empty string is one as well. -/
def nameWith (fault? : Nat → List Char → Option Net.DomainName.Fault) (param : Option Json)
    (v : Json) : Verdict :=
  match v with
  | .string s =>
    if s.toList = [] then Verdict.pass
    else match fault? (nameLimit param) s.toList with
      | some fault => .error (.domainName s fault)
      | none => Verdict.pass
  | v => .error (.notString v)

/-- A host name, relative or absolute. -/
def hostName : Option Json → Json → Verdict := nameWith Net.DomainName.fault?

/-- A domain name that ends with a dot. -/
def domainName : Option Json → Json → Verdict := nameWith Net.DomainName.absoluteFault?

/-- The modes of a forwarding detection session. -/
def detectionModes : List String := ["asynchronous", "demand", "one_arm_echo"]

/-- The mode of a forwarding detection session. -/
def detectionMode (v : Json) : Verdict :=
  match v with
  | .string s => Verdict.require (detectionModes.contains s) (.notDetectionMode v detectionModes)
  | v => .error (.notDetectionMode v detectionModes)

/-- The interval of a forwarding detection session in milliseconds, at most the given one. -/
def detectionInterval (param : Option Json) (v : Json) : Verdict :=
  match v.toUInt64? with
  | none => .error (.notDetectionInterval v)
  | some n =>
    match param.bind Json.toUInt64? with
    | some most => Verdict.require (n ≤ most) (.tooLarge n most)
    | none => Verdict.pass

end AttributeSchema.Check
