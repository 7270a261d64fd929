import AttributeSchema.Converter.Error
import AttributeSchema.Net.Subnet

/-!
# Conversions of addresses

Addresses and subnets in their canonical spelling.
-/

namespace AttributeSchema.Convert

/-- Write a version 6 address in its canonical spelling; any other value is kept. -/
def toCanonicalAddress (v : Json) : Converted :=
  match v with
  | .string s =>
    match Net.Address.read? s.toList with
    | some a => match a.family with
      | .v6 => .ok (.string a.render)
      | .v4 => .ok v
    | none => .ok v
  | v => .ok v

/-- Write a subnet in its canonical spelling. Its host part is kept, and a bare address becomes the
subnet of that address alone. -/
def toCanonicalSubnet (v : Json) : Converted :=
  match v with
  | .string s =>
    match Net.Subnet.read? s.toList with
    | some subnet => .ok (.string subnet.render)
    | none => .error (.notSubnet v)
  | v => .error (.notSubnet v)

end AttributeSchema.Convert
