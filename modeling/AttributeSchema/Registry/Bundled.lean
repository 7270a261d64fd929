import AttributeSchema.Registry.Converters
import AttributeSchema.Registry.Validators

/-!
# Bundled validators

Leaf validators that are not built in but come with the library: names of hosts and domains, and the
settings of a forwarding detection session.
-/

namespace AttributeSchema.Bundled

def hostName : CustomLeaf := ⟨"type:dns_host_name", fun v param => Check.hostName param v⟩

def domainName : CustomLeaf := ⟨"type:dns_domain_name", fun v param => Check.domainName param v⟩

def detectionMode : CustomLeaf := ⟨"type:bfd_mode", fun v _ => Check.detectionMode v⟩

def detectionInterval : CustomLeaf :=
  ⟨"type:bfd_interval", fun v param => Check.detectionInterval param v⟩

/-- The bundled validators, in the order in which they are registered. -/
def validators : List CustomValidator :=
  [.leaf hostName, .leaf domainName, .leaf detectionMode, .leaf detectionInterval]

/-- The registry with the built-in and the bundled validators. -/
def registry : ValidatorRegistry := (ValidatorRegistry.registerAll ⟨∅⟩ validators).1

end AttributeSchema.Bundled
