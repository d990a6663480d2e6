/-!
# Capabilities

A driver offers named capabilities: extensions and validation layers of an instance, and those of a
device. Names match exactly. `intersect` keeps the requested names that are offered, and `distinct`
keeps the first of equal names.
-/

namespace GpuCompute

/-- The four kinds of names that are negotiated with a driver. -/
inductive CapabilityKind
  | instanceExtensions
  | instanceLayers
  | deviceExtensions
  | deviceLayers
  deriving DecidableEq

namespace CapabilityKind

/-- Every kind. -/
def all : List CapabilityKind :=
  [.instanceExtensions, .instanceLayers, .deviceExtensions, .deviceLayers]

/-- The kind's identifier. -/
def label : CapabilityKind → String
  | .instanceExtensions => "InstanceExtensions"
  | .instanceLayers => "InstanceLayers"
  | .deviceExtensions => "DeviceExtensions"
  | .deviceLayers => "DeviceLayers"

/-- The kind in words. -/
def words : CapabilityKind → String
  | .instanceExtensions => "instance extensions"
  | .instanceLayers => "instance validation layers"
  | .deviceExtensions => "device extensions"
  | .deviceLayers => "device validation layers"

end CapabilityKind

namespace Capability

/-- The requested names that are available, in requested order and as often as requested. -/
def intersect (requested available : List String) : List String :=
  requested.filter fun name => available.contains name

/-- The names without repetitions, each where it stands first. -/
def distinct : List String → List String
  | [] => []
  | name :: rest => name :: (distinct rest).filter (· != name)

end Capability

end GpuCompute
