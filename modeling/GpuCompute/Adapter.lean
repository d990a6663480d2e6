import GpuCompute.Extent

/-!
# Adapters

What a driver says about a physical device: its kind, its limits and its queue families.
-/

namespace GpuCompute

/-- The handle of a physical device, which the driver hands out and never destroys. -/
abbrev AdapterHandle : Type := UInt64

/-- What sort of device an adapter is. -/
inductive DeviceKind
  | discrete
  | integrated
  | virtual
  | cpu
  | other
  deriving DecidableEq

namespace DeviceKind

/-- Every kind. -/
def all : List DeviceKind := [.discrete, .integrated, .virtual, .cpu, .other]

/-- The kind's identifier. -/
def label : DeviceKind → String
  | .discrete => "Discrete"
  | .integrated => "Integrated"
  | .virtual => "Virtual"
  | .cpu => "Cpu"
  | .other => "Other"

/-- The kind of a Vulkan device type. -/
def ofDeviceType (raw : Int) : DeviceKind :=
  match raw with
  | 1 => .integrated
  | 2 => .discrete
  | 3 => .virtual
  | 4 => .cpu
  | _ => .other

end DeviceKind

/-- A description of an adapter. -/
structure DeviceProperties where
  name : String
  kind : DeviceKind
  vendorId : UInt32
  deviceId : UInt32
  apiVersion : UInt32
  driverVersion : UInt32
  maxComputeSharedMemorySize : UInt32
  maxComputeWorkGroupInvocations : UInt32
  maxComputeWorkGroupCount : Extent
  maxPushConstantsSize : UInt32
  /-- Nanoseconds for each timestamp tick, as the bits of a 32-bit float. -/
  timestampPeriod : UInt32
  deriving DecidableEq

/-- A packed version with points between major, minor and patch number. -/
def versionText (version : UInt32) : String :=
  let part (shift mask : UInt32) : String := toString ((version >>> shift) &&& mask).toNat
  ".".intercalate [part 22 0x7F, part 12 0x3FF, part 0 0xFFF]

/-- The version of the API that the adapter offers, with points. -/
def DeviceProperties.apiVersionText (p : DeviceProperties) : String := versionText p.apiVersion

/-- A family of queues of an adapter. -/
structure QueueFamily where
  flags : UInt32
  queueCount : UInt32
  timestampValidBits : UInt32
  deriving DecidableEq

/-- Whether queues of the family run compute work. -/
def QueueFamily.supportsCompute (f : QueueFamily) : Bool := f.flags &&& 2 != 0

/-- The index of the first family that runs compute work. -/
def firstComputeFamily? (families : List QueueFamily) : Option UInt32 :=
  (families.findIdx? QueueFamily.supportsCompute).map UInt32.ofNat

end GpuCompute
