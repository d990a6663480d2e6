import GpuCompute.Adapter
import GpuCompute.Config
import GpuCompute.Text.Utf8

/-!
# Hosts

What a Vulkan implementation says about itself and its adapters. Names are bytes in fields of fixed
size, of which the part before the first zero byte counts.
-/

namespace GpuCompute.Vulkan

/-- How many bytes of a name fit into its field beside the zero byte that ends it. -/
def nameCapacity : Nat := 255

/-- The text of a name. -/
def nameText (name : List UInt8) : String :=
  Text.decodeLossy ((name.take nameCapacity).takeWhile (· != 0))

/-- What an adapter says about itself, apart from its name. -/
structure Limits where
  /-- The raw device type (`VkPhysicalDeviceType`). -/
  deviceType : Int
  vendorId : UInt32
  deviceId : UInt32
  apiVersion : UInt32
  driverVersion : UInt32
  maxComputeSharedMemorySize : UInt32
  maxComputeWorkGroupInvocations : UInt32
  maxComputeWorkGroupCount : Extent
  maxPushConstantsSize : UInt32
  timestampPeriod : UInt32

/-- The limits of an adapter about which nothing else is said. -/
def Limits.plain (adapter : AdapterHandle) : Limits where
  deviceType := 2
  vendorId := 4318
  deviceId := adapter.toUInt32
  apiVersion := packVersion 0 1 2 0
  driverVersion := 1
  maxComputeSharedMemorySize := 49152
  maxComputeWorkGroupInvocations := 1024
  maxComputeWorkGroupCount := ⟨65535, 65535, 65535⟩
  maxPushConstantsSize := 128
  timestampPeriod := 0x3F800000

/-- An adapter of a host. -/
structure HostAdapter where
  name : List UInt8 := []
  limits : Limits
  families : List QueueFamily := []
  extensions : List (List UInt8) := []

/-- The properties of an adapter. -/
def HostAdapter.properties (a : HostAdapter) : DeviceProperties where
  name := nameText a.name
  kind := .ofDeviceType a.limits.deviceType
  vendorId := a.limits.vendorId
  deviceId := a.limits.deviceId
  apiVersion := a.limits.apiVersion
  driverVersion := a.limits.driverVersion
  maxComputeSharedMemorySize := a.limits.maxComputeSharedMemorySize
  maxComputeWorkGroupInvocations := a.limits.maxComputeWorkGroupInvocations
  maxComputeWorkGroupCount := a.limits.maxComputeWorkGroupCount
  maxPushConstantsSize := a.limits.maxPushConstantsSize
  timestampPeriod := a.limits.timestampPeriod

/-- A type of device memory: what it can do, and the size of the heap it comes from. -/
structure MemoryType where
  flags : UInt32
  heapSize : Nat
  deriving DecidableEq

/-- What a buffer needs of the memory it is bound to. -/
structure Requirements where
  size : Nat
  alignment : Nat
  /-- A bit for each type of memory that will do. -/
  typeBits : UInt32
  deriving DecidableEq

/-- The memory of a host. -/
structure HostMemory where
  types : List MemoryType := [⟨7, 17179869184⟩]
  /-- What every buffer needs, in place of its own size. -/
  size : Option Nat := none
  alignment : Nat := 16
  typeBits : UInt32 := 0xFFFFFFFF

/-- What a buffer of a size needs. -/
def HostMemory.requirements (m : HostMemory) (size : UInt64) : Requirements :=
  ⟨m.size.getD size.toNat, m.alignment, m.typeBits⟩

/-- A Vulkan implementation. Adapters have the handles 1, 2, … in order. -/
structure Host where
  adapters : List HostAdapter := []
  instanceExtensions : List (List UInt8) := []
  instanceLayers : List (List UInt8) := []
  memory : HostMemory := {}

namespace Host

/-- The adapter with a handle; other handles stand for one that has no name and can do nothing. -/
def adapter (h : Host) (handle : AdapterHandle) : HostAdapter :=
  let unknown : HostAdapter := { limits := .plain handle }
  if handle = 0 then unknown else h.adapters[handle.toNat - 1]?.getD unknown

/-- The handles of the adapters. -/
def adapterHandles (h : Host) : List AdapterHandle :=
  (List.range h.adapters.length).map fun i => UInt64.ofNat (i + 1)

end Host

end GpuCompute.Vulkan
