import GpuCompute.Capability
import GpuCompute.Element
import GpuCompute.Extent
import GpuCompute.Json.Error
import GpuCompute.Vulkan.ResultCode

/-!
# Errors

Why an operation of the library failed. Each error is a cause; `Error.message` is its wording and
`Error.debug` its text with all details.
-/

namespace GpuCompute

open Vulkan (ResultCode)

/-- A state or an argument that rules an operation out. -/
inductive StateFault
  | managerDestroyed
  | managerWithoutInstance
  | deviceDestroyed
  | badConfig (reason : Json.ReadError)
  /-- The bytes of a tensor are not as many as its elements take. -/
  | dataLength (bytes : Nat) (count size : UInt64)
  /-- A tensor was given another number of elements than it holds. -/
  | elementCount (held : UInt64) (given : Nat)
  /-- A tensor's elements were asked for as another type. -/
  | elementType (held requested : DataType)
  /-- A tensor has more elements than a workgroup count can express. -/
  | tooManyElements (count : UInt64)
  | emptyModule
  | noTensors
  | boundTwice (index : Nat)
  | zeroDimension (workgroup : Extent)
  | boundDestroyed (index : Nat)
  | nulInApplicationName
  | nulInName (name : String)
  | other (text : String)

/-- Why device memory could not be allocated. -/
inductive AllocationFault
  /-- The size is zero or the alignment is no power of two. -/
  | invalidRequest
  | noMemoryType
  | outOfMemory
  /-- Allocating failed for another reason than lack of device memory. -/
  | unexpected (result : ResultCode)
  | notMapped (result : ResultCode)
  /-- An allocator was asked for on the null adapter. -/
  | nullAdapter
  | other (text : String)

/-- Why an operation failed. -/
inductive Error
  | capabilityNegotiation (kind : CapabilityKind) (requested available satisfied : List String)
  | noAdapter
  | invalidAdapterIndex (index count : Nat)
  | invalidQueueIndex (index count : Nat)
  | noComputeQueue (adapter : String)
  | invalidState (fault : StateFault)
  | loaderUnavailable (reason : String)
  | vulkan (call : String) (result : ResultCode)
  | allocation (fault : AllocationFault)
  | shaderCompilation (reason : String)

/-- The wording of a state fault. -/
def StateFault.message : StateFault → String
  | .managerDestroyed => "manager was already destroyed"
  | .managerWithoutInstance => "manager has no instance"
  | .deviceDestroyed => "device already destroyed"
  | .badConfig reason => "bad manager config: " ++ reason.message
  | .dataLength bytes count size =>
    s!"tensor data is {bytes} bytes, expected {count.toNat} elements of {size.toNat} bytes"
  | .elementCount held given => s!"tensor holds {held.toNat} elements, got {given}"
  | .elementType held requested => s!"tensor holds {held.label}, requested {requested.label}"
  | .tooManyElements count =>
    s!"tensor has {count.toNat} elements, too many for a default workgroup; use algorithm_with"
  | .emptyModule => "algorithm needs a non-empty SPIR-V module"
  | .noTensors => "algorithm needs at least one tensor"
  | .boundTwice index => s!"tensor {index} is bound more than once"
  | .zeroDimension workgroup => "workgroup " ++ workgroup.text ++ " has a zero dimension"
  | .boundDestroyed index => s!"tensor {index} was destroyed before binding"
  | .nulInApplicationName => "application name contains NUL"
  | .nulInName name => "name contains NUL: " ++ Text.quote name
  | .other text => text

/-- The wording of an allocation fault. -/
def AllocationFault.message : AllocationFault → String
  | .invalidRequest => "Invalid AllocationCreateDesc"
  | .noMemoryType => "No compatible memory type available"
  | .outOfMemory => "Out of memory"
  | .unexpected result => "Internal error: Unexpected error in vkAllocateMemory: " ++ result.label
  | .notMapped result => "Failed to map memory: " ++ result.text
  | .nullAdapter =>
    "Invalid AllocatorCreateDesc AllocatorCreateDesc field `physical_device` is null."
  | .other text => text

namespace Error

/-- The wording of an error. -/
def message : Error → String
  | .capabilityNegotiation kind requested available satisfied =>
    s!"only {satisfied.length} out of {requested.length} requested {kind.words} are available; " ++
      "requested: " ++ Text.showList requested ++ ", available: " ++ Text.showList available
  | .noAdapter => "failed to find GPUs with Vulkan support; are the Vulkan drivers installed?"
  | .invalidAdapterIndex index count =>
    s!"physical device index {index} is out of range ({count} adapters found)"
  | .invalidQueueIndex index count =>
    s!"queue index {index} is out of range ({count} queues created)"
  | .noComputeQueue adapter =>
    "adapter " ++ Text.quote adapter ++ " exposes no compute-capable queue family"
  | .invalidState fault => "invalid state: " ++ fault.message
  | .loaderUnavailable reason => "Vulkan loader unavailable: " ++ reason
  | .vulkan call result => s!"{call} failed: {result.text}"
  | .allocation fault => "device memory allocation failed: " ++ fault.message
  | .shaderCompilation reason => "shader compilation failed: " ++ reason

/-- Names in quotes and brackets. -/
def quotedList (names : List String) : String := Text.showList (names.map Text.quote)

/-- An error with all its details on one line. -/
def debug : Error → String
  | .capabilityNegotiation kind requested available satisfied =>
    Text.showRecord "CapabilityNegotiation"
      [("kind", kind.label), ("requested", quotedList requested),
        ("available", quotedList available), ("satisfied", quotedList satisfied)]
  | .noAdapter => "NoAdapter"
  | .invalidAdapterIndex index count =>
    Text.showRecord "InvalidAdapterIndex" [("index", toString index), ("count", toString count)]
  | .invalidQueueIndex index count =>
    Text.showRecord "InvalidQueueIndex" [("index", toString index), ("count", toString count)]
  | .noComputeQueue adapter => Text.showRecord "NoComputeQueue" [("adapter", Text.quote adapter)]
  | .invalidState fault => Text.showTuple "InvalidState" [Text.quote fault.message]
  | .loaderUnavailable reason => Text.showTuple "LoaderUnavailable" [Text.quote reason]
  | .vulkan call result =>
    Text.showRecord "Vulkan" [("op", Text.quote call), ("result", result.label)]
  | .allocation fault => Text.showTuple "Allocation" [Text.quote fault.message]
  | .shaderCompilation reason => Text.showTuple "ShaderCompilation" [Text.quote reason]

end Error

end GpuCompute
