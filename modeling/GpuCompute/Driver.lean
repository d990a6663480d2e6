import GpuCompute.Adapter
import GpuCompute.Env
import GpuCompute.Queue

/-!
# Drivers

What the library needs of a GPU driver. Handles that are only ever passed back are types of the
driver's own. Calls that may fail are actions; the others change the environment. Adapters and
queues have plain handles.
-/

namespace GpuCompute

/-- What an instance is made with. -/
structure InstanceDescriptor where
  applicationName : String
  applicationVersion : UInt32
  apiVersion : UInt32
  extensions : List String
  layers : List String
  /-- Whether shaders may print through the validation layers. -/
  debugPrintf : Bool
  deriving DecidableEq

/-- What a device is made with. -/
structure DeviceDescriptor where
  queues : List Queue.Request
  extensions : List String
  layers : List String
  deriving DecidableEq

/-- The type of a descriptor (`VkDescriptorType`). -/
abbrev DescriptorType : Type := Int32

/-- The type of storage buffers. -/
def DescriptorType.storageBuffer : DescriptorType := 7

/-- A buffer bound to a descriptor of a pipeline. -/
structure Binding (β : Type) where
  buffer : β
  descriptorType : DescriptorType
  size : UInt64
  deriving DecidableEq

/-- What a pipeline is made with: the words of its module, its bindings in order, and how many bytes
of push constants it takes. -/
structure PipelineDescriptor (β : Type) where
  code : List UInt32
  bindings : List (Binding β)
  pushConstantSize : UInt32
  deriving DecidableEq

/-- A GPU driver. -/
structure Driver where
  /-- What the driver keeps. -/
  State : Type
  Instance : Type
  Device : Type
  /-- Registered callbacks for messages of validation layers. -/
  Callbacks : Type
  Buffer : Type
  Pipeline : Type
  /-- A command pool with what is needed to run commands once. -/
  Batch : Type
  instanceExtensions : Act State (List String)
  instanceLayers : Act State (List String)
  createInstance : InstanceDescriptor → Act State Instance
  registerCallbacks : Instance → Act State Callbacks
  unregisterCallbacks : Instance → Callbacks → Env State → Env State
  destroyInstance : Instance → Env State → Env State
  adapters : Instance → Act State (List AdapterHandle)
  properties : Instance → AdapterHandle → Env State → DeviceProperties × Env State
  queueFamilies : Instance → AdapterHandle → Env State → List QueueFamily × Env State
  deviceExtensions : Instance → AdapterHandle → Act State (List String)
  createDevice : Instance → AdapterHandle → DeviceDescriptor → Act State Device
  /-- The queue of a family at an index. -/
  queue : Device → (family index : UInt32) → Env State → Queue.Handle × Env State
  /-- Lets go of what the driver keeps for a device, but does not destroy the device. -/
  releaseDevice : Device → Env State → Env State
  /-- Whether a device was neither released nor destroyed. -/
  isAlive : Device → State → Bool
  destroyDevice : Device → Env State → Env State
  createBuffer : Device → (size : UInt64) → (usage : UInt32) → Act State Buffer
  destroyBuffer : Device → Buffer → Env State → Env State
  createPipeline : Device → PipelineDescriptor Buffer → Act State Pipeline
  destroyPipeline : Device → Pipeline → Env State → Env State
  createBatch : Device → (family timestamps : UInt32) → Act State Batch
  destroyBatch : Device → Batch → Env State → Env State

end GpuCompute
