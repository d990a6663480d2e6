import GpuCompute.Manager

/-!
# Operations of a session

What can be asked of a session, and what it answers. Managers, resources, instances, devices and
objects of the driver are spoken of by name.
-/

namespace GpuCompute

/-- A call of the driver itself, without a manager. -/
inductive DriverCall
  | createInstance (name : String) (what : InstanceDescriptor)
  | destroyInstance (inst : String)
  | createDevice (name inst : String) (adapter : AdapterHandle) (what : DeviceDescriptor)
  | releaseDevice (device : String)
  | destroyDevice (device : String)
  /-- Whether a device is alive. -/
  | probeDevice (device : String)
  /-- All that an instance says about itself and an adapter. -/
  | survey (inst : String) (adapter : AdapterHandle)
  | registerCallbacks (name inst : String)
  | unregisterCallbacks (inst callbacks : String)
  | createBuffer (name device : String) (size : UInt64) (usage : UInt32)
  | destroyBuffer (device buffer : String)
  /-- Makes a pipeline; the buffers that it binds are given by name. -/
  | createPipeline (name device : String) (what : PipelineDescriptor String)
  | destroyPipeline (device pipeline : String)
  | createBatch (name device : String) (family timestamps : UInt32)
  | destroyBatch (device batch : String)

/-- An operation of a session. `m` is always the name of a manager, and `name` that of what an
operation makes or looks at. -/
inductive Operation
  | createManager (m : String) (config : Config) (selection : Selection)
  /-- Makes a manager on an instance and a device that are kept. -/
  | borrow (m inst device : String) (adapter : AdapterHandle) (families : List UInt32)
    (config : Config)
  /-- Keeps the instance and the device of a manager under a name, as far as it has them. -/
  | keepHandles (m name : String)
  | describeManager (m : String)
  | properties (m : String)
  | adapters (m : String)
  | counts (m : String)
  | clear (m : String)
  | destroyManager (m : String)
  | dropManager (m : String)
  | tensor (m name : String) (data : Elements)
  | tensorOfBytes (m name : String) (bytes : List UInt8) (count size : UInt64)
    (dataType : DataType)
  | readElements (name : String) (type : ElementType)
  | writeElements (name : String) (data : Elements)
  | readBytes (name : String)
  | setDescriptorType (name : String) (type : DescriptorType)
  /-- Makes an algorithm for the default workgroup. -/
  | algorithm (m name : String) (tensors : List String) (code : List UInt32)
  | algorithmWith (m name : String) (tensors : List String) (code : List UInt32)
    (workgroup : Extent) (pushConstants : List UInt8)
  /-- Holds a tensor that an algorithm binds. -/
  | holdBound (name algorithm : String) (position : Nat)
  | sequence (m name : String) (queue : UInt64) (timestamps : UInt32)
  | describe (name : String)
  | destroy (name : String)
  /-- Holds under `name` what `holder` holds. -/
  | share (name holder : String)
  | drop (name : String)
  | call (c : DriverCall)

/-- What an instance says about itself and an adapter. -/
structure Survey where
  families : List QueueFamily
  properties : DeviceProperties
  extensions : List String
  instanceExtensions : List String
  instanceLayers : List String

/-- What a session answers. -/
inductive Reply (d : Driver)
  /-- Nothing of the kind asked for has the name. -/
  | unknown (name : String)
  /-- A manager was made. -/
  | manager (families : List UInt32) (queues : Nat)
  /-- Whether an instance and a device were kept. -/
  | kept (inst device : Bool)
  /-- A manager and its text. -/
  | managerState (m : Manager d) (text : String)
  | properties (p : DeviceProperties)
  | adapters (l : List AdapterHandle)
  | counts (c : TrackedCounts)
  | dropped
  | created
  | done
  | elements (data : Elements)
  | bytes (l : List UInt8)
  | descriptorType (type : DescriptorType)
  | tensorState (t : Tensor d)
  /-- An algorithm, and for each bound tensor whether its buffer is still there. -/
  | algorithmState (a : Algorithm d) (tensorsInit : List Bool)
  | sequenceState (s : Sequence d)
  /-- Whether what a resource has on its device is still there. -/
  | isInit (b : Bool)
  /-- Whether a device is alive. -/
  | isAlive (b : Bool)
  | survey (s : Survey)

end GpuCompute
