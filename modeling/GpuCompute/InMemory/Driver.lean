import GpuCompute.Config
import GpuCompute.Driver
import GpuCompute.Script

/-!
# A driver in memory

A driver without a device behind it. It hands out numbers as handles, from one counter for all kinds
of objects, and records the calls made to it. A script says which calls fail; a call that fails hands
out nothing and, unless it only asks a question, is not recorded.
-/

namespace GpuCompute.InMemory

/-- The calls that may fail. -/
inductive Fallible
  | instanceExtensions
  | instanceLayers
  | createInstance
  | registerCallbacks
  | enumerateAdapters
  | deviceExtensions
  | createDevice
  | createBuffer
  | createPipeline
  | createBatch
  deriving DecidableEq

namespace Fallible

/-- Every call that may fail. -/
def all : List Fallible :=
  [.instanceExtensions, .instanceLayers, .createInstance, .registerCallbacks, .enumerateAdapters,
    .deviceExtensions, .createDevice, .createBuffer, .createPipeline, .createBatch]

/-- The name by which scripts and errors speak of a call. -/
def name : Fallible → String
  | .instanceExtensions => "instance_extensions"
  | .instanceLayers => "instance_layers"
  | .createInstance => "create_instance"
  | .registerCallbacks => "register_debug_callbacks"
  | .enumerateAdapters => "enumerate_physical_devices"
  | .deviceExtensions => "device_extensions"
  | .createDevice => "create_device"
  | .createBuffer => "create_buffer"
  | .createPipeline => "create_pipeline"
  | .createBatch => "create_command_batch"

end Fallible

/-- How a call fails. -/
inductive Failure
  | result (code : Vulkan.ResultCode)
  | allocation (text : String)

/-- The error with which a call fails. -/
def Failure.error (f : Failure) (call : Fallible) : Error :=
  match f with
  | .result code => .vulkan call.name code
  | .allocation text => .allocation (.other text)

/-- A recorded call, with the handle it handed out. -/
inductive Event
  | instanceExtensions
  | instanceLayers
  | createInstance (id : Nat) (what : InstanceDescriptor)
  | registerCallbacks (inst : Nat)
  | unregisterCallbacks (inst callbacks : Nat)
  | destroyInstance (id : Nat)
  | enumerateAdapters (inst : Nat)
  | deviceExtensions (inst : Nat) (adapter : AdapterHandle)
  | createDevice (id inst : Nat) (adapter : AdapterHandle) (what : DeviceDescriptor)
  | getQueue (device : Nat) (family index : UInt32)
  | releaseDevice (id : Nat)
  | destroyDevice (id : Nat)
  | createBuffer (id device : Nat) (size : UInt64) (usage : UInt32)
  | destroyBuffer (device id : Nat)
  | createPipeline (id device : Nat) (what : PipelineDescriptor Nat)
  | destroyPipeline (device id : Nat)
  | createBatch (id device : Nat) (family timestamps : UInt32)
  | destroyBatch (device id : Nat)
  deriving DecidableEq

/-- An adapter on offer. -/
structure AdapterOffer where
  properties : DeviceProperties
  families : List QueueFamily := []
  extensions : List String := []

/-- What the driver offers. Adapters have the handles 1, 2, … in order. -/
structure Offer where
  adapters : List AdapterOffer := []
  instanceExtensions : List String := []
  instanceLayers : List String := []

/-- The properties of an adapter of which at most the name is told. -/
def plainProperties (name : Option String) (adapter : AdapterHandle) : DeviceProperties where
  name := name.getD "unknown"
  kind := .discrete
  vendorId := 4318
  deviceId := adapter.toUInt32
  apiVersion := packVersion 0 1 2 0
  driverVersion := 1
  maxComputeSharedMemorySize := 49152
  maxComputeWorkGroupInvocations := 1024
  maxComputeWorkGroupCount := ⟨65535, 65535, 65535⟩
  maxPushConstantsSize := 128
  timestampPeriod := 0x3F800000

/-- The adapter with a handle; a handle that is not on offer stands for one that can do nothing. -/
def Offer.adapter (o : Offer) (h : AdapterHandle) : AdapterOffer :=
  let unknown : AdapterOffer := { properties := plainProperties none h }
  if h = 0 then unknown else o.adapters[h.toNat - 1]?.getD unknown

/-- What the driver keeps. -/
structure State where
  offer : Offer
  script : Script Fallible Failure := {}
  /-- The next handle. -/
  next : Nat := 1
  /-- The recorded calls, the oldest first. -/
  events : List Event := []
  /-- The devices that were released or destroyed. -/
  ended : List Nat := []

namespace State

/-- Records a call. -/
def note (event : Event) (s : State) : State := { s with events := s.events ++ [event] }

/-- Marks a device as no longer alive. -/
def finish (device : Nat) (s : State) : State := { s with ended := device :: s.ended }

/-- Whether a device was neither released nor destroyed. -/
def isAlive (device : Nat) (s : State) : Bool := !s.ended.contains device

end State

/-- Lets the script decide whether a call fails. -/
def consult (call : Fallible) : Act State Unit := fun e =>
  let (failure, script) := e.driver.script.ask call
  let e := e.onDriver fun s => { s with script }
  match failure with
  | none => .ok () e
  | some f => .error (f.error call) e

/-- Records a call that cannot fail. -/
def note (event : Event) (e : Env State) : Env State := e.onDriver (.note event)

/-- A question, which is recorded even when it fails. -/
def query {α : Type} (call : Fallible) (event : Event) (answer : Offer → α) : Act State α := do
  modify (note event)
  consult call
  return answer (← get).driver.offer

/-- Makes an object and hands out its number. -/
def make (call : Fallible) (event : Nat → Event) : Act State Nat := do
  consult call
  modifyGet fun e =>
    let id := e.driver.next
    (id, e.onDriver fun s => { s.note (event id) with next := id + 1 })

/-- The driver in memory. -/
def driver : Driver where
  State := State
  Instance := Nat
  Device := Nat
  Callbacks := Nat
  Buffer := Nat
  Pipeline := Nat
  Batch := Nat
  instanceExtensions := query .instanceExtensions .instanceExtensions (·.instanceExtensions)
  instanceLayers := query .instanceLayers .instanceLayers (·.instanceLayers)
  createInstance what := make .createInstance fun id => .createInstance id what
  registerCallbacks inst := do
    consult .registerCallbacks
    modify (note (.registerCallbacks inst))
    return inst
  unregisterCallbacks inst callbacks := note (.unregisterCallbacks inst callbacks)
  destroyInstance inst := note (.destroyInstance inst)
  adapters inst := query .enumerateAdapters (.enumerateAdapters inst) fun o =>
    (List.range o.adapters.length).map fun i => UInt64.ofNat (i + 1)
  properties _ adapter e := ((e.driver.offer.adapter adapter).properties, e)
  queueFamilies _ adapter e := ((e.driver.offer.adapter adapter).families, e)
  deviceExtensions inst adapter :=
    query .deviceExtensions (.deviceExtensions inst adapter) fun o => (o.adapter adapter).extensions
  createDevice inst adapter what :=
    make .createDevice fun id => .createDevice id inst adapter what
  queue device family index e :=
    (Queue.handle device family index, note (.getQueue device family index) e)
  releaseDevice device e := e.onDriver fun s => (s.note (.releaseDevice device)).finish device
  isAlive device s := s.isAlive device
  destroyDevice device e := e.onDriver fun s => (s.note (.destroyDevice device)).finish device
  createBuffer device size usage :=
    make .createBuffer fun id => .createBuffer id device size usage
  destroyBuffer device buffer := note (.destroyBuffer device buffer)
  createPipeline device what := make .createPipeline fun id => .createPipeline id device what
  destroyPipeline device pipeline := note (.destroyPipeline device pipeline)
  createBatch device family timestamps :=
    make .createBatch fun id => .createBatch id device family timestamps
  destroyBatch device batch := note (.destroyBatch device batch)

end GpuCompute.InMemory
