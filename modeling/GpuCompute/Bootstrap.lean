import GpuCompute.Config
import GpuCompute.Driver
import GpuCompute.Negotiation

/-!
# Bringing up instances and devices

All that a new instance and a new device are to have is negotiated before they are made. When a step
fails, what was made before it is taken down again and the error stays.
-/

namespace GpuCompute.Bootstrap

variable (d : Driver)

/-- The two extensions by which validation layers report. -/
def debugExtensions : List String := ["VK_EXT_debug_report", "VK_EXT_debug_utils"]

/-- The extension by which shaders print through a validation layer. -/
def shaderPrintExtension : String := "VK_KHR_shader_non_semantic_info"

/-- The instance extensions that a configuration asks for. -/
def wantedInstanceExtensions (config : Config) : List String :=
  if config.diagnostics then debugExtensions else []

/-- The device extensions that a selection and a configuration ask for, each once. -/
def wantedDeviceExtensions (config : Config) (selection : Selection) : List String :=
  Capability.distinct
    (selection.extensions ++ if config.diagnostics then [shaderPrintExtension] else [])

/-- Negotiates validation layers, if diagnostics are on. Layers of a device are matched against those
of the instance. -/
def layers (config : Config) (kind : CapabilityKind) (announcement : String)
    (wanted : List String) : Act d.State (List String) := do
  if config.diagnostics then
    Act.debug announcement [("layers", Error.quotedList wanted)]
    Negotiation.run kind wanted (← d.instanceLayers)
  else
    return []

/-! ## Instances -/

/-- An instance and its callbacks, which it has if diagnostics are on. -/
structure InstanceParts where
  inst : d.Instance
  callbacks : Option d.Callbacks

/-- What a new instance is to be. -/
def instanceDescriptor (config : Config) (extensions layers : List String) :
    InstanceDescriptor where
  applicationName := config.applicationName
  applicationVersion := config.applicationVersion
  apiVersion := config.apiVersion
  extensions
  layers
  debugPrintf := config.diagnostics && !layers.isEmpty

/-- Negotiates what a new instance is to be. -/
def describeInstance (config : Config) : Act d.State InstanceDescriptor := do
  Act.debug "creating instance"
  let extensions ← Negotiation.run .instanceExtensions (wantedInstanceExtensions config)
    (← d.instanceExtensions)
  let layers ← layers d config .instanceLayers "requesting instance validation layers"
    config.instanceLayers
  return instanceDescriptor config extensions layers

/-- Makes an instance, with callbacks if diagnostics are on. -/
def createInstance (config : Config) : Act d.State (InstanceParts d) := do
  let inst ← d.createInstance (← describeInstance d config)
  Act.debug "instance created"
  if config.diagnostics then
    let callbacks ← Attempt.undoing (d.destroyInstance inst) (d.registerCallbacks inst)
    return { inst, callbacks := some callbacks }
  else
    return { inst, callbacks := none }

/-- Takes a new instance down again. -/
def destroyInstance (parts : InstanceParts d) (e : Env d.State) : Env d.State :=
  let e := match parts.callbacks with
    | some callbacks => d.unregisterCallbacks parts.inst callbacks e
    | none => e
  d.destroyInstance parts.inst e

/-! ## Devices -/

/-- A device and what belongs to it. -/
structure DeviceParts where
  adapter : AdapterHandle
  device : d.Device
  families : List UInt32
  queues : List Queue.Handle

/-- The adapter at an index. -/
def adapterAt (adapters : List AdapterHandle) (index : UInt64) : Except Error AdapterHandle :=
  match adapters[index.toNat]? with
  | some adapter => .ok adapter
  | none =>
    if adapters.isEmpty then .error .noAdapter
    else .error (.invalidAdapterIndex index.toNat adapters.length)

/-- The queue family of each queue: as selected, and if nothing is selected the first family that
runs compute work. -/
def families (inst : d.Instance) (adapter : AdapterHandle) (name : String)
    (selection : Selection) : Act d.State (List UInt32) := do
  if selection.families.isEmpty then
    match firstComputeFamily? (← Attempt.ofState (d.queueFamilies inst adapter)) with
    | some family => return [family]
    | none => throw (.noComputeQueue name)
  else
    return selection.families

/-- Fetches one queue for each entry of a list of families, each at the next index of its family. -/
def fetchFrom (device : d.Device) :
    Queue.Counters → List UInt32 → Env d.State → List Queue.Handle × Env d.State
  | _, [], e => ([], e)
  | counters, family :: rest, e =>
    let (index, counters) := counters.draw family
    let (queue, e) := d.queue device family index e
    let (queues, e) := fetchFrom device counters rest e
    (queue :: queues, e)

/-- Fetches one queue for each entry of a list of families. -/
def fetchQueues (device : d.Device) (families : List UInt32) (e : Env d.State) :
    List Queue.Handle × Env d.State := fetchFrom d device [] families e

/-- What a new device is to be: its adapter, the family of each queue, and what it is made with. -/
structure DevicePlan where
  adapter : AdapterHandle
  families : List UInt32
  descriptor : DeviceDescriptor

/-- Chooses an adapter and queue families and negotiates what a new device is to be. -/
def describeDevice (inst : d.Instance) (config : Config) (selection : Selection) :
    Act d.State DevicePlan := do
  Act.debug "creating device"
  let adapter ← Attempt.ofExcept (adapterAt (← d.adapters inst) selection.adapterIndex)
  let properties ← Attempt.ofState (d.properties inst adapter)
  Act.info "using physical device"
    [("index", toString selection.adapterIndex.toNat), ("name", properties.name)]
  let families ← families d inst adapter properties.name selection
  let extensions ← Negotiation.run .deviceExtensions (wantedDeviceExtensions config selection)
    (← d.deviceExtensions inst adapter)
  let layers ← layers d config .deviceLayers "requesting device validation layers"
    config.deviceLayers
  return { adapter, families,
           descriptor := { queues := Queue.requests families, extensions, layers } }

/-- Makes a device and fetches its queues. -/
def createDevice (inst : d.Instance) (config : Config) (selection : Selection) :
    Act d.State (DeviceParts d) := do
  let plan ← describeDevice d inst config selection
  let device ← d.createDevice inst plan.adapter plan.descriptor
  Act.debug "device created"
  let queues ← Attempt.ofState (fetchQueues d device plan.families)
  Act.debug "compute queues obtained" [("count", toString queues.length)]
  return { adapter := plan.adapter, device, families := plan.families, queues }

end GpuCompute.Bootstrap
