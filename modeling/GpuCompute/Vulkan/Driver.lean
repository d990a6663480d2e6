import GpuCompute.Vulkan.CommandBatch
import GpuCompute.Vulkan.Memory
import GpuCompute.Vulkan.Pipeline

/-!
# The Vulkan driver

The driver that works through the Vulkan API and a library that manages memory. It keeps an allocator
for each device it was given, and a device is alive as long as its allocator exists.
-/

namespace GpuCompute.Vulkan

/-- What the driver keeps: the API, and the allocators by number. An allocator that was closed leaves
its place vacant. -/
structure State where
  api : Api
  allocators : List (Option Allocator) := []

/-- A device, with the number of the allocator that serves it. -/
structure Device where
  handle : Nat
  allocator : Nat
  deriving DecidableEq

/-- Callbacks registered with both mechanisms. -/
structure Callbacks where
  report : Nat
  messenger : Nat
  deriving DecidableEq

/-- A buffer and the memory it is bound to. -/
structure Buffer where
  handle : Nat
  allocation : Allocation
  deriving DecidableEq

/-- The text of a device. -/
def Device.debug (d : Device) : String :=
  Text.showRecord "VulkanDevice" [("handle", Text.showHandle d.handle)] true

/-- The text of the driver. -/
def debug : String := Text.showRecord "VulkanDriver" [] true

/-! ## Parts of the state -/

namespace State

/-- Changes the API. -/
def onApi (f : Api → Api) (s : State) : State := { s with api := f s.api }

/-- The allocator of a device, unless it was closed. -/
def allocator? (device : Device) (s : State) : Option Allocator :=
  s.allocators[device.allocator]?.join

/-- Whether a device's allocator exists. -/
def isAlive (device : Device) (s : State) : Bool := (s.allocator? device).isSome

/-- Adds an allocator. -/
def addAllocator (a : Allocator) (s : State) : State :=
  { s with allocators := s.allocators ++ [some a] }

/-- Sets the allocator of a device. -/
def setAllocator (device : Device) (a : Option Allocator) (s : State) : State :=
  { s with allocators := s.allocators.set device.allocator a }

end State

/-- Runs an attempt on the API. -/
def withApi {α : Type} (act : Attempt Api α) : Act State α :=
  Attempt.within (·.driver.api) (fun e api => e.onDriver fun s => { s with api }) act

/-- Makes a call that cannot fail. -/
def call (request : Request) (e : Env State) : Env State := e.onDriver (.onApi (.call request))

/-- Asks the host by a call that may fail. -/
def query {α : Type} (request : Request) (answer : Host → α) : Act State α := do
  withApi (Api.invoke request)
  return answer (← get).driver.api.host

/-- Asks the host by a call that cannot fail. -/
def look {α : Type} (request : Request) (answer : Host → α) (e : Env State) : α × Env State :=
  (answer e.driver.api.host, call request e)

/-! ## Names -/

/-- Names that the API can be given: those without a zero character. -/
def checkNames (names : List String) : Except Error Unit :=
  match names.find? fun name => name.contains '\x00' with
  | some name => .error (.invalidState (.nulInName name))
  | none => .ok ()

/-- Texts of names. -/
def nameTexts (names : List (List UInt8)) : List String := names.map nameText

/-! ## Instances -/

/-- The validation feature by which shaders print. -/
def debugPrintfFeature : UInt32 := 3

/-- The kinds of reports that are asked for: all of them. -/
def reportFlags : UInt32 := 0x1F

/-- The severities of messages that are asked for: verbose ones, warnings and errors. -/
def messengerSeverity : UInt32 := 0x1101

/-- The types of messages that are asked for: all of them. -/
def messengerTypes : UInt32 := 7

/-- Makes an instance. -/
def createInstance (what : InstanceDescriptor) : Act State Nat := do
  if what.applicationName.contains '\x00' then
    throw (.invalidState .nulInApplicationName)
  Attempt.ofExcept (checkNames what.extensions)
  Attempt.ofExcept (checkNames what.layers)
  withApi (Api.make (.createInstance
    { name := what.applicationName
      version := what.applicationVersion
      apiVersion := what.apiVersion
      extensions := what.extensions
      layers := what.layers
      validationFeatures := if what.debugPrintf then some [debugPrintfFeature] else none }))

/-- Registers callbacks with both mechanisms, or with none of them. -/
def registerCallbacks (inst : Nat) : Act State Callbacks := withApi do
  let report ← Api.make (.createDebugReport inst reportFlags)
  Attempt.undoing (Api.call (.destroyDebugReport inst report)) do
  let messenger ← Api.make (.createMessenger inst messengerSeverity messengerTypes)
  return { report, messenger }

/-- Unregisters callbacks. -/
def unregisterCallbacks (inst : Nat) (c : Callbacks) (e : Env State) : Env State :=
  call (.destroyMessenger inst c.messenger) (call (.destroyDebugReport inst c.report) e)

/-! ## Devices -/

section

variable (M : MemoryLibrary)

/-- Gives a device an allocator. -/
def wrapDevice (inst : Nat) (adapter : AdapterHandle) (handle : Nat) : Act State Device := do
  let a ← withApi (M.newAllocator inst adapter handle)
  modifyGet fun e =>
    ({ handle, allocator := e.driver.allocators.length }, e.onDriver (.addAllocator a))

/-- The queues that requests ask for, all of the highest priority. -/
def queueInfos (requests : List Queue.Request) : List QueueInfo :=
  requests.map fun r => ⟨r.family, .replicate r.count.toNat 0x3F800000⟩

/-- Makes a device and has it wrapped. A device that cannot be wrapped is destroyed again. -/
def createDeviceWith (wrap : Nat → AdapterHandle → Nat → Act State Device) (inst : Nat)
    (adapter : AdapterHandle) (what : DeviceDescriptor) : Act State Device := do
  Attempt.ofExcept (checkNames what.extensions)
  Attempt.ofExcept (checkNames what.layers)
  let handle ← withApi (Api.make (.createDevice inst adapter
    ⟨queueInfos what.queues, what.extensions, what.layers⟩))
  Attempt.undoing (call (.destroyDevice handle)) (wrap inst adapter handle)

/-- Makes a device with an allocator. -/
def createDevice (inst : Nat) (adapter : AdapterHandle) (what : DeviceDescriptor) :
    Act State Device := createDeviceWith (wrapDevice M) inst adapter what

/-- Waits until a device has nothing to do. That this fails is only logged. -/
def waitIdle (device : Device) (e : Env State) : Env State :=
  match Attempt.outcome (withApi (Api.invoke (.waitIdle device.handle))) e with
  | (.error (.vulkan _ code), e) => e.write
      { level := .warn, message := "vkDeviceWaitIdle failed before releasing device memory",
        fields := [("error", code.label)] }
  | (_, e) => e

/-- Closes the allocator of a device. -/
def closeAllocator (device : Device) (s : State) : State :=
  match s.allocator? device with
  | none => s
  | some a => (s.onApi (M.close a)).setAllocator device none

/-- Lets go of a device: closes its allocator once the device is idle. -/
def releaseDevice (device : Device) (e : Env State) : Env State :=
  if e.driver.isAlive device then (waitIdle device e).onDriver (closeAllocator M device) else e

/-- Destroys a device. -/
def destroyDevice (device : Device) (e : Env State) : Env State :=
  call (.destroyDevice device.handle) (releaseDevice M device e)

/-! ## Buffers -/

/-- Finds memory for a buffer. -/
def allocate (device : Device) (r : Requirements) : Act State Allocation := fun e =>
  match e.driver.allocator? device with
  | none => .error (.invalidState .deviceDestroyed) e
  | some a =>
    match withApi (M.allocate r a) e with
    | .ok (allocation, a) e => .ok allocation (e.onDriver (.setAllocator device (some a)))
    | .error error e => .error error e

/-- Gives memory of a device back. -/
def free (device : Device) (allocation : Allocation) (s : State) : Except FreeFault State :=
  match s.allocator? device with
  | none => .ok s
  | some a => do
    let (a, api) ← M.free allocation a s.api
    return { s with api }.setAllocator device (some a)

/-- Destroys a buffer and then gives its memory back. Tells why that is not memory of the device. -/
def giveUpBuffer (device : Device) (b : Buffer) (e : Env State) : Option FreeFault × Env State :=
  let e := call (.destroy device.handle .buffer b.handle) e
  match free M device b.allocation e.driver with
  | .ok s => (none, { e with driver := s })
  | .error fault => (some fault, e)

/-- Destroys a buffer with its memory. That it is not memory of the device is only logged. -/
def discardBuffer (device : Device) (b : Buffer) (e : Env State) : Env State :=
  match giveUpBuffer M device b e with
  | (none, e) => e
  | (some fault, e) => e.write
      { level := .warn, message := "failed to free buffer allocation",
        fields := [("error", fault.message)] }

/-- Makes a buffer and binds it to memory. A buffer has at least one byte. -/
def createBuffer (device : Device) (size : UInt64) (usage : UInt32) : Act State Buffer := do
  if !(← get).driver.isAlive device then throw (.invalidState .deviceDestroyed)
  let size := max size 1
  let handle ← withApi (Api.make (.create device.handle (.buffer size usage 0)))
  modify (call (.bufferRequirements device.handle handle))
  let r := (← get).driver.api.host.memory.requirements size
  let allocation ←
    Attempt.undoing (call (.destroy device.handle .buffer handle)) (allocate M device r)
  let buffer : Buffer := { handle, allocation }
  Attempt.undoing (fun e => (giveUpBuffer M device buffer e).2)
    (withApi (Api.invoke (.bindBuffer device.handle handle)))
  return buffer

end

/-! ## What is left on dead devices -/

/-- Runs a destruction if a device is alive, and else logs that it is skipped. -/
def ifAlive (device : Device) (skipped : String) (act : Env State → Env State) (e : Env State) :
    Env State :=
  if e.driver.isAlive device then act e else e.write { level := .warn, message := skipped }

/-! ## The driver -/

/-- Makes a pipeline. -/
def createPipeline (device : Device) (what : PipelineDescriptor Buffer) : Act State Pipeline := do
  let bindings := what.bindings.map fun b => { b with buffer := b.buffer.handle }
  let pipeline ← withApi (Pipeline.create device.handle { what with bindings })
  Act.debug "compute pipeline created" [("bindings", toString what.bindings.length)]
  return pipeline

/-- The Vulkan driver, with a library that manages memory. -/
def driverOn (M : MemoryLibrary) : Driver where
  State := State
  Instance := Nat
  Device := Device
  Callbacks := Callbacks
  Buffer := Buffer
  Pipeline := Pipeline
  Batch := CommandBatch
  instanceExtensions := query .enumerateInstanceExtensions fun h => nameTexts h.instanceExtensions
  instanceLayers := query .enumerateInstanceLayers fun h => nameTexts h.instanceLayers
  createInstance := createInstance
  registerCallbacks := registerCallbacks
  unregisterCallbacks := unregisterCallbacks
  destroyInstance inst := call (.destroyInstance inst)
  adapters inst := query (.enumerateAdapters inst) Host.adapterHandles
  properties inst adapter := look (.adapterProperties inst adapter) fun h =>
    (h.adapter adapter).properties
  queueFamilies inst adapter := look (.adapterFamilies inst adapter) fun h =>
    (h.adapter adapter).families
  deviceExtensions inst adapter := query (.enumerateDeviceExtensions inst adapter) fun h =>
    nameTexts (h.adapter adapter).extensions
  createDevice := createDevice M
  queue device family index e :=
    (Queue.handle device.handle family index, call (.getQueue device.handle family index) e)
  releaseDevice := releaseDevice M
  isAlive device s := s.isAlive device
  destroyDevice := destroyDevice M
  createBuffer := createBuffer M
  destroyBuffer device buffer :=
    ifAlive device "buffer outlived its device; skipping vkDestroyBuffer"
      (discardBuffer M device buffer)
  createPipeline := createPipeline
  destroyPipeline device pipeline :=
    ifAlive device "pipeline outlived its device; skipping destruction" fun e =>
      e.onDriver (.onApi (pipeline.destroy device.handle))
  createBatch device family timestamps :=
    withApi (CommandBatch.create device.handle family timestamps)
  destroyBatch device batch :=
    ifAlive device "command batch outlived its device; skipping destruction" fun e =>
      e.onDriver (.onApi (batch.destroy device.handle))

/-- The Vulkan driver. -/
abbrev driver : Driver := driverOn .own

end GpuCompute.Vulkan
