import GpuCompute.Driver
import GpuCompute.Diagnostics
import GpuCompute.Script
import GpuCompute.Vulkan.Host

/-!
# The Vulkan API

Calls of the API with their arguments, how they end, and an implementation that a script drives. The
implementation hands out handles from one counter for all kinds of objects and keeps a trace of all
calls. A call fails when the script says so.
-/

namespace GpuCompute.Vulkan

/-! ## Calls -/

/-- What an instance is made with. Application and engine have the same name and version. -/
structure InstanceInfo where
  name : String
  version : UInt32
  apiVersion : UInt32
  extensions : List String
  layers : List String
  /-- The validation features that are turned on, if features are asked for at all. -/
  validationFeatures : Option (List UInt32)
  deriving DecidableEq

/-- Queues of a family, each with its priority as the bits of a 32-bit float. -/
structure QueueInfo where
  family : UInt32
  priorities : List UInt32
  deriving DecidableEq

/-- What a device is made with. -/
structure DeviceInfo where
  queues : List QueueInfo
  extensions : List String
  layers : List String
  deriving DecidableEq

/-- A binding of a descriptor set layout. -/
structure LayoutBinding where
  binding : UInt32
  type : DescriptorType
  count : UInt32
  stages : UInt32
  deriving DecidableEq

/-- How many descriptors of a type a pool has. -/
structure PoolSize where
  type : DescriptorType
  count : UInt32
  deriving DecidableEq

/-- A part of a buffer. -/
structure BufferRange where
  buffer : Nat
  offset : UInt64
  range : UInt64
  deriving DecidableEq

/-- A write of a descriptor. -/
structure DescriptorWrite where
  set : Nat
  binding : UInt32
  type : DescriptorType
  buffers : List BufferRange
  deriving DecidableEq

/-- Push constants that a pipeline layout has room for. -/
structure PushRange where
  stages : UInt32
  offset : UInt32
  size : UInt32
  deriving DecidableEq

/-- An object of a device that is destroyed by a call of its own. -/
inductive ObjectKind
  | buffer
  | shaderModule
  | setLayout
  | descriptorPool
  | pipelineLayout
  | pipeline
  | commandPool
  | fence
  | queryPool
  deriving DecidableEq

/-- What is to be made on a device. -/
inductive Creation
  | buffer (size : UInt64) (usage sharing : UInt32)
  | shaderModule (code : List UInt32)
  | setLayout (bindings : List LayoutBinding)
  | descriptorPool (maxSets : UInt32) (sizes : List PoolSize)
  | descriptorSets (pool : Nat) (layouts : List Nat)
  | pipelineLayout (setLayouts : List Nat) (pushConstants : List PushRange)
  | computePipeline (stage : UInt32) (module : Nat) (entry : String) (layout : Nat)
  | commandPool (family flags : UInt32)
  | commandBuffers (pool : Nat) (level count : UInt32)
  | fence (flags : UInt32)
  | queryPool (type count : UInt32)
  deriving DecidableEq

/-- A call of the API with its arguments. -/
inductive Request
  | enumerateInstanceExtensions
  | enumerateInstanceLayers
  | createInstance (info : InstanceInfo)
  | destroyInstance (inst : Nat)
  | createDebugReport (inst : Nat) (flags : UInt32)
  | destroyDebugReport (inst callback : Nat)
  | createMessenger (inst : Nat) (severity types : UInt32)
  | destroyMessenger (inst messenger : Nat)
  | enumerateAdapters (inst : Nat)
  | adapterProperties (inst : Nat) (adapter : AdapterHandle)
  | adapterFamilies (inst : Nat) (adapter : AdapterHandle)
  | adapterMemory (inst : Nat) (adapter : AdapterHandle)
  | enumerateDeviceExtensions (inst : Nat) (adapter : AdapterHandle)
  | createDevice (inst : Nat) (adapter : AdapterHandle) (info : DeviceInfo)
  | getQueue (device : Nat) (family index : UInt32)
  | waitIdle (device : Nat)
  | destroyDevice (device : Nat)
  | create (device : Nat) (what : Creation)
  | destroy (device : Nat) (kind : ObjectKind) (object : Nat)
  | bufferRequirements (device buffer : Nat)
  | bindBuffer (device buffer : Nat)
  | allocateMemory (device : Nat)
  | freeMemory (device : Nat)
  | mapMemory (device : Nat)
  | unmapMemory (device : Nat)
  | updateDescriptorSets (device : Nat) (writes : List DescriptorWrite)
  | freeCommandBuffers (device pool : Nat) (buffers : List Nat)
  deriving DecidableEq

/-- The name of the call that makes something on a device. -/
def Creation.name : Creation → String
  | .buffer .. => "vkCreateBuffer"
  | .shaderModule .. => "vkCreateShaderModule"
  | .setLayout .. => "vkCreateDescriptorSetLayout"
  | .descriptorPool .. => "vkCreateDescriptorPool"
  | .descriptorSets .. => "vkAllocateDescriptorSets"
  | .pipelineLayout .. => "vkCreatePipelineLayout"
  | .computePipeline .. => "vkCreateComputePipelines"
  | .commandPool .. => "vkCreateCommandPool"
  | .commandBuffers .. => "vkAllocateCommandBuffers"
  | .fence .. => "vkCreateFence"
  | .queryPool .. => "vkCreateQueryPool"

/-- The name of the call that destroys an object of a kind. -/
def ObjectKind.destroyName : ObjectKind → String
  | .buffer => "vkDestroyBuffer"
  | .shaderModule => "vkDestroyShaderModule"
  | .setLayout => "vkDestroyDescriptorSetLayout"
  | .descriptorPool => "vkDestroyDescriptorPool"
  | .pipelineLayout => "vkDestroyPipelineLayout"
  | .pipeline => "vkDestroyPipeline"
  | .commandPool => "vkDestroyCommandPool"
  | .fence => "vkDestroyFence"
  | .queryPool => "vkDestroyQueryPool"

/-- The name of a call, by which scripts and errors speak of it. -/
def Request.name : Request → String
  | .enumerateInstanceExtensions => "vkEnumerateInstanceExtensionProperties"
  | .enumerateInstanceLayers => "vkEnumerateInstanceLayerProperties"
  | .createInstance .. => "vkCreateInstance"
  | .destroyInstance .. => "vkDestroyInstance"
  | .createDebugReport .. => "vkCreateDebugReportCallbackEXT"
  | .destroyDebugReport .. => "vkDestroyDebugReportCallbackEXT"
  | .createMessenger .. => "vkCreateDebugUtilsMessengerEXT"
  | .destroyMessenger .. => "vkDestroyDebugUtilsMessengerEXT"
  | .enumerateAdapters .. => "vkEnumeratePhysicalDevices"
  | .adapterProperties .. => "vkGetPhysicalDeviceProperties"
  | .adapterFamilies .. => "vkGetPhysicalDeviceQueueFamilyProperties"
  | .adapterMemory .. => "vkGetPhysicalDeviceMemoryProperties"
  | .enumerateDeviceExtensions .. => "vkEnumerateDeviceExtensionProperties"
  | .createDevice .. => "vkCreateDevice"
  | .getQueue .. => "vkGetDeviceQueue"
  | .waitIdle .. => "vkDeviceWaitIdle"
  | .destroyDevice .. => "vkDestroyDevice"
  | .create _ what => what.name
  | .destroy _ kind _ => kind.destroyName
  | .bufferRequirements .. => "vkGetBufferMemoryRequirements"
  | .bindBuffer .. => "vkBindBufferMemory"
  | .allocateMemory .. => "vkAllocateMemory"
  | .freeMemory .. => "vkFreeMemory"
  | .mapMemory .. => "vkMapMemory"
  | .unmapMemory .. => "vkUnmapMemory"
  | .updateDescriptorSets .. => "vkUpdateDescriptorSets"
  | .freeCommandBuffers .. => "vkFreeCommandBuffers"

/-! ## The scripted implementation -/

/-- How a call ended. -/
inductive Outcome
  | done
  /-- It made an object and handed out its handle. -/
  | made (id : Nat)
  | failed (code : ResultCode)
  /-- It failed, but handed out the handle of an object all the same. -/
  | failedWith (id : Nat) (code : ResultCode)
  deriving DecidableEq

/-- A call and how it ended. -/
structure Event where
  request : Request
  outcome : Outcome
  deriving DecidableEq

/-- How a call fails. -/
structure Failure where
  code : ResultCode
  /-- Whether the call hands out an object all the same; only making a pipeline can do so. -/
  handsOut : Bool := false
  deriving DecidableEq

/-- The implementation. -/
structure Api where
  host : Host
  script : Script String Failure := {}
  /-- The handle that was handed out last. There is none at first: 0 is the null handle. -/
  issued : Nat := 0
  /-- All calls, the oldest first. -/
  trace : List Event := []

namespace Api

/-- The next handle. -/
def next (a : Api) : Nat := a.issued + 1

/-- Adds a call to the trace. -/
def note (request : Request) (outcome : Outcome) (a : Api) : Api :=
  { a with trace := a.trace ++ [⟨request, outcome⟩] }

/-- A call that cannot fail. -/
def call (request : Request) (a : Api) : Api := a.note request .done

/-- Lets the script decide whether a call fails. -/
def consult (request : Request) (a : Api) : Option Failure × Api :=
  let (failure, script) := a.script.ask request.name
  (failure, { a with script })

/-- A call that may fail; `fault` is the error that a result code stands for. -/
def check (request : Request) (fault : ResultCode → Error) : Attempt Api Unit := fun a =>
  match a.consult request with
  | (none, a) => .ok () (a.note request .done)
  | (some f, a) => .error (fault f.code) (a.note request (.failed f.code))

/-- A call that may fail and is named in its error. -/
def invoke (request : Request) : Attempt Api Unit := check request (.vulkan request.name)

/-- A call that makes an object and hands out its handle. -/
def make (request : Request) : Attempt Api Nat := fun a =>
  match a.consult request with
  | (none, a) => .ok a.next { a.note request (.made a.next) with issued := a.next }
  | (some f, a) => .error (.vulkan request.name f.code) (a.note request (.failed f.code))

/-- A call that makes a pipeline. When it fails and yet hands out a pipeline, that is destroyed. -/
def makePipeline (device : Nat) (what : Creation) : Attempt Api Nat := fun a =>
  let request := .create device what
  match a.consult request with
  | (none, a) => .ok a.next { a.note request (.made a.next) with issued := a.next }
  | (some f, a) =>
    let error := Error.vulkan request.name f.code
    if f.handsOut then
      let id := a.next
      let a := { a.note request (.failedWith id f.code) with issued := id }
      .error error (a.call (.destroy device .pipeline id))
    else .error error (a.note request (.failed f.code))

/-- Destroys an object of a device. The null handle stands for an object that is not there. -/
def destroyObject (device : Nat) (kind : ObjectKind) (object : Nat) (a : Api) : Api :=
  if object = 0 then a else a.call (.destroy device kind object)

/-- The callback of a mechanism that was registered last, unless it was destroyed since. -/
def callback? (mechanism : Diagnostics.Mechanism) (a : Api) : Option Nat :=
  a.trace.foldl (fun last event =>
    match mechanism, event with
    | .report, ⟨.createDebugReport .., .made id⟩ => some id
    | .report, ⟨.destroyDebugReport _ id, _⟩ => last.filter (· != id)
    | .utils, ⟨.createMessenger .., .made id⟩ => some id
    | .utils, ⟨.destroyMessenger _ id, _⟩ => last.filter (· != id)
    | _, _ => last) none

end Api

end GpuCompute.Vulkan
