import GpuCompute.Proofs.Events
import GpuCompute.Vulkan.Api

/-!
# Things of the API

What the Vulkan API hands out, and how calls are read: which thing a call makes, on which other things
this one rests, which things a call ends and which ones appear in it. Blocks of device memory are left
out: the allocator handles them.
-/

namespace GpuCompute.Vulkan

/-- A thing that the API hands out, by its handle. -/
inductive Thing
  | inst (handle : Nat)
  | report (handle : Nat)
  | messenger (handle : Nat)
  | device (handle : Nat)
  | object (kind : ObjectKind) (handle : Nat)
  | descriptorSet (handle : Nat)
  | commandBuffer (handle : Nat)
  deriving DecidableEq

namespace Creation

/-- What is made, given the handle that it gets. -/
def product (handle : Nat) : Creation → Thing
  | .buffer .. => .object .buffer handle
  | .shaderModule .. => .object .shaderModule handle
  | .setLayout .. => .object .setLayout handle
  | .descriptorPool .. => .object .descriptorPool handle
  | .descriptorSets .. => .descriptorSet handle
  | .pipelineLayout .. => .object .pipelineLayout handle
  | .computePipeline .. => .object .pipeline handle
  | .commandPool .. => .object .commandPool handle
  | .commandBuffers .. => .commandBuffer handle
  | .fence .. => .object .fence handle
  | .queryPool .. => .object .queryPool handle

/-- The pool from which something is made. -/
def pool? : Creation → Option Thing
  | .descriptorSets pool _ => some (.object .descriptorPool pool)
  | .commandBuffers pool .. => some (.object .commandPool pool)
  | _ => none

/-- The things with which something is made, apart from its device. -/
def uses : Creation → List Thing
  | .descriptorSets pool layouts =>
    .object .descriptorPool pool :: layouts.map (.object .setLayout)
  | .pipelineLayout setLayouts _ => setLayouts.map (.object .setLayout)
  | .computePipeline _ code _ layout =>
    [.object .shaderModule code, .object .pipelineLayout layout]
  | .commandBuffers pool .. => [.object .commandPool pool]
  | _ => []

end Creation

namespace Request

/-- What a call makes, given the handle that it hands out. -/
def product? (handle : Nat) : Request → Option Thing
  | .createInstance _ => some (.inst handle)
  | .createDebugReport .. => some (.report handle)
  | .createMessenger .. => some (.messenger handle)
  | .createDevice .. => some (.device handle)
  | .create _ what => some (what.product handle)
  | _ => none

/-- What a thing that a call makes rests on: it can only be used as long as these exist. -/
def parents : Request → List Thing
  | .createDebugReport inst _ | .createMessenger inst .. | .createDevice inst .. => [.inst inst]
  | .create device what => .device device :: what.pool?.toList
  | _ => []

/-- What a call ends. -/
def ends : Request → List Thing
  | .destroyInstance inst => [.inst inst]
  | .destroyDebugReport _ callback => [.report callback]
  | .destroyMessenger _ messenger => [.messenger messenger]
  | .destroyDevice device => [.device device]
  | .destroy _ kind object => [.object kind object]
  | .freeCommandBuffers _ _ buffers => buffers.map .commandBuffer
  | _ => []

/-- The things that appear in a call. -/
def uses : Request → List Thing
  | .enumerateInstanceExtensions | .enumerateInstanceLayers | .createInstance _ => []
  | .destroyInstance inst | .createDebugReport inst _ | .createMessenger inst ..
  | .enumerateAdapters inst | .adapterProperties inst _ | .adapterFamilies inst _
  | .adapterMemory inst _ | .enumerateDeviceExtensions inst _ | .createDevice inst .. =>
    [.inst inst]
  | .destroyDebugReport inst callback => [.inst inst, .report callback]
  | .destroyMessenger inst messenger => [.inst inst, .messenger messenger]
  | .getQueue device .. | .waitIdle device | .destroyDevice device | .allocateMemory device
  | .freeMemory device | .mapMemory device | .unmapMemory device => [.device device]
  | .create device what => .device device :: what.uses
  | .destroy device kind object => [.device device, .object kind object]
  | .bufferRequirements device buffer | .bindBuffer device buffer =>
    [.device device, .object .buffer buffer]
  | .updateDescriptorSets device writes => .device device :: writes.flatMap fun w =>
    .descriptorSet w.set :: w.buffers.map fun b => .object .buffer b.buffer
  | .freeCommandBuffers device pool buffers =>
    .device device :: .object .commandPool pool :: buffers.map .commandBuffer

end Request

/-- The handle that a call handed out, also when it failed. -/
def Outcome.handle? : Outcome → Option Nat
  | .made id | .failedWith id _ => some id
  | .done | .failed _ => none

/-- What a call made. -/
def Event.made? (e : Event) : Option Thing := e.outcome.handle?.bind fun id => e.request.product? id

/-- How calls of the API are read. -/
def reading : Reading Event Thing where
  made? _ e := e.made?
  ends e := e.request.ends

/-- What a thing is for. -/
def Thing.role : Thing → Role
  | .inst _ => .inst
  | .report _ | .messenger _ => .callbacks
  | .device _ => .device
  | .object .. | .descriptorSet _ | .commandBuffer _ => .object

end GpuCompute.Vulkan
