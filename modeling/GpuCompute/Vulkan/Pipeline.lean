import GpuCompute.Vulkan.Site

/-!
# Compute pipelines

A compute pipeline is made of six objects: the module of its code, the layout of its descriptor set,
a pool with room for exactly that set, the set, the pipeline's layout, and the pipeline itself. They
are made in this order; when one cannot be made, those before it are destroyed, the last one first, as
they are when the whole pipeline is destroyed.
-/

namespace GpuCompute.Vulkan

/-- The objects of a compute pipeline. The null handle is in the place of one that is not there. -/
structure Pipeline where
  shaderModule : Nat := 0
  setLayout : Nat := 0
  descriptorPool : Nat := 0
  descriptorSet : Nat := 0
  layout : Nat := 0
  pipeline : Nat := 0
  deriving DecidableEq

namespace Pipeline

/-- The bit of the compute stage. -/
def computeStage : UInt32 := 0x20

/-- The function at which a module starts. -/
def entryPoint : String := "main"

/-- The layout of the descriptor set: one binding for each entry, numbered in order. -/
def layoutBindings {β : Type} (bindings : List (Binding β)) : List LayoutBinding :=
  bindings.zipIdx.map fun entry =>
    ⟨.ofNat entry.2, entry.1.descriptorType, 1, computeStage⟩

/-- Pool sizes with one more descriptor of a type. -/
def addSize (type : DescriptorType) : List PoolSize → List PoolSize
  | [] => [⟨type, 1⟩]
  | s :: ss => if s.type = type then { s with count := s.count + 1 } :: ss else s :: addSize type ss

/-- The sizes of the descriptor pool: for each type as many descriptors as bindings have it. -/
def poolSizes {β : Type} (bindings : List (Binding β)) : List PoolSize :=
  bindings.foldl (fun sizes b => addSize b.descriptorType sizes) []

/-- The writes that connect a descriptor set with buffers. -/
def writes (set : Nat) (bindings : List (Binding Nat)) : List DescriptorWrite :=
  bindings.zipIdx.map fun entry =>
    ⟨set, .ofNat entry.2, entry.1.descriptorType, [⟨entry.1.buffer, 0, max entry.1.size 1⟩]⟩

/-- The push constants of the layout; none if they take no bytes. -/
def pushRanges (size : UInt32) : List PushRange :=
  if size = 0 then [] else [⟨computeStage, 0, size⟩]

/-- Makes the objects of a pipeline one after the other. -/
def build (device : Nat) (what : PipelineDescriptor Nat) : Attempt (Site Pipeline) Unit := do
  let make (what : Creation) : Attempt Api Nat := Api.make (.create device what)
  Site.fill (fun p shaderModule => { p with shaderModule }) fun _ => make (.shaderModule what.code)
  Site.fill (fun p setLayout => { p with setLayout }) fun _ =>
    make (.setLayout (layoutBindings what.bindings))
  Site.fill (fun p descriptorPool => { p with descriptorPool }) fun _ =>
    make (.descriptorPool 1 (poolSizes what.bindings))
  Site.fill (fun p descriptorSet => { p with descriptorSet }) fun p =>
    make (.descriptorSets p.descriptorPool [p.setLayout])
  Site.call fun p => .updateDescriptorSets device (writes p.descriptorSet what.bindings)
  Site.fill (fun p layout => { p with layout }) fun p =>
    make (.pipelineLayout [p.setLayout] (pushRanges what.pushConstantSize))
  Site.fill (fun p pipeline => { p with pipeline }) fun p =>
    Api.makePipeline device (.computePipeline computeStage p.shaderModule entryPoint p.layout)

/-- The places for objects that are destroyed one by one, in the reverse of the order in which they are
made. The set goes with its pool. -/
def objects (p : Pipeline) : List (ObjectKind × Nat) :=
  [(.pipeline, p.pipeline), (.pipelineLayout, p.layout), (.descriptorPool, p.descriptorPool),
    (.setLayout, p.setLayout), (.shaderModule, p.shaderModule)]

/-- Destroys those objects of a pipeline that are there. -/
def destroy (device : Nat) (p : Pipeline) (a : Api) : Api :=
  p.objects.foldl (fun a object => a.destroyObject device object.1 object.2) a

/-- Makes a pipeline. -/
def create (device : Nat) (what : PipelineDescriptor Nat) : Attempt Api Pipeline :=
  assemble {} (destroy device) (build device what)

/-- The text of a pipeline. -/
def debug (p : Pipeline) : String :=
  Text.showRecord "VulkanPipeline"
    [("shader_module", Text.showHandle p.shaderModule),
      ("descriptor_set_layout", Text.showHandle p.setLayout),
      ("descriptor_pool", Text.showHandle p.descriptorPool),
      ("descriptor_set", Text.showHandle p.descriptorSet),
      ("pipeline_layout", Text.showHandle p.layout), ("pipeline", Text.showHandle p.pipeline)]

end Pipeline

end GpuCompute.Vulkan
