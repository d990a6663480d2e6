import GpuCompute.Tensor

/-!
# Algorithms

A compute pipeline bound to a list of tensors. Tensors are given by number; `find?` says which
tensor a number stands for. A request is checked before the driver is asked, and the first fault in
the order of `Algorithm.request` decides.
-/

namespace GpuCompute

/-- A pipeline and the tensors that it binds. -/
structure Algorithm (d : Driver) where
  /-- The numbers of the bound tensors, in order. -/
  tensors : List Nat
  workgroup : Extent
  pushConstants : List UInt8
  pipeline : Slot d d.Pipeline

/-- The first position of a list at which an earlier entry stands again. -/
def firstRepeat? (l : List Nat) : Option Nat :=
  (l.zipIdx.find? fun entry => (l.take entry.2).contains entry.1).map (·.2)

namespace Algorithm

variable {d : Driver}

/-- What the slots of tensors hold, in order; the first one without a buffer is an error. The tensors
start at a position of the list of all bound tensors. -/
def guards (find? : Nat → Option (Tensor d)) :
    (position : Nat) → List Nat → Except StateFault (List (Option d.Buffer))
  | _, [] => .ok []
  | position, t :: ts =>
    match (find? t).bind (·.buffer.object) with
    | none => .error (.boundDestroyed position)
    | some buffer => (guards find? (position + 1) ts).map (some buffer :: ·)

/-- The bindings of tensors by what their slots hold. -/
def bindings (find? : Nat → Option (Tensor d)) (guards : List (Option d.Buffer))
    (tensors : List Nat) : List (Binding d.Buffer) :=
  (guards.zip tensors).filterMap fun (guard, t) =>
    guard.bind fun buffer => (find? t).map (·.binding buffer)

/-- The pipeline that a request asks for, or the first fault of the request. -/
def request (find? : Nat → Option (Tensor d)) (tensors : List Nat) (code : List UInt32)
    (workgroup : Extent) (pushConstants : List UInt8) :
    Except StateFault (PipelineDescriptor d.Buffer) :=
  if code.isEmpty then .error .emptyModule
  else if tensors.isEmpty then .error .noTensors
  else match firstRepeat? tensors with
    | some position => .error (.boundTwice position)
    | none =>
      if workgroup.toList.contains 0 then .error (.zeroDimension workgroup)
      else (guards find? 0 tensors).map fun guards =>
        { code, bindings := bindings find? guards tensors,
          pushConstantSize := .ofNat pushConstants.length }

/-- Makes an algorithm. -/
def create (device : d.Device) (find? : Nat → Option (Tensor d)) (tensors : List Nat)
    (code : List UInt32) (workgroup : Extent) (pushConstants : List UInt8) :
    Act d.State (Algorithm d) := do
  let descriptor ← Attempt.ofExcept
    ((request find? tensors code workgroup pushConstants).mapError .invalidState)
  let pipeline ← d.createPipeline device descriptor
  Act.debug "algorithm created"
    [("tensors", toString tensors.length), ("workgroup", workgroup.text)]
  return { tensors, workgroup, pushConstants, pipeline := { device, object := some pipeline } }

/-- The workgroup for a number of elements: one invocation for each along the first axis, and at
least one. -/
def defaultWorkgroup (elements : UInt64) : Except Error Extent :=
  if elements.toNat < UInt32.size then .ok ⟨.ofNat (max 1 elements.toNat), 1, 1⟩
  else .error (.invalidState (.tooManyElements elements))

/-- Whether the pipeline is still there. -/
def isInit (a : Algorithm d) : Bool := a.pipeline.isInit

/-- How pipelines are destroyed. -/
def disposal : Disposal d d.Pipeline where
  destroy := d.destroyPipeline
  destroyed := { level := .debug, message := "algorithm destroyed" }
  abandoned :=
    { level := .warn,
      message := "algorithm outlived its device; pipeline left to the device owner" }

/-- Destroys the pipeline, if it is still there. -/
def destroy (a : Algorithm d) (e : Env d.State) : Algorithm d × Env d.State :=
  let (pipeline, e) := a.pipeline.release disposal e
  ({ a with pipeline }, e)

/-- The text of an algorithm. -/
def debug (a : Algorithm d) : String :=
  Text.showRecord "Algorithm"
    [("tensors", toString a.tensors.length), ("workgroup", a.workgroup.text),
      ("push_constants", toString a.pushConstants.length), ("init", Text.showBool a.isInit)]

end Algorithm

end GpuCompute
