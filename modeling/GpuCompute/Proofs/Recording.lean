import GpuCompute.Driver
import GpuCompute.Proofs.Attempt

/-!
# Recorded drivers

`d.recorded` does what the driver `d` does and writes down each call that it is asked to make, with
the arguments, and whether it succeeded. Every object that is handed out gets a number, the place in
the trace of the call that made it, so that two objects never have the same number, and copies of a
handle have the number of the original. What a program does to its driver can so be stated for all
drivers at once. The question whether a device is alive is not written down: it has no effect.
-/

namespace GpuCompute

/-! ## Traces -/

namespace Trace

/-- The kinds of objects that resources have on a device. -/
inductive Kind
  | buffer
  | pipeline
  | batch
  deriving DecidableEq

/-- What is to be made on a device. The buffers of a pipeline are given by number. -/
inductive Creation
  | buffer (size : UInt64) (usage : UInt32)
  | pipeline (what : PipelineDescriptor Nat)
  | batch (family timestamps : UInt32)
  deriving DecidableEq

/-- The kind of what is to be made. -/
def Creation.kind : Creation → Kind
  | .buffer .. => .buffer
  | .pipeline .. => .pipeline
  | .batch .. => .batch

/-- A call of a driver. Instances, devices, callbacks and objects are given by number. -/
inductive Request
  | instanceExtensions
  | instanceLayers
  | createInstance (what : InstanceDescriptor)
  | destroyInstance (inst : Nat)
  | registerCallbacks (inst : Nat)
  | unregisterCallbacks (inst callbacks : Nat)
  | adapters (inst : Nat)
  | properties (inst : Nat) (adapter : AdapterHandle)
  | queueFamilies (inst : Nat) (adapter : AdapterHandle)
  | deviceExtensions (inst : Nat) (adapter : AdapterHandle)
  | createDevice (inst : Nat) (adapter : AdapterHandle) (what : DeviceDescriptor)
  | queue (device : Nat) (family index : UInt32)
  | releaseDevice (device : Nat)
  | destroyDevice (device : Nat)
  | create (device : Nat) (what : Creation)
  | destroy (device : Nat) (kind : Kind) (object : Nat)
  deriving DecidableEq

/-- Whether a call only asks. -/
def Request.isQuestion : Request → Bool
  | .instanceExtensions | .instanceLayers | .adapters _ | .properties .. | .queueFamilies ..
  | .deviceExtensions .. | .queue .. => true
  | _ => false

/-- A call and whether it succeeded. -/
structure Event where
  request : Request
  succeeded : Bool
  deriving DecidableEq

end Trace

/-- The calls of a driver, the oldest first. -/
abbrev Trace : Type := List Trace.Event

/-! ## The recorded driver -/

/-- A handle and its number. -/
structure Numbered (α : Type) where
  id : Nat
  handle : α

/-- What a recorded driver keeps: the state of the driver, the trace, and the devices that were handed
out. -/
structure Recorder (d : Driver) where
  inner : d.State
  trace : Trace := []
  devices : List (Numbered d.Device) := []

namespace Recorder

open Trace (Request)

variable {d : Driver} {α : Type}

/-- The environment of the driver itself. -/
def under (e : Env (Recorder d)) : Env d.State := ⟨e.driver.inner, e.log⟩

/-- Writes a call down; `inner` is the environment it left. -/
def note (request : Request) (succeeded : Bool) (inner : Env d.State) (e : Env (Recorder d)) :
    Env (Recorder d) where
  driver := { e.driver with
    inner := inner.driver, trace := e.driver.trace ++ [⟨request, succeeded⟩] }
  log := inner.log

/-- A call that cannot fail. -/
def tell (request : Request) (call : Env d.State → Env d.State) (e : Env (Recorder d)) :
    Env (Recorder d) := note request true (call (under e)) e

/-- A call that cannot fail and has an answer. -/
def look (request : Request) (call : Env d.State → α × Env d.State) (e : Env (Recorder d)) :
    α × Env (Recorder d) := ((call (under e)).1, note request true (call (under e)).2 e)

/-- A call that may fail. -/
def ask (request : Request) (call : Act d.State α) : Act (Recorder d) α := fun e =>
  match call (under e) with
  | .ok a inner => .ok a (note request true inner e)
  | .error error inner => .error error (note request false inner e)

/-- A call that may fail and hands something out. -/
def make (request : Request) (call : Act d.State α) : Act (Recorder d) (Numbered α) := fun e =>
  match call (under e) with
  | .ok a inner => .ok ⟨e.driver.trace.length, a⟩ (note request true inner e)
  | .error error inner => .error error (note request false inner e)

/-- Puts a device on the list of those that were handed out. -/
def enter (device : Numbered d.Device) (e : Env (Recorder d)) : Env (Recorder d) :=
  e.onDriver fun r => { r with devices := device :: r.devices }

/-- The numbers of what a pipeline binds. -/
def numbers {β : Type} (what : PipelineDescriptor (Numbered β)) : PipelineDescriptor Nat :=
  { what with bindings := what.bindings.map fun b => { b with buffer := b.buffer.id } }

/-- The handles of what a pipeline binds. -/
def handles {β : Type} (what : PipelineDescriptor (Numbered β)) : PipelineDescriptor β :=
  { what with bindings := what.bindings.map fun b => { b with buffer := b.buffer.handle } }

end Recorder

open Recorder in
/-- A driver with a trace of its calls. -/
abbrev Driver.recorded (d : Driver) : Driver where
  State := Recorder d
  Instance := Numbered d.Instance
  Device := Numbered d.Device
  Callbacks := Numbered d.Callbacks
  Buffer := Numbered d.Buffer
  Pipeline := Numbered d.Pipeline
  Batch := Numbered d.Batch
  instanceExtensions := ask .instanceExtensions d.instanceExtensions
  instanceLayers := ask .instanceLayers d.instanceLayers
  createInstance what := make (.createInstance what) (d.createInstance what)
  registerCallbacks inst := make (.registerCallbacks inst.id) (d.registerCallbacks inst.handle)
  unregisterCallbacks inst c :=
    tell (.unregisterCallbacks inst.id c.id) (d.unregisterCallbacks inst.handle c.handle)
  destroyInstance inst := tell (.destroyInstance inst.id) (d.destroyInstance inst.handle)
  adapters inst := ask (.adapters inst.id) (d.adapters inst.handle)
  properties inst adapter :=
    look (.properties inst.id adapter) (d.properties inst.handle adapter)
  queueFamilies inst adapter :=
    look (.queueFamilies inst.id adapter) (d.queueFamilies inst.handle adapter)
  deviceExtensions inst adapter :=
    ask (.deviceExtensions inst.id adapter) (d.deviceExtensions inst.handle adapter)
  createDevice inst adapter what := do
    let device ← make (.createDevice inst.id adapter what) (d.createDevice inst.handle adapter what)
    modify (enter device)
    return device
  queue device family index :=
    look (.queue device.id family index) (d.queue device.handle family index)
  releaseDevice device := tell (.releaseDevice device.id) (d.releaseDevice device.handle)
  isAlive device r := d.isAlive device.handle r.inner
  destroyDevice device := tell (.destroyDevice device.id) (d.destroyDevice device.handle)
  createBuffer device size usage :=
    make (.create device.id (.buffer size usage)) (d.createBuffer device.handle size usage)
  destroyBuffer device buffer :=
    tell (.destroy device.id .buffer buffer.id) (d.destroyBuffer device.handle buffer.handle)
  createPipeline device what :=
    make (.create device.id (.pipeline (numbers what)))
      (d.createPipeline device.handle (handles what))
  destroyPipeline device pipeline :=
    tell (.destroy device.id .pipeline pipeline.id)
      (d.destroyPipeline device.handle pipeline.handle)
  createBatch device family timestamps :=
    make (.create device.id (.batch family timestamps))
      (d.createBatch device.handle family timestamps)
  destroyBatch device batch :=
    tell (.destroy device.id .batch batch.id) (d.destroyBatch device.handle batch.handle)

namespace Recorder

open Trace (Request Event)

variable {d : Driver} {α : Type}

/-! ## What recorded calls leave -/

@[simp] theorem trace_note (request : Request) (succeeded : Bool) (inner : Env d.State)
    (e : Env (Recorder d)) :
    (note request succeeded inner e).driver.trace = e.driver.trace ++ [⟨request, succeeded⟩] := rfl

@[simp] theorem inner_note (request : Request) (succeeded : Bool) (inner : Env d.State)
    (e : Env (Recorder d)) : (note request succeeded inner e).driver.inner = inner.driver := rfl

variable {request : Request} {call : Act d.State α} {e e' : Env (Recorder d)}

theorem after_ask (request : Request) (call : Act d.State α) (e : Env (Recorder d)) :
    ∃ succeeded, (ask request call).after e = note request succeeded (call.after (under e)) e := by
  unfold Attempt.after Attempt.outcome ask
  cases h : call (under e) <;> exact ⟨_, rfl⟩

theorem make_eq_ok {x : Numbered α} :
    make request call e = .ok x e' ↔
      x.id = e.driver.trace.length ∧
        ∃ inner, call (under e) = .ok x.handle inner ∧ e' = note request true inner e := by
  unfold make
  cases h : call (under e) with
  | ok a inner =>
    constructor
    · rintro ⟨⟩
      exact ⟨rfl, inner, rfl, rfl⟩
    · rintro ⟨hid, inner', ⟨⟩, rfl⟩
      rw [← hid]
  | error error inner => simp

theorem make_eq_error {error : Error} :
    make request call e = .error error e' ↔
      ∃ inner, call (under e) = .error error inner ∧ e' = note request false inner e := by
  unfold make
  cases h : call (under e) with
  | ok a inner => simp
  | error error' inner =>
    constructor
    · rintro ⟨⟩
      exact ⟨inner, rfl, rfl⟩
    · rintro ⟨inner', ⟨⟩, rfl⟩
      rfl

end Recorder

end GpuCompute
