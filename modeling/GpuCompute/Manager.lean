import GpuCompute.Bootstrap
import GpuCompute.Ownership
import GpuCompute.Pool
import GpuCompute.Registry

/-!
# Managers

A manager has an instance and a device, which it owns or borrows, and makes resources on the device.
If it manages resources, it tracks them without keeping them alive, and destroys what is left of them
when it is torn down: sequences, then algorithms, then tensors; after them come the device, the
callbacks and the instance. Borrowed handles are never destroyed.
-/

namespace GpuCompute

/-- How many resources of each kind a manager tracks, dead ones included. -/
structure TrackedCounts where
  sequences : Nat
  algorithms : Nat
  tensors : Nat
  deriving DecidableEq

/-- A manager. -/
structure Manager (d : Driver) where
  config : Config
  /-- The instance, until the manager is torn down. -/
  inst : Option (Ownership d.Instance)
  callbacks : Option d.Callbacks
  adapter : AdapterHandle
  /-- The device, until the manager is torn down. -/
  device : Option (Ownership d.Device)
  /-- The family of each queue. -/
  families : List UInt32
  queues : List Queue.Handle
  sequences : Registry Nat := {}
  algorithms : Registry Nat := {}
  tensors : Registry Nat := {}

namespace Manager

variable {d : Driver}

/-! ## Making managers -/

/-- A manager with an instance and a device of its own. When it cannot be made, nothing that was made
for it is left. -/
def create (d : Driver) (config : Config) (selection : Selection) : Act d.State (Manager d) := do
  let parts ← Bootstrap.createInstance d config
  Attempt.undoing (Bootstrap.destroyInstance d parts) do
    let device ← Bootstrap.createDevice d parts.inst config selection
    return { config, inst := some (.owned parts.inst), callbacks := parts.callbacks,
             adapter := device.adapter, device := some (.owned device.device),
             families := device.families, queues := device.queues }

/-- A manager on an instance and a device of someone else. The families are used as they are given
and may be none. -/
def borrow (config : Config) (inst : d.Instance) (adapter : AdapterHandle) (device : d.Device)
    (families : List UInt32) : Act d.State (Manager d) := do
  let queues ← Attempt.ofState (Bootstrap.fetchQueues d device families)
  Act.debug "manager borrowing external instance and device"
    [("queues", toString queues.length)]
  return { config, inst := some (.borrowed inst), callbacks := none, adapter,
           device := some (.borrowed device), families, queues }

/-! ## Looking at managers -/

/-- Whether the manager was torn down. -/
def isDestroyed (m : Manager d) : Bool := m.device.isNone

/-- The device of a manager that was not torn down. -/
def liveDevice (m : Manager d) : Except Error d.Device :=
  match m.device with
  | some device => .ok device.handle
  | none => .error (.invalidState .managerDestroyed)

/-- The instance of a manager that was not torn down. -/
def liveInstance (m : Manager d) : Except Error d.Instance :=
  match m.inst with
  | some inst => .ok inst.handle
  | none => .error (.invalidState .managerWithoutInstance)

/-- The properties of the manager's adapter. -/
def properties (m : Manager d) : Act d.State DeviceProperties := do
  let inst ← Attempt.ofExcept m.liveInstance
  Attempt.ofState (d.properties inst m.adapter)

/-- All adapters of the manager's instance. -/
def adapters (m : Manager d) : Act d.State (List AdapterHandle) := do
  let inst ← Attempt.ofExcept m.liveInstance
  d.adapters inst

/-- How many resources the manager tracks. -/
def trackedCounts (m : Manager d) : TrackedCounts :=
  ⟨m.sequences.size, m.algorithms.size, m.tensors.size⟩

/-! ## Making resources -/

/-- Makes a tensor of bytes. -/
def tensorOfBytes (m : Manager d) (bytes : List UInt8) (count size : UInt64)
    (dataType : DataType) : Attempt (Pool d) (Nat × Manager d) := do
  let device ← Attempt.ofExcept m.liveDevice
  let i ← Pool.addTensor device bytes count size dataType
  return (i, if m.config.manageResources then { m with tensors := m.tensors.register i } else m)

/-- Makes a tensor of elements. -/
def tensor (m : Manager d) (data : Elements) : Attempt (Pool d) (Nat × Manager d) :=
  m.tensorOfBytes data.bytes (.ofNat data.words.length) (.ofNat data.type.size) data.type.dataType

/-- Makes an algorithm for a given workgroup. -/
def algorithmWith (m : Manager d) (tensors : List Nat) (code : List UInt32) (workgroup : Extent)
    (pushConstants : List UInt8) : Attempt (Pool d) (Nat × Manager d) := do
  let device ← Attempt.ofExcept m.liveDevice
  let i ← Pool.addAlgorithm device tensors code workgroup pushConstants
  return (i,
    if m.config.manageResources then { m with algorithms := m.algorithms.register i } else m)

/-- The number of elements of the first tensor; one if there is none. -/
def leadingCount (p : Pool d) (tensors : List Nat) : UInt64 :=
  (tensors.head?.bind fun i => p.tensors[i]?).elim 1 (·.elementCount)

/-- Makes an algorithm with one invocation for each element of the first tensor. -/
def algorithm (m : Manager d) (tensors : List Nat) (code : List UInt32) :
    Attempt (Pool d) (Nat × Manager d) := do
  let workgroup ← Attempt.ofExcept (Algorithm.defaultWorkgroup (leadingCount (← get) tensors))
  m.algorithmWith tensors code workgroup []

/-- The queue at an index and its family. -/
def queueAt (m : Manager d) (index : UInt64) : Except Error (Queue.Handle × UInt32) :=
  match (m.queues.zip m.families)[index.toNat]? with
  | some queue => .ok queue
  | none => .error (.invalidQueueIndex index.toNat m.queues.length)

/-- Makes a sequence for the queue at an index. -/
def sequence (m : Manager d) (index : UInt64) (timestamps : UInt32) :
    Attempt (Pool d) (Nat × Manager d) := do
  Pool.run (Act.debug "creating sequence" [("queue_index", toString index.toNat)])
  let device ← Attempt.ofExcept m.liveDevice
  let (queue, family) ← Attempt.ofExcept (m.queueAt index)
  let i ← Pool.addSequence device m.adapter queue family timestamps
  return (i,
    if m.config.manageResources then { m with sequences := m.sequences.register i } else m)

/-! ## Tracking -/

/-- Forgets tracked resources that are dead or destroyed. -/
def clear (m : Manager d) (p : Pool d) : Manager d × Pool d :=
  if m.config.manageResources then
    let (s, sequences) := m.sequences.prune fun i => p.isUsable (.sequence i)
    let (a, algorithms) := m.algorithms.prune fun i => p.isUsable (.algorithm i)
    let (t, tensors) := m.tensors.prune fun i => p.isUsable (.tensor i)
    ({ m with sequences, algorithms, tensors },
      p.onEnv (.write { level := .debug, message := "pruned expired resources",
                        fields := [("pruned", toString (s + a + t))] }))
  else (m, p)

/-! ## Teardown -/

/-- Destroys the living resources of a registry and logs how many it reached. -/
def destroyRegistered (kind : String) (identify : Nat → ResourceId) (r : Registry Nat)
    (p : Pool d) : Pool d :=
  let (count, p) := r.destroyAll (fun i => p.isHeld (identify i)) (fun i => Pool.destroy (identify i)) p
  p.onEnv (.write { level := .debug, message := "destroyed tracked " ++ kind,
                    fields := [("count", toString count)] })

/-- Destroys the living resources that a manager tracks. -/
def destroyTracked (m : Manager d) (p : Pool d) : Pool d :=
  let p := destroyRegistered "sequences" .sequence m.sequences p
  let p := destroyRegistered "algorithms" .algorithm m.algorithms p
  destroyRegistered "tensors" .tensor m.tensors p

/-- Lets go of a device, and destroys it if it is owned. -/
def closeDevice (device : Ownership d.Device) (e : Env d.State) : Env d.State :=
  let e := d.releaseDevice device.handle e
  match device.release d.destroyDevice e with
  | (true, e) => e.write { level := .info, message := "destroyed device" }
  | (false, e) => e.write { level := .debug, message := "released borrowed device" }

/-- Unregisters the callbacks, if there are any, and lets go of an instance; an owned one is
destroyed. -/
def closeInstance (inst : Ownership d.Instance) (callbacks : Option d.Callbacks)
    (e : Env d.State) : Env d.State :=
  let e := match callbacks with
    | none => e
    | some callbacks =>
      (d.unregisterCallbacks inst.handle callbacks e).write
        { level := .debug, message := "unregistered debug callbacks" }
  match inst.release d.destroyInstance e with
  | (true, e) => e.write { level := .debug, message := "destroyed instance" }
  | (false, e) => e.write { level := .debug, message := "released borrowed instance" }

/-- The manager without device, queues and tracked resources. -/
def detached (m : Manager d) : Manager d :=
  let m := { m with device := none, queues := [] }
  if m.config.manageResources then { m with sequences := {}, algorithms := {}, tensors := {} } else m

/-- Tears a manager down. A second time this does nothing. -/
def destroy (m : Manager d) (p : Pool d) : Manager d × Pool d :=
  let p := p.onEnv (.write { level := .debug, message := "manager destroy started" })
  match m.device with
  | none =>
    (m, p.onEnv (.write
      { level := .warn, message := "manager destroy reached with no device; nothing to do" }))
  | some device =>
    let p := if m.config.manageResources then m.destroyTracked p else p
    let p := p.onEnv (closeDevice device)
    match m.inst with
    | none =>
      (m.detached, p.onEnv (.write
        { level := .error, message := "manager destroy reached with no instance" }))
    | some inst =>
      ({ m.detached with inst := none, callbacks := none },
        p.onEnv (closeInstance inst m.callbacks))

/-- Lets go of a manager, which tears it down unless that was done. -/
def drop (m : Manager d) (p : Pool d) : Pool d := if m.isDestroyed then p else (m.destroy p).2

/-! ## Text -/

/-- The text of a manager. -/
def debug (m : Manager d) (p : Pool d) : String :=
  let owned {η : Type} (o : Option (Ownership η)) : String :=
    Text.showOption (o.map fun h => Text.showBool h.isOwned)
  let registry (r : Registry Nat) (identify : Nat → ResourceId) : String :=
    r.debug fun i => p.isHeld (identify i)
  Text.showRecord "Manager"
    [("physical_device", Text.showHandle m.adapter.toNat), ("owns_instance", owned m.inst),
      ("owns_device", owned m.device),
      ("queue_family_indices", Text.showList (m.families.map fun f => toString f.toNat)),
      ("sequences", registry m.sequences .sequence),
      ("algorithms", registry m.algorithms .algorithm),
      ("tensors", registry m.tensors .tensor)]
    true

end Manager

end GpuCompute
