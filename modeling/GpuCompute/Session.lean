import GpuCompute.Session.Operation

/-!
# Sessions

A session has a pool of resources, and under names managers, kept handles and objects of the driver
that no resource owns. The names of one kind of thing are apart from those of another.
`Session.step` does one operation. An operation that fails stores nothing, but what the driver did
until then stays. What is stored under a name that is in use takes the place of what was there, which
is let go afterwards.
-/

namespace GpuCompute

/-- A session. -/
structure Session (d : Driver) where
  pool : Pool d
  managers : List (String × Manager d) := []
  instances : List (String × d.Instance) := []
  devices : List (String × d.Device) := []
  callbacks : List (String × d.Callbacks) := []
  buffers : List (String × d.Buffer) := []
  pipelines : List (String × d.Pipeline) := []
  batches : List (String × d.Batch) := []

namespace Session

/-! ## Entries under names -/

/-- The entries of other names. -/
def without {α : Type} (name : String) (entries : List (String × α)) : List (String × α) :=
  entries.filter fun entry => entry.1 != name

/-- The entries with a new one, which takes the place of the one of the same name. -/
def store {α : Type} (name : String) (a : α) (entries : List (String × α)) :
    List (String × α) := without name entries ++ [(name, a)]

/-- The entries with another value under a name. -/
def update {α : Type} (name : String) (a : α) (entries : List (String × α)) :
    List (String × α) := entries.map fun entry => if entry.1 = name then (name, a) else entry

variable {d : Driver}

/-- A session at its beginning. -/
def start (driver : d.State) : Session d := { pool := { env := { driver } } }

/-! ## Parts of the state -/

/-- Changes the pool. -/
def onPool (f : Pool d → Pool d) (s : Session d) : Session d := { s with pool := f s.pool }

/-- Runs an attempt on the pool. -/
def runPool {α : Type} (act : Attempt (Pool d) α) : Attempt (Session d) α :=
  Attempt.within (·.pool) (fun s pool => { s with pool }) act

/-- Runs an action of the driver. -/
def run {α : Type} (act : Act d.State α) : Attempt (Session d) α := runPool (Pool.run act)

/-- Changes the environment. -/
def onEnv (f : Env d.State → Env d.State) (s : Session d) : Session d := s.onPool (.onEnv f)

/-! ## Managers -/

/-- Stores a manager; the one that had the name is dropped afterwards. -/
def storeManager (name : String) (m : Manager d) (s : Session d) : Session d :=
  let next := { s with managers := store name m s.managers }
  match s.managers.lookup name with
  | none => next
  | some old => next.onPool old.drop

/-- Sets the state of the manager with a name. -/
def setManager (name : String) (m : Manager d) (s : Session d) : Session d :=
  { s with managers := update name m s.managers }

/-- Drops the manager with a name. -/
def dropManager (name : String) (s : Session d) : Session d :=
  let next := { s with managers := without name s.managers }
  match s.managers.lookup name with
  | none => next
  | some old => next.onPool old.drop

/-- Makes a manager and stores it. -/
def addManager (name : String) (make : Act d.State (Manager d)) :
    Attempt (Session d) (Reply d) := do
  let m ← run make
  modify (storeManager name m)
  return .manager m.families m.queues.length

/-- Runs a method of a manager. -/
def withManager (name : String)
    (act : Manager d → Attempt (Session d) (Reply d)) : Attempt (Session d) (Reply d) := do
  match (← get).managers.lookup name with
  | none => return .unknown name
  | some m => act m

/-- Makes a resource by a manager and holds it under a name. -/
def addResource (m name : String) (identify : Nat → ResourceId)
    (make : Manager d → Attempt (Pool d) (Nat × Manager d)) : Attempt (Session d) (Reply d) :=
  withManager m fun manager => do
    let (i, manager) ← runPool (make manager)
    modify fun s => (s.setManager m manager).onPool (.hold name (identify i))
    return .created

/-! ## Resources -/

/-- The tensor that a name holds, with its number. -/
def tensor? (s : Session d) (name : String) : Option (Nat × Tensor d) :=
  match s.pool.find? name with
  | some (.tensor i) => (s.pool.tensors[i]?).map fun t => (i, t)
  | _ => none

/-- The numbers of the tensors that names hold; the first name that holds none is an error. -/
def tensorNumbers (s : Session d) : List String → Except String (List Nat)
  | [] => .ok []
  | name :: names =>
    match s.tensor? name with
    | none => .error name
    | some (i, _) => (s.tensorNumbers names).map (i :: ·)

/-- Makes an algorithm of tensors that names hold. -/
def addAlgorithm (m name : String) (tensors : List String)
    (make : List Nat → Manager d → Attempt (Pool d) (Nat × Manager d)) :
    Attempt (Session d) (Reply d) := do
  match (← get).tensorNumbers tensors with
  | .error tensor => return .unknown tensor
  | .ok numbers => addResource m name .algorithm (make numbers)

/-- Runs an attempt on the tensor that a name holds. -/
def withTensor (name : String) (act : Nat → Tensor d → Attempt (Session d) (Reply d)) :
    Attempt (Session d) (Reply d) := do
  match (← get).tensor? name with
  | none => return .unknown name
  | some (i, t) => act i t

/-- Sets the state of a tensor. -/
def setTensor (i : Nat) (t : Tensor d) (s : Session d) : Session d :=
  s.onPool fun p => { p with tensors := p.tensors.set i t }

/-- The state of a resource. -/
def describe? (s : Session d) : ResourceId → Option (Reply d)
  | .tensor i => (s.pool.tensors[i]?).map .tensorState
  | .algorithm i => (s.pool.algorithms[i]?).map fun a =>
    .algorithmState a (a.tensors.map fun t => s.pool.isInit (.tensor t))
  | .sequence i => (s.pool.sequences[i]?).map .sequenceState

/-- The tensor at a position among those that the algorithm under a name binds. -/
def boundTensor? (s : Session d) (name : String) (position : Nat) : Option Nat :=
  match s.pool.find? name with
  | some (.algorithm i) => (s.pool.algorithms[i]?).bind fun a => a.tensors[position]?
  | _ => none

/-- Runs an attempt on what a name holds. -/
def withResource (name : String) (act : ResourceId → Attempt (Session d) (Reply d)) :
    Attempt (Session d) (Reply d) := do
  match (← get).pool.find? name with
  | none => return .unknown name
  | some r => act r

/-! ## Calls of the driver -/

/-- Runs an attempt on a kept instance. -/
def withInstance (name : String) (act : d.Instance → Attempt (Session d) (Reply d)) :
    Attempt (Session d) (Reply d) := do
  match (← get).instances.lookup name with
  | none => return .unknown name
  | some inst => act inst

/-- Runs an attempt on a kept device. -/
def withDevice (name : String) (act : d.Device → Attempt (Session d) (Reply d)) :
    Attempt (Session d) (Reply d) := do
  match (← get).devices.lookup name with
  | none => return .unknown name
  | some device => act device

/-- Makes an object and puts it into the session. -/
def addObject {α : Type} (make : Act d.State α) (put : α → Session d → Session d) :
    Attempt (Session d) (Reply d) := do
  let a ← run make
  modify (put a)
  return .created

/-- Takes the object of a name out of the session and passes it on. -/
def takeObject {α : Type} (name : String) (entries : Session d → List (String × α))
    (setEntries : List (String × α) → Session d → Session d)
    (consume : α → Env d.State → Env d.State) : Attempt (Session d) (Reply d) := do
  let s ← get
  match (entries s).lookup name with
  | none => return .unknown name
  | some a =>
    set ((setEntries (without name (entries s)) s).onEnv (consume a))
    return .done

/-- Whether a device is alive. -/
def probe (device : d.Device) : Attempt (Session d) (Reply d) := do
  return .isAlive (d.isAlive device (← get).pool.env.driver)

/-- The bindings of buffers that names stand for; the first name without a buffer is an error. -/
def looseBindings (s : Session d) : List (Binding String) → Except String (List (Binding d.Buffer))
  | [] => .ok []
  | b :: bs =>
    match s.buffers.lookup b.buffer with
    | some buffer => (s.looseBindings bs).map ({ b with buffer } :: ·)
    | none => .error b.buffer

/-- Asks an instance all there is to ask. -/
def survey (inst : d.Instance) (adapter : AdapterHandle) : Act d.State Survey := do
  let families ← Attempt.ofState (d.queueFamilies inst adapter)
  let properties ← Attempt.ofState (d.properties inst adapter)
  let extensions ← d.deviceExtensions inst adapter
  let instanceExtensions ← d.instanceExtensions
  let instanceLayers ← d.instanceLayers
  return { families, properties, extensions, instanceExtensions, instanceLayers }

/-- One call of the driver. -/
def call : DriverCall → Attempt (Session d) (Reply d)
  | .createInstance name what => do
    let inst ← run (d.createInstance what)
    modify fun s => { s with instances := store name inst s.instances }
    return .created
  | .destroyInstance inst => withInstance inst fun inst => do
    modify (onEnv (d.destroyInstance inst))
    return .done
  | .createDevice name inst adapter what => withInstance inst fun inst => do
    let device ← run (d.createDevice inst adapter what)
    modify fun s => { s with devices := store name device s.devices }
    return .created
  | .releaseDevice device => withDevice device fun device => do
    modify (onEnv (d.releaseDevice device))
    probe device
  | .destroyDevice device => withDevice device fun device => do
    modify (onEnv (d.destroyDevice device))
    probe device
  | .probeDevice device => withDevice device probe
  | .survey inst adapter => withInstance inst fun inst => do
    return .survey (← run (survey inst adapter))
  | .registerCallbacks name inst => withInstance inst fun inst =>
    addObject (d.registerCallbacks inst) fun c s =>
      { s with callbacks := store name c s.callbacks }
  | .unregisterCallbacks inst name => withInstance inst fun inst =>
    takeObject name (·.callbacks) (fun callbacks s => { s with callbacks })
      (d.unregisterCallbacks inst)
  | .createBuffer name device size usage => withDevice device fun device =>
    addObject (d.createBuffer device size usage) fun b s =>
      { s with buffers := store name b s.buffers }
  | .destroyBuffer device name => withDevice device fun device =>
    takeObject name (·.buffers) (fun buffers s => { s with buffers }) (d.destroyBuffer device)
  | .createPipeline name device what => withDevice device fun device => do
    match (← get).looseBindings what.bindings with
    | .error buffer => return .unknown buffer
    | .ok bindings =>
      addObject (d.createPipeline device { what with bindings }) fun p s =>
        { s with pipelines := store name p s.pipelines }
  | .destroyPipeline device name => withDevice device fun device =>
    takeObject name (·.pipelines) (fun pipelines s => { s with pipelines })
      (d.destroyPipeline device)
  | .createBatch name device family timestamps => withDevice device fun device =>
    addObject (d.createBatch device family timestamps) fun b s =>
      { s with batches := store name b s.batches }
  | .destroyBatch device name => withDevice device fun device =>
    takeObject name (·.batches) (fun batches s => { s with batches }) (d.destroyBatch device)

/-! ## Steps -/

/-- One operation. -/
def step : Operation → Attempt (Session d) (Reply d)
  | .createManager m config selection => addManager m (Manager.create d config selection)
  | .borrow m inst device adapter families config =>
    withInstance inst fun inst => withDevice device fun device =>
      addManager m (Manager.borrow config inst adapter device families)
  | .keepHandles m name => withManager m fun manager => do
    modify fun s =>
      { s with
        instances := manager.inst.elim s.instances fun o => store name o.handle s.instances
        devices := manager.device.elim s.devices fun o => store name o.handle s.devices }
    return .kept manager.inst.isSome manager.device.isSome
  | .describeManager m => withManager m fun manager => do
    return .managerState manager (manager.debug (← get).pool)
  | .properties m => withManager m fun manager => do
    return .properties (← run manager.properties)
  | .adapters m => withManager m fun manager => do
    return .adapters (← run manager.adapters)
  | .counts m => withManager m fun manager => return .counts manager.trackedCounts
  | .clear m => withManager m fun manager => do
    let manager ← modifyGet fun s =>
      let (manager, pool) := manager.clear s.pool
      (manager, { s with pool }.setManager m manager)
    return .counts manager.trackedCounts
  | .destroyManager m => withManager m fun manager => do
    let manager ← modifyGet fun s =>
      let (manager, pool) := manager.destroy s.pool
      (manager, { s with pool }.setManager m manager)
    return .counts manager.trackedCounts
  | .dropManager m => withManager m fun _ => do
    modify (dropManager m)
    return .dropped
  | .tensor m name data => addResource m name .tensor fun manager => manager.tensor data
  | .tensorOfBytes m name bytes count size dataType =>
    addResource m name .tensor fun manager => manager.tensorOfBytes bytes count size dataType
  | .readElements name type => withTensor name fun _ t => do
    let words ← Attempt.ofExcept (t.elements type)
    return .elements ⟨type, words⟩
  | .writeElements name data => withTensor name fun i t => do
    let t ← Attempt.ofExcept (t.setElements data)
    modify (setTensor i t)
    return .bytes t.bytes
  | .readBytes name => withTensor name fun _ t => return .bytes t.bytes
  | .setDescriptorType name type => withTensor name fun i t => do
    modify (setTensor i { t with descriptorType := type })
    return .descriptorType type
  | .algorithm m name tensors code => addAlgorithm m name tensors fun numbers manager =>
    manager.algorithm numbers code
  | .algorithmWith m name tensors code workgroup pushConstants =>
    addAlgorithm m name tensors fun numbers manager =>
      manager.algorithmWith numbers code workgroup pushConstants
  | .holdBound name algorithm position => do
    match (← get).boundTensor? algorithm position with
    | none => return .unknown algorithm
    | some i =>
      modify (onPool (.hold name (.tensor i)))
      return .created
  | .sequence m name queue timestamps =>
    addResource m name .sequence fun manager => manager.sequence queue timestamps
  | .describe name => withResource name fun r => do
    return ((← get).describe? r).getD (.unknown name)
  | .destroy name => withResource name fun r => do
    modify (onPool (.destroy r))
    return .isInit ((← get).pool.isInit r)
  | .share name holder => withResource holder fun r => do
    modify (onPool (.hold name r))
    return .created
  | .drop name => withResource name fun _ => do
    modify (onPool (.drop name))
    return .dropped
  | .call c => call c

/-- The names of the managers, in alphabetical order. -/
def managerNames (s : Session d) : List String :=
  (s.managers.map (·.1)).mergeSort fun a b => !(b < a : Bool)

/-- Ends a session: resources are let go in the order of their names, then managers in the order of
theirs. -/
def finish (s : Session d) : Session d :=
  s.managerNames.foldl (fun s name => s.dropManager name) (s.onPool .dropAll)

/-- The session after operations, whatever they answer. -/
def steps (operations : List Operation) (s : Session d) : Session d :=
  operations.foldl (fun s o => ((step o).outcome s).2) s

end Session

end GpuCompute
