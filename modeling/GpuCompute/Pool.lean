import GpuCompute.Algorithm
import GpuCompute.Sequence

/-!
# The pool of resources

All tensors, algorithms and sequences that were ever made, numbered in the order of their creation,
and the names that hold them. A resource is alive as long as something holds it: a name, or, for a
tensor, an algorithm that is itself alive. When the last holder lets go, the resource is destroyed;
an algorithm goes before the tensors that only it held.
-/

namespace GpuCompute

/-- A resource: its kind and its number among its kind. -/
inductive ResourceId
  | tensor (i : Nat)
  | algorithm (i : Nat)
  | sequence (i : Nat)
  deriving DecidableEq

/-- Resources and who holds them, in a driver's environment. -/
structure Pool (d : Driver) where
  env : Env d.State
  tensors : List (Tensor d) := []
  algorithms : List (Algorithm d) := []
  sequences : List (Sequence d) := []
  /-- The names, each with the resource that it holds. -/
  held : List (String × ResourceId) := []

namespace Pool

variable {d : Driver}

/-! ## Holders -/

/-- The resource that a name holds. -/
def find? (p : Pool d) (name : String) : Option ResourceId := p.held.lookup name

/-- Whether a name holds a resource. -/
def isNamed (p : Pool d) (r : ResourceId) : Bool := p.held.any fun h => h.2 == r

/-- Whether a resource keeps a tensor alive. -/
def keeps (p : Pool d) (tensor : Nat) : ResourceId → Bool
  | .algorithm a => (p.algorithms[a]?).any fun algorithm => algorithm.tensors.contains tensor
  | _ => false

/-- Whether a resource is alive. -/
def isHeld (p : Pool d) (r : ResourceId) : Bool :=
  p.isNamed r ||
    match r with
    | .tensor i => p.held.any fun h => p.keeps i h.2
    | _ => false

/-! ## The environment -/

/-- Changes the environment. -/
def onEnv (f : Env d.State → Env d.State) (p : Pool d) : Pool d := { p with env := f p.env }

/-- Runs an action of the driver. -/
def run {α : Type} (act : Act d.State α) : Attempt (Pool d) α :=
  Attempt.within (·.env) (fun p env => { p with env }) act

/-! ## Making resources -/

/-- Makes a tensor. -/
def addTensor (device : d.Device) (bytes : List UInt8) (count size : UInt64)
    (dataType : DataType) : Attempt (Pool d) Nat := do
  let tensor ← run (Tensor.create device bytes count size dataType)
  modifyGet fun p => (p.tensors.length, { p with tensors := p.tensors ++ [tensor] })

/-- Makes an algorithm. -/
def addAlgorithm (device : d.Device) (tensors : List Nat) (code : List UInt32)
    (workgroup : Extent) (pushConstants : List UInt8) : Attempt (Pool d) Nat := do
  let known := (← get).tensors
  let algorithm ←
    run (Algorithm.create device (fun i => known[i]?) tensors code workgroup pushConstants)
  modifyGet fun p => (p.algorithms.length, { p with algorithms := p.algorithms ++ [algorithm] })

/-- Makes a sequence. -/
def addSequence (device : d.Device) (adapter : AdapterHandle) (queue : Queue.Handle)
    (family timestamps : UInt32) : Attempt (Pool d) Nat := do
  let sequence ← run (Sequence.create device adapter queue family timestamps)
  modifyGet fun p => (p.sequences.length, { p with sequences := p.sequences ++ [sequence] })

/-! ## Destroying resources -/

/-- Destroys a tensor's buffer. -/
def destroyTensor (i : Nat) (p : Pool d) : Pool d :=
  match p.tensors[i]? with
  | none => p
  | some t =>
    let (t, env) := t.destroy p.env
    { p with env, tensors := p.tensors.set i t }

/-- Destroys an algorithm's pipeline. -/
def destroyAlgorithm (i : Nat) (p : Pool d) : Pool d :=
  match p.algorithms[i]? with
  | none => p
  | some a =>
    let (a, env) := a.destroy p.env
    { p with env, algorithms := p.algorithms.set i a }

/-- Destroys a sequence's batch. -/
def destroySequence (i : Nat) (p : Pool d) : Pool d :=
  match p.sequences[i]? with
  | none => p
  | some s =>
    let (s, env) := s.destroy p.env
    { p with env, sequences := p.sequences.set i s }

/-- Destroys what a resource has on its device. -/
def destroy : ResourceId → Pool d → Pool d
  | .tensor i => destroyTensor i
  | .algorithm i => destroyAlgorithm i
  | .sequence i => destroySequence i

/-- Whether what a resource has on its device is still there. -/
def isInit (p : Pool d) : ResourceId → Bool
  | .tensor i => (p.tensors[i]?).any Tensor.isInit
  | .algorithm i => (p.algorithms[i]?).any Algorithm.isInit
  | .sequence i => (p.sequences[i]?).any Sequence.isInit

/-- Whether a resource is alive and not destroyed. -/
def isUsable (p : Pool d) (r : ResourceId) : Bool := p.isHeld r && p.isInit r

/-! ## Letting go -/

/-- Destroys a tensor that nothing holds. -/
def reapTensor (p : Pool d) (i : Nat) : Pool d :=
  if p.isHeld (.tensor i) then p else p.destroyTensor i

/-- Destroys a resource that nothing holds, and after an algorithm its tensors that nothing else
holds. -/
def reap (r : ResourceId) (p : Pool d) : Pool d :=
  if p.isHeld r then p
  else match r with
    | .algorithm i =>
      ((p.algorithms[i]?).elim [] (·.tensors)).foldl reapTensor (p.destroyAlgorithm i)
    | r => p.destroy r

/-- Takes a name away from what it holds. -/
def drop (name : String) (p : Pool d) : Pool d :=
  let rest := { p with held := p.held.filter fun h => h.1 != name }
  match p.find? name with
  | none => rest
  | some old => rest.reap old

/-- Holds a resource under a name; what the name held before is let go afterwards. -/
def hold (name : String) (r : ResourceId) (p : Pool d) : Pool d :=
  let next := { p with held := (p.held.filter fun h => h.1 != name) ++ [(name, r)] }
  match p.find? name with
  | none => next
  | some old => next.reap old

/-- The names that hold something, in alphabetical order. -/
def names (p : Pool d) : List String := (p.held.map (·.1)).mergeSort fun a b => !(b < a : Bool)

/-- Lets go of everything, in the order of the names. -/
def dropAll (p : Pool d) : Pool d := p.names.foldl (fun p name => p.drop name) p

end Pool

end GpuCompute
