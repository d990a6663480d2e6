import GpuCompute.Proofs.Construction
import GpuCompute.Proofs.Holders
import GpuCompute.Proofs.Names

/-!
# What a session can do

Every operation of a session is a number of moves, of which each does one thing: managers are made,
change what they track, are closed and are forgotten; resources are made, edited and destroyed; names
take hold and let go; handles are kept; and there are calls after which nothing but the environment
is different (`Turn`). A move carries what is known when it is made, so that an invariant only has to
be shown of each move. A move is labelled with the managers that it makes.

What the caller of a session has to observe is left open: a `Permit` says which tensors may be bound
on a device, which kept handles may be lent to a manager, which of the remaining managers must still be
in order when something is ended, and which calls of the driver the caller may make by itself.
-/

namespace GpuCompute

open Driver

variable {d : Driver}

/-! ## Managers -/

namespace Manager

/-- Whether a manager tracks a resource. -/
def Tracks (m : Manager d) : ResourceId → Prop
  | .tensor i => i ∈ m.tensors.entries
  | .algorithm i => i ∈ m.algorithms.entries
  | .sequence i => i ∈ m.sequences.entries

/-- Two states of a manager that differ at most in what is tracked. -/
structure Like (m m' : Manager d) : Prop where
  config : m'.config = m.config
  inst : m'.inst = m.inst
  callbacks : m'.callbacks = m.callbacks
  adapter : m'.adapter = m.adapter
  device : m'.device = m.device
  families : m'.families = m.families
  queues : m'.queues = m.queues

theorem Like.refl (m : Manager d) : m.Like m := ⟨rfl, rfl, rfl, rfl, rfl, rfl, rfl⟩

/-- The calls by which a manager lets go of its device and its instance. -/
def shut (m : Manager d) (device : Ownership d.Device) (e : Env d.State) : Env d.State :=
  match m.inst with
  | none => (closeDevice device e).write
      { level := .error, message := "manager destroy reached with no instance" }
  | some inst => closeInstance inst m.callbacks (closeDevice device e)

end Manager

/-! ## Permits -/

/-- What the caller of a session observes. -/
structure Permit (d : Driver) where
  /-- Whether tensors may be bound on a device. -/
  binds : Session d → d.Device → List Nat → Prop
  /-- Whether an instance and a device may be lent to a manager. -/
  offers : Session d → d.Instance → d.Device → Prop
  /-- Whether a manager is still in order in an environment. -/
  stays : Env d.State → Manager d → Prop
  /-- Whether the caller may make a call of the driver. -/
  lends : Session d → DriverCall → Prop

/-- A caller that observes nothing and may make some calls of the driver at any time. -/
def Permit.lending (d : Driver) (may : DriverCall → Prop) : Permit d where
  binds _ _ _ := True
  offers _ _ _ := True
  stays _ _ := True
  lends _ c := may c

namespace Session

/-- The session in another environment. -/
def withEnv (e : Env d.State) (s : Session d) : Session d := { s with pool := s.pool.withEnv e }

/-- Whether an instance may be asked: a manager has it, or the caller may survey it. -/
def MayAsk (P : Permit d) (s : Session d) (i : d.Instance) : Prop :=
  (∃ x ∈ s.managers, ∃ o, x.2.inst = some o ∧ o.handle = i) ∨
    ∃ name adapter, s.instances.lookup name = some i ∧ P.lends s (.survey name adapter)

/-- Whether an object may be ordered on a device: it binds nothing, or tensors that may be bound. -/
def MayOrder (P : Permit d) (s : Session d) (device : d.Device) (order : Order d) : Prop :=
  order.binds = [] ∨ ∃ tensors, s.pool.BindsOnly tensors order ∧ P.binds s device tensors

end Session

/-! ## Moves -/

/-- Calls that change only the environment. -/
inductive Turn (P : Permit d) (s : Session d) : Env d.State → Prop
  | asks {I : d.Instance → Prop} {e : Env d.State} (h : d.Asked I nothing s.pool.env e)
    (may : ∀ i, I i → s.MayAsk P i) : Turn P s e
  /-- No manager can be made. -/
  | fails {config : Config} {e : Env d.State} (h : Manager.Fails config s.pool.env e) : Turn P s e
  /-- No resource can be made. -/
  | refuses {x : String × Manager d} {device : Ownership d.Device} {order : Order d} {error : Error}
    {e₁ e : Env d.State} (hx : x ∈ s.managers) (hd : x.2.device = some device)
    (may : s.MayOrder P device.handle order) (asked : d.Asked nothing nothing s.pool.env e₁)
    (failed : d.make device.handle order e₁ = .error error e) : Turn P s e
  /-- The caller cannot make an instance. -/
  | refusesInstance {name : String} {what : InstanceDescriptor} {error : Error} {e : Env d.State}
    (may : P.lends s (.createInstance name what))
    (failed : d.createInstance what s.pool.env = .error error e) : Turn P s e
  /-- The caller cannot make a device. -/
  | refusesDevice {name inst : String} {i : d.Instance} {adapter : AdapterHandle}
    {what : DeviceDescriptor} {error : Error} {e : Env d.State}
    (hi : s.instances.lookup inst = some i) (may : P.lends s (.createDevice name inst adapter what))
    (failed : d.createDevice i adapter what s.pool.env = .error error e) : Turn P s e

/-- One move of a session, with the managers that it makes. -/
inductive Move (P : Permit d) (s : Session d) : List (Manager d) → Session d → Prop
  | turns {e : Env d.State} (h : Turn P s e) : Move P s [] (s.withEnv e)
  /-- A manager is made. -/
  | creates {name : String} {m : Manager d} {config : Config} {e : Env d.State}
    (h : m.Creates config s.pool.env e) :
    Move P s [m] { s.withEnv e with managers := s.managers ++ [(name, m)] }
  /-- A manager is made on handles that are kept. -/
  | borrows {name inst device : String} {m : Manager d} {config : Config} {i : d.Instance}
    {x : d.Device} {e : Env d.State} (hi : s.instances.lookup inst = some i)
    (hx : s.devices.lookup device = some x) (may : P.offers s i x)
    (h : m.Borrows config i x s.pool.env e) :
    Move P s [m] { s.withEnv e with managers := s.managers ++ [(name, m)] }
  /-- Handles of a manager are kept. -/
  | keeps {name : String} {x : String × Manager d} (hx : x ∈ s.managers) :
    Move P s [] { s with
      instances := x.2.inst.elim s.instances fun o => Session.store name o.handle s.instances
      devices := x.2.device.elim s.devices fun o => Session.store name o.handle s.devices }
  /-- A manager makes a resource, which a name holds. -/
  | makes {n name : String} {m m' : Manager d} {l₁ l₂ : List (String × Manager d)}
    {device : Ownership d.Device} {order : Order d} {r : ResourceId} {p : Pool d}
    (hm : s.managers = l₁ ++ (n, m) :: l₂) (hd : m.device = some device)
    (may : s.MayOrder P device.handle order) (made : s.pool.Makes device.handle order r p)
    (like : m.Like m') (old : ∀ r, m.Tracks r → m'.Tracks r)
    (new : m.config.manageResources → m'.Tracks r) :
    Move P s [] { s with
      pool := p.withHeld (s.pool.held ++ [(name, r)]), managers := l₁ ++ (n, m') :: l₂ }
  /-- A resource is destroyed. -/
  | destroys (r : ResourceId) : Move P s [] (s.onPool (.destroy r))
  /-- Names take hold or let go; what has its object keeps a holder. -/
  | reholds {holders : List (String × ResourceId)}
    (h : ∀ r, s.pool.isInit r → s.pool.isHeld r → (s.pool.withHeld holders).isHeld r) :
    Move P s [] (s.onPool (.withHeld holders))
  /-- A tensor is edited; it keeps its buffer. -/
  | edits {i : Nat} {t t' : Tensor d} (h : s.pool.tensors[i]? = some t)
    (buffer : t'.buffer = t.buffer) : Move P s [] (s.setTensor i t')
  /-- A manager forgets resources that are of no use. -/
  | prunes {n : String} {m m' : Manager d} {l₁ l₂ : List (String × Manager d)}
    (hm : s.managers = l₁ ++ (n, m) :: l₂) (like : m.Like m')
    (useful : ∀ r, m.Tracks r → s.pool.isUsable r → m'.Tracks r) :
    Move P s [] { s with managers := l₁ ++ (n, m') :: l₂ }
  /-- A manager lets go of its device and its instance. If it manages resources, then nothing is left
  of those that it tracks and that are alive. -/
  | closes {n : String} {m m' : Manager d} {l₁ l₂ : List (String × Manager d)}
    {device : Ownership d.Device} (hm : s.managers = l₁ ++ (n, m) :: l₂)
    (hd : m.device = some device) (closed : m'.device = none) (left : m'.inst = none)
    (gone : m.config.manageResources → ∀ r, m.Tracks r → s.pool.isHeld r → s.pool.isInit r = false)
    (stay : ∀ x ∈ l₁ ++ l₂, P.stays (m.shut device s.pool.env) x.2) :
    Move P s [] { s.withEnv (m.shut device s.pool.env) with managers := l₁ ++ (n, m') :: l₂ }
  /-- A manager that was torn down goes. -/
  | forgets {n : String} {m : Manager d} {l₁ l₂ : List (String × Manager d)}
    (hm : s.managers = l₁ ++ (n, m) :: l₂) (closed : m.device = none) :
    Move P s [] { s with managers := l₁ ++ l₂ }
  /-- The caller makes an instance. -/
  | lendsInstance {name : String} {what : InstanceDescriptor} {i : d.Instance} {e : Env d.State}
    (may : P.lends s (.createInstance name what))
    (made : d.createInstance what s.pool.env = .ok i e) :
    Move P s [] { s.withEnv e with instances := Session.store name i s.instances }
  /-- The caller makes a device. -/
  | lendsDevice {name inst : String} {i : d.Instance} {adapter : AdapterHandle}
    {what : DeviceDescriptor} {x : d.Device} {e : Env d.State}
    (hi : s.instances.lookup inst = some i) (may : P.lends s (.createDevice name inst adapter what))
    (made : d.createDevice i adapter what s.pool.env = .ok x e) :
    Move P s [] { s.withEnv e with devices := Session.store name x s.devices }
  /-- The caller destroys an instance. -/
  | endsInstance {inst : String} {i : d.Instance} (hi : s.instances.lookup inst = some i)
    (may : P.lends s (.destroyInstance inst))
    (stay : ∀ x ∈ s.managers, P.stays (d.destroyInstance i s.pool.env) x.2) :
    Move P s [] (s.onEnv (d.destroyInstance i))
  /-- The caller releases a device. -/
  | releasesDevice {device : String} {x : d.Device} (hx : s.devices.lookup device = some x)
    (may : P.lends s (.releaseDevice device))
    (stay : ∀ y ∈ s.managers, P.stays (d.releaseDevice x s.pool.env) y.2) :
    Move P s [] (s.onEnv (d.releaseDevice x))
  /-- The caller destroys a device. -/
  | endsDevice {device : String} {x : d.Device} (hx : s.devices.lookup device = some x)
    (may : P.lends s (.destroyDevice device))
    (stay : ∀ y ∈ s.managers, P.stays (d.destroyDevice x s.pool.env) y.2) :
    Move P s [] (s.onEnv (d.destroyDevice x))

/-- Any number of moves, with the managers that they make. -/
inductive Moves (P : Permit d) : Session d → List (Manager d) → Session d → Prop
  | nil (s : Session d) : Moves P s [] s
  | cons {s s' s'' : Session d} {l l' : List (Manager d)} (h : Move P s l s')
    (rest : Moves P s' l' s'') : Moves P s (l ++ l') s''

namespace Moves

variable {P : Permit d} {s s' s'' : Session d} {l l' : List (Manager d)}

theorem of_move (h : Move P s l s') : Moves P s l s' := by
  simpa using Moves.cons h (.nil s')

theorem trans (h : Moves P s l s') (h' : Moves P s' l' s'') : Moves P s (l ++ l') s'' := by
  induction h with
  | nil => exact h'
  | cons h _ ih =>
    rw [List.append_assoc]
    exact .cons h (ih h')

/-- Moves that make no managers may follow. -/
theorem then_ (h : Moves P s l s') (h' : Moves P s' [] s'') : Moves P s l s'' := by
  simpa using h.trans h'

/-- An invariant, which may mention the managers that were made so far, holds after moves if each move
keeps it. -/
theorem induct {I : List (Manager d) → Session d → Prop} (h : Moves P s l s')
    (step : ∀ known s l s', Move P s l s' → I known s → I (known ++ l) s') {k : List (Manager d)}
    (start : I k s) : I (k ++ l) s' := by
  induction h generalizing k with
  | nil => simpa using start
  | cons h _ ih =>
    rw [← List.append_assoc]
    exact ih (step _ _ _ _ h start)

end Moves

end GpuCompute
