import GpuCompute.Proofs.Objects

/-!
# Lifetimes of devices

What is relied on of a driver is that it knows which devices are alive: a device is alive from the
moment it is handed out until it is released or destroyed for the first time, and other calls have
nothing to do with this (`Driver.Lifetimes`).
-/

namespace GpuCompute.Driver

/-- A call after which the same devices are alive as before. -/
inductive Passes (d : Driver) : Env d.State → Env d.State → Prop
  | asks {I : d.Instance → Prop} {D : d.Device → Prop} {e e' : Env d.State}
    (h : d.Asks I D e e') : Passes d e e'
  | createInstance (what : InstanceDescriptor) (e : Env d.State) :
    Passes d e ((d.createInstance what).after e)
  | registerCallbacks (i : d.Instance) (e : Env d.State) :
    Passes d e ((d.registerCallbacks i).after e)
  | unregisterCallbacks (i : d.Instance) (c : d.Callbacks) (e : Env d.State) :
    Passes d e (d.unregisterCallbacks i c e)
  | destroyInstance (i : d.Instance) (e : Env d.State) : Passes d e (d.destroyInstance i e)
  | refusesDevice {i : d.Instance} {a : AdapterHandle} {what : DeviceDescriptor}
    {error : Error} {e e' : Env d.State} (h : d.createDevice i a what e = .error error e') :
    Passes d e e'
  | make (x : d.Device) (order : Order d) (e : Env d.State) :
    Passes d e ((d.make x order).after e)
  | unmake (x : d.Device) (object : Object d) (e : Env d.State) : Passes d e (d.unmake x object e)

/-- A call after which a device is not alive. -/
inductive Ends (d : Driver) (x : d.Device) : Env d.State → Env d.State → Prop
  | release (e : Env d.State) : Ends d x e (d.releaseDevice x e)
  | destroy (e : Env d.State) : Ends d x e (d.destroyDevice x e)

/-- A driver that knows which devices are alive. `Known` are the devices that were handed out. -/
structure Lifetimes (d : Driver) where
  Sound : d.State → Prop
  Known : d.Device → d.State → Prop
  passes : ∀ {e e'}, d.Passes e e' → Sound e.driver → Sound e'.driver ∧
    ∀ x, Known x e.driver → Known x e'.driver ∧ d.isAlive x e'.driver = d.isAlive x e.driver
  /-- A device that is handed out is alive and was not handed out before. -/
  created : ∀ {i a what e x e'}, d.createDevice i a what e = .ok x e' → Sound e.driver →
    Sound e'.driver ∧ ¬ Known x e.driver ∧ Known x e'.driver ∧ d.isAlive x e'.driver = true ∧
    ∀ y, Known y e.driver → Known y e'.driver ∧ d.isAlive y e'.driver = d.isAlive y e.driver
  /-- A device that is released or destroyed is not alive, and others are as alive as before. -/
  ended : ∀ {x e e'}, d.Ends x e e' → Sound e.driver → Known x e.driver → Sound e'.driver ∧
    d.isAlive x e'.driver = false ∧
    ∀ y, Known y e.driver → Known y e'.driver ∧
      (y ≠ x → d.isAlive y e'.driver = d.isAlive y e.driver)

end GpuCompute.Driver
