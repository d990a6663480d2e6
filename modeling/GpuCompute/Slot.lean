import GpuCompute.Driver

/-!
# Slots

A slot holds an object of a driver together with the device it was made on. The object leaves the
slot when it is given up, so that it is destroyed at most once; on a device that is no longer alive
it is left to whoever owns the device.
-/

namespace GpuCompute

/-- An object of a driver until it is given up. -/
structure Slot (d : Driver) (α : Type) where
  device : d.Device
  object : Option α

/-- How objects of a kind are destroyed, and what is logged about it. -/
structure Disposal (d : Driver) (α : Type) where
  destroy : d.Device → α → Env d.State → Env d.State
  /-- The record of an object that was destroyed. -/
  destroyed : Log.Record
  /-- The record of an object whose device is gone. -/
  abandoned : Log.Record

namespace Slot

variable {d : Driver} {α : Type}

/-- Whether the object is still there. -/
def isInit (s : Slot d α) : Bool := s.object.isSome

/-- Gives the object up, if it is still there. -/
def release (how : Disposal d α) (s : Slot d α) (e : Env d.State) : Slot d α × Env d.State :=
  match s.object with
  | none => (s, e)
  | some x =>
    ({ s with object := none },
      if d.isAlive s.device e.driver then (how.destroy s.device x e).write how.destroyed
      else e.write how.abandoned)

theorem release_of_none {how : Disposal d α} {s : Slot d α} {e : Env d.State}
    (h : s.object = none) : s.release how e = (s, e) := by
  simp [release, h]

@[simp] theorem object_release (how : Disposal d α) (s : Slot d α) (e : Env d.State) :
    (s.release how e).1.object = none := by
  cases h : s.object <;> simp [release, h]

@[simp] theorem device_release (how : Disposal d α) (s : Slot d α) (e : Env d.State) :
    (s.release how e).1.device = s.device := by
  cases h : s.object <;> simp [release, h]

/-- Giving an object up a second time does nothing. -/
theorem release_release (how : Disposal d α) (s : Slot d α) (e : Env d.State) :
    (s.release how e).1.release how (s.release how e).2 = s.release how e :=
  release_of_none (object_release how s e)

end Slot

end GpuCompute
