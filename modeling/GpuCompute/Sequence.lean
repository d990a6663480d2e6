import GpuCompute.Slot

/-!
# Sequences

A batch of commands for one queue of a device.
-/

namespace GpuCompute

/-- A command batch and the queue it runs on. -/
structure Sequence (d : Driver) where
  adapter : AdapterHandle
  queue : Queue.Handle
  family : UInt32
  /-- How many timestamps can be taken. -/
  timestamps : UInt32
  batch : Slot d d.Batch

namespace Sequence

variable {d : Driver}

/-- Makes a sequence for a queue. -/
def create (device : d.Device) (adapter : AdapterHandle) (queue : Queue.Handle)
    (family timestamps : UInt32) : Act d.State (Sequence d) := do
  let batch ← d.createBatch device family timestamps
  Act.debug "sequence created"
    [("queue_family_index", toString family.toNat),
      ("total_timestamps", toString timestamps.toNat)]
  return { adapter, queue, family, timestamps, batch := { device, object := some batch } }

/-- Whether the batch is still there. -/
def isInit (s : Sequence d) : Bool := s.batch.isInit

/-- How a sequence's batch is destroyed. -/
def disposal (s : Sequence d) : Disposal d d.Batch where
  destroy := d.destroyBatch
  destroyed :=
    { level := .debug, message := "sequence destroyed",
      fields := [("queue_family_index", toString s.family.toNat)] }
  abandoned :=
    { level := .warn,
      message := "sequence outlived its device; command pool left to the device owner",
      fields := [("queue_family_index", toString s.family.toNat)] }

/-- Destroys the batch, if it is still there. -/
def destroy (s : Sequence d) (e : Env d.State) : Sequence d × Env d.State :=
  let (batch, e) := s.batch.release s.disposal e
  ({ s with batch }, e)

/-- The text of a sequence. -/
def debug (s : Sequence d) : String :=
  Text.showRecord "Sequence"
    [("queue", Text.showHandle s.queue.toNat),
      ("queue_family_index", toString s.family.toNat),
      ("timestamp_capacity", toString s.timestamps.toNat), ("init", Text.showBool s.isInit)]

end Sequence

end GpuCompute
