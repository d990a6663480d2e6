import GpuCompute.Vulkan.Site

/-!
# Command batches

A command batch has a command pool with one command buffer, a fence, and, if it takes timestamps, a
query pool for them. When one of them cannot be made, those before it are given back, the last one
first, as they are when the whole batch is destroyed.
-/

namespace GpuCompute.Vulkan

/-- The objects of a command batch. The null handle is in the place of one that is not there. -/
structure CommandBatch where
  pool : Nat := 0
  buffer : Nat := 0
  fence : Nat := 0
  timestampPool : Option Nat := none
  deriving DecidableEq

namespace CommandBatch

/-- The flag of pools whose buffers are reset one by one. -/
def resettable : UInt32 := 2

/-- The level of buffers that are submitted to queues. -/
def primaryLevel : UInt32 := 0

/-- The type of queries for timestamps. -/
def timestampQuery : UInt32 := 2

/-- How many queries a number of timestamps takes: one more, for the time at which the batch starts. The
sum has 32 bits, so that the largest number of timestamps takes none. -/
def queryCount (timestamps : UInt32) : UInt32 := timestamps + 1

/-- Makes the objects of a command batch one after the other; no query pool if no timestamps are
taken. -/
def build (device : Nat) (family timestamps : UInt32) : Attempt (Site CommandBatch) Unit := do
  let make (what : Creation) : Attempt Api Nat := Api.make (.create device what)
  Site.fill (fun b pool => { b with pool }) fun _ => make (.commandPool family resettable)
  Site.fill (fun b buffer => { b with buffer }) fun b => make (.commandBuffers b.pool primaryLevel 1)
  Site.fill (fun b fence => { b with fence }) fun _ => make (.fence 0)
  if timestamps ≠ 0 then
    Site.fill (fun b queries => { b with timestampPool := some queries }) fun _ =>
      make (.queryPool timestampQuery (queryCount timestamps))

/-- Destroys those objects of a command batch that are there, in the reverse of the order in which they
were made. -/
def destroy (device : Nat) (b : CommandBatch) (a : Api) : Api :=
  let a := match b.timestampPool with
    | some queries => a.call (.destroy device .queryPool queries)
    | none => a
  let a := a.destroyObject device .fence b.fence
  if b.pool = 0 then a
  else
    let a := if b.buffer = 0 then a else a.call (.freeCommandBuffers device b.pool [b.buffer])
    a.call (.destroy device .commandPool b.pool)

/-- Makes a command batch. -/
def create (device : Nat) (family timestamps : UInt32) : Attempt Api CommandBatch :=
  assemble {} (destroy device) (build device family timestamps)

/-- The text of a command batch. -/
def debug (b : CommandBatch) : String :=
  Text.showRecord "VulkanCommandBatch"
    [("command_pool", Text.showHandle b.pool), ("command_buffer", Text.showHandle b.buffer),
      ("fence", Text.showHandle b.fence),
      ("timestamp_pool", Text.showOption (b.timestampPool.map Text.showHandle))]

end CommandBatch

end GpuCompute.Vulkan
