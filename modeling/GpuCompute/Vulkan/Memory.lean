import GpuCompute.Vulkan.Api

/-!
# Device memory

Buffers get their memory from an allocator. Memory comes from the API in blocks, one list of blocks
for each memory type; a block is mapped as long as it exists. Small requests share blocks of a fixed
size and larger ones get a block of their own. A block is a list of chunks in address order, and a
request takes the smallest free chunk that has room for it. Memory is given back by the number of its
chunk.

The driver does not depend on how this is done: it is given a `MemoryLibrary`, of which this allocator is
one (`MemoryLibrary.own`).
-/

namespace GpuCompute.Vulkan

/-- A stretch of a block, with its number in the block. -/
structure Chunk where
  id : Nat
  size : Nat
  isFree : Bool
  deriving DecidableEq

/-- A block of device memory. -/
structure Block where
  /-- Whether the block was made for a single request. -/
  isPersonal : Bool
  chunks : List Chunk
  /-- The number for the next chunk that is split off another. -/
  nextId : Nat
  /-- How many bytes were taken, less those given back. What is given back twice counts twice. -/
  taken : Int
  deriving DecidableEq

/-- The blocks of a memory type. A place of the list can be vacant. -/
structure MemoryPool where
  type : MemoryType
  blocks : List (Option Block) := []
  deriving DecidableEq

/-- Where allocated memory is: the memory type, the block and the chunk. -/
structure Allocation where
  pool : Nat
  block : Nat
  chunk : Nat
  deriving DecidableEq

/-- An allocator of a device. -/
structure Allocator where
  device : Nat
  pools : List MemoryPool
  deriving DecidableEq

/-- Why memory cannot be given back. All of these say that another allocator allocated it. -/
inductive FreeFault
  | vacantPlace
  | unknownChunk
  /-- A block for a single request was asked for another chunk than the one it consists of. -/
  | notWholeBlock
  deriving DecidableEq

/-- The wording of the fault. -/
def FreeFault.message : FreeFault → String
  | .vacantPlace => "Internal error: Memory block must be Some."
  | .unknownChunk => "Internal error: Attempting to free chunk that is not in chunk list."
  | .notWholeBlock => "Internal error: Chunk ID must be 1."

/-! ## Chunks -/

/-- A free chunk with room for a request. -/
structure Gap where
  id : Nat
  size : Nat
  /-- How much of the chunk the request takes: its size and what brings its start into alignment. -/
  needed : Nat

/-- What brings an offset up to a multiple of an alignment. -/
def padding (alignment offset : Nat) : Nat := (alignment - offset % alignment) % alignment

namespace Chunk

/-- The gaps for a request among chunks of which the first starts at an offset. -/
def gapsFrom (size alignment : Nat) : (start : Nat) → List Chunk → List Gap
  | _, [] => []
  | start, c :: cs =>
    let needed := padding alignment start + size
    let gaps := gapsFrom size alignment (start + c.size) cs
    if c.isFree && needed ≤ c.size then ⟨c.id, c.size, needed⟩ :: gaps else gaps

/-- The smaller of two gaps, and of equal ones the first. -/
def smaller (a b : Gap) : Gap := if b.size < a.size then b else a

/-- The smallest gap for a request. -/
def bestGap? (size alignment : Nat) (chunks : List Chunk) : Option Gap :=
  match gapsFrom size alignment 0 chunks with
  | [] => none
  | g :: gs => some (gs.foldl smaller g)

/-- Takes the first `needed` bytes of a chunk. If that is not all of it, the bytes get a chunk of
their own, and the old number stays with the rest. -/
def take (needed fresh id : Nat) : List Chunk → List Chunk
  | [] => []
  | c :: cs =>
    if c.id = id then
      if needed < c.size then ⟨fresh, needed, false⟩ :: { c with size := c.size - needed } :: cs
      else { c with isFree := false } :: cs
    else c :: take needed fresh id cs

/-- Puts a chunk before others; two free chunks become one, which has the number of the first. -/
def joinFree (c : Chunk) : List Chunk → List Chunk
  | [] => [c]
  | c' :: cs =>
    if c.isFree && c'.isFree then { c with size := c.size + c'.size } :: cs else c :: c' :: cs

/-- Gives a chunk back. -/
def giveBack (id : Nat) : List Chunk → List Chunk
  | [] => []
  | c :: cs =>
    if c.id = id then joinFree { c with isFree := true } cs else joinFree c (giveBack id cs)

end Chunk

/-! ## Blocks -/

/-- How large the blocks are that requests share. -/
def blockSize : Nat := 64 * 1024 * 1024

namespace Block

/-- The number of the chunk that a block begins with. -/
def firstId : Nat := 1

/-- A block that requests share. -/
def shared : Block := ⟨false, [⟨firstId, blockSize, true⟩], firstId + 1, 0⟩

/-- A block for a single request. -/
def personal (size : Nat) : Block := ⟨true, [⟨firstId, size, false⟩], firstId + 1, size⟩

/-- Takes memory from a block, if it has room. -/
def place? (size alignment : Nat) (b : Block) : Option (Nat × Block) :=
  (Chunk.bestGap? size alignment b.chunks).map fun gap =>
    let chunks := Chunk.take gap.needed b.nextId gap.id b.chunks
    let taken := b.taken + gap.needed
    if gap.needed < gap.size then (b.nextId, { b with chunks, taken, nextId := b.nextId + 1 })
    else (gap.id, { b with chunks, taken })

/-- Gives a chunk of a block back. -/
def giveBack (chunk : Nat) (b : Block) : Except FreeFault Block :=
  match b.chunks.find? fun c => c.id == chunk with
  | none => .error (if b.isPersonal then .notWholeBlock else .unknownChunk)
  | some c => .ok { b with
      chunks := Chunk.giveBack chunk b.chunks
      taken := b.taken - c.size }

/-- Whether nothing of a block is taken. -/
def isEmpty (b : Block) : Bool := b.taken == 0

end Block

/-! ## Memory types -/

namespace MemoryPool

/-- The last block that has room for a request, with the request placed. -/
def place? (size alignment : Nat) (p : MemoryPool) : Option (Nat × Nat × MemoryPool) :=
  p.blocks.zipIdx.reverse.findSome? fun entry =>
    (entry.1.bind (Block.place? size alignment)).map fun placed =>
      (entry.2, placed.1, { p with blocks := p.blocks.set entry.2 (some placed.2) })

/-- The vacant places. -/
def vacant (p : MemoryPool) : List Nat := (List.range p.blocks.length).filter fun i =>
  p.blocks[i]? == some none

/-- Puts a block into a vacant place, or at the end if there is none. -/
def put (place : Option Nat) (b : Block) (p : MemoryPool) : Nat × MemoryPool :=
  match place with
  | some i => (i, { p with blocks := p.blocks.set i (some b) })
  | none => (p.blocks.length, { p with blocks := p.blocks ++ [some b] })

/-- How many blocks are shared. -/
def sharedCount (p : MemoryPool) : Nat :=
  p.blocks.countP fun b => b.any fun b => !b.isPersonal

/-- Gets a mapped block of memory from the API. -/
def mapBlock (device : Nat) : Attempt Api Unit := do
  Api.check (.allocateMemory device) fun code =>
    .allocation (if code.raw = -2 then .outOfMemory else .unexpected code)
  Attempt.undoing (Api.call (.freeMemory device)) do
    Api.check (.mapMemory device) fun code => .allocation (.notMapped code)

/-- Returns a block of memory to the API. -/
def unmapBlock (device : Nat) (a : Api) : Api :=
  (a.call (.unmapMemory device)).call (.freeMemory device)

/-- Finds memory for a request, in a new block if need be. -/
def allocate (device size alignment : Nat) (p : MemoryPool) :
    Attempt Api (Nat × Nat × MemoryPool) := do
  if blockSize < size then
    mapBlock device
    let (i, p) := p.put p.vacant.head? (.personal size)
    return (i, Block.firstId, p)
  else match p.place? size alignment with
    | some placed => return placed
    | none =>
      mapBlock device
      let (chunk, block) := (Block.shared.place? size alignment).getD (Block.firstId, .shared)
      let (i, p) := p.put p.vacant.getLast? block
      return (i, chunk, p)

/-- Gives memory back. A block that is empty then goes back to the API, but not the last shared
one. -/
def free (device block chunk : Nat) (p : MemoryPool) (a : Api) :
    Except FreeFault (MemoryPool × Api) :=
  match p.blocks[block]?.join with
  | none => .error .vacantPlace
  | some b => do
    let b ← b.giveBack chunk
    if b.isEmpty && (b.isPersonal || 1 < p.sharedCount) then
      return ({ p with blocks := p.blocks.set block none }, unmapBlock device a)
    else return ({ p with blocks := p.blocks.set block (some b) }, a)

end MemoryPool

/-! ## Allocators -/

/-- Whether a number is a power of two. -/
def isPowerOfTwo (n : Nat) : Bool := n != 0 && n &&& (n - 1) == 0

/-- Memory that the host can write to directly, close to the device. -/
def preferredFlags : UInt32 := 7

/-- Memory that the host can write to directly. -/
def requiredFlags : UInt32 := 6

namespace Allocator

/-- An allocator without blocks. -/
def ofMemory (device : Nat) (memory : HostMemory) : Allocator :=
  ⟨device, memory.types.map fun type => { type }⟩

/-- An allocator for a device, after the adapter was asked for its memory. -/
def forDevice (inst : Nat) (adapter : AdapterHandle) (device : Nat) : Attempt Api Allocator := do
  if adapter = 0 then throw (.allocation .nullAdapter)
  modify (Api.call (.adapterMemory inst adapter))
  modify (Api.call (.adapterProperties inst adapter))
  return .ofMemory device (← get).host.memory

/-- The first memory type that a buffer can use and that has all of the given flags. -/
def findType? (flags : UInt32) (r : Requirements) (a : Allocator) : Option Nat :=
  (a.pools.zipIdx.find? fun entry =>
    r.typeBits.toNat.testBit entry.2 && entry.1.type.flags &&& flags == flags).map (·.2)

/-- Finds memory of a type. -/
def allocateIn (type : Nat) (r : Requirements) (a : Allocator) :
    Attempt Api (Allocation × Allocator) := do
  match a.pools[type]? with
  | none => throw (.allocation .noMemoryType)
  | some pool =>
    let (block, chunk, pool) ← pool.allocate a.device r.size r.alignment
    return (⟨type, block, chunk⟩, { a with pools := a.pools.set type pool })

/-- Whether a request is larger than the heap of a memory type. -/
def exceedsHeap (type : Nat) (r : Requirements) (a : Allocator) : Bool :=
  (a.pools[type]?).any fun pool => pool.type.heapSize < r.size

/-- Finds memory for a buffer: of the first type with the preferred flags, or with the required ones
if no type has those. When that fails, the first type with the required flags is tried, however
large its heap. -/
def allocate (r : Requirements) (a : Allocator) : Attempt Api (Allocation × Allocator) :=
  if r.size = 0 || !isPowerOfTwo r.alignment then throw (.allocation .invalidRequest)
  else match (a.findType? preferredFlags r).or (a.findType? requiredFlags r) with
    | none => throw (.allocation .noMemoryType)
    | some type =>
      Attempt.otherwise
        (if a.exceedsHeap type r then throw (.allocation .outOfMemory) else a.allocateIn type r)
        (match a.findType? requiredFlags r with
          | none => throw (.allocation .noMemoryType)
          | some type => a.allocateIn type r)

/-- Gives memory back. -/
def free (allocation : Allocation) (a : Allocator) (api : Api) :
    Except FreeFault (Allocator × Api) :=
  match a.pools[allocation.pool]? with
  | none => .error .vacantPlace
  | some pool => do
    let (pool, api) ← pool.free a.device allocation.block allocation.chunk api
    return ({ a with pools := a.pools.set allocation.pool pool }, api)

/-- How many blocks an allocator has. -/
def blockCount (a : Allocator) : Nat :=
  a.pools.foldr (fun pool n => pool.blocks.countP Option.isSome + n) 0

/-- Returns all blocks to the API. -/
def close (a : Allocator) (api : Api) : Api :=
  (List.range a.blockCount).foldl (fun api _ => MemoryPool.unmapBlock a.device api) api

end Allocator

/-! ## Libraries -/

/-- What a library does that manages the memory of devices. -/
structure MemoryLibrary where
  /-- An allocator for a device of an instance and an adapter. -/
  newAllocator : Nat → AdapterHandle → Nat → Attempt Api Allocator
  /-- Finds memory for a buffer. -/
  allocate : Requirements → Allocator → Attempt Api (Allocation × Allocator)
  /-- Gives memory back. -/
  free : Allocation → Allocator → Api → Except FreeFault (Allocator × Api)
  /-- Ends an allocator, with the memory that it still has. -/
  close : Allocator → Api → Api

/-- The library that consists of the allocators above. -/
def MemoryLibrary.own : MemoryLibrary where
  newAllocator := Allocator.forDevice
  allocate := Allocator.allocate
  free := Allocator.free
  close := Allocator.close

end GpuCompute.Vulkan
