/-!
# Queue requests and queue slots

A list of family indices asks for one queue per entry. `requests` says how many queues of which
family a device must be made with, and `slots` at which index of its family each entry finds its
queue: a counter for each family gives the indices out.
-/

namespace GpuCompute.Queue

/-- A request for `count` queues of a family. -/
structure Request where
  family : UInt32
  count : UInt32
  deriving DecidableEq

/-- Requests with one more queue of a family. -/
def Request.add (family : UInt32) : List Request → List Request
  | [] => [⟨family, 1⟩]
  | r :: rs => if r.family = family then { r with count := r.count + 1 } :: rs
    else r :: add family rs

/-- One request for each family, in the order in which the families first appear. -/
def requests (families : List UInt32) : List Request :=
  families.foldl (fun rs family => Request.add family rs) []

/-- The next index of each family that was met so far. -/
abbrev Counters : Type := List (UInt32 × UInt32)

/-- The next index of a family, and the counters with it given out. A family that was not met begins
at 0. -/
def Counters.draw (family : UInt32) : Counters → UInt32 × Counters
  | [] => (0, [(family, 1)])
  | c :: cs =>
    if c.1 = family then (c.2, (c.1, c.2 + 1) :: cs)
    else
      let (index, cs) := draw family cs
      (index, c :: cs)

/-- The slots of families, each at the next index of its family. -/
def slotsFrom (counters : Counters) : List UInt32 → List (UInt32 × UInt32)
  | [] => []
  | family :: rest =>
    let (index, counters) := counters.draw family
    (family, index) :: slotsFrom counters rest

/-- For each entry its family and the index at which it finds its queue. -/
def slots (families : List UInt32) : List (UInt32 × UInt32) := slotsFrom [] families

/-- The handle of a queue. -/
abbrev Handle : Type := UInt64

/-- The handle that a driver gives to a queue: the bits of device, family and index side by side, and
a mark. -/
def handle (device : Nat) (family index : UInt32) : Handle :=
  (UInt64.ofNat device <<< 32) ||| (family.toUInt64 <<< 16) ||| index.toUInt64 ||| 0x80000000

end GpuCompute.Queue
