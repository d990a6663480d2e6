import GpuCompute.Registry

/-!
# A registry among its holders

Resources that count their handles and note when they are destroyed, the names and the list that have
these handles, and a registry. A resource is alive as long as there is a handle of it; the registry has
none. A handle that is replaced is released after the new one was put in its place.
-/

namespace GpuCompute

/-- A resource that counts its handles and notes what happens to it. -/
structure Item where
  name : String
  /-- How many handles of it there are; a new resource has one. -/
  handles : Nat := 1
  isDestroyed : Bool := false

/-- Resources by number, who has their handles, and the registry. -/
structure Shelf where
  items : List Item := []
  /-- The names, each with the resource of which it has a handle. -/
  held : List (String × Nat) := []
  /-- Resources of which there are handles without a name. -/
  kept : List Nat := []
  registry : Registry Nat := {}
  /-- What the resources noted, the oldest first. -/
  notes : List String := []

namespace Shelf

/-- An operation on a shelf. -/
inductive Operation
  /-- Makes a resource without registering it. -/
  | make (name : String)
  /-- Makes a resource and registers it. -/
  | create (name : String)
  | register (name : String)
  /-- Gives a name a handle of what another name holds. -/
  | share (name holder : String)
  /-- Gives a name one of the handles without a name. -/
  | adopt (name : String) (position : Nat)
  | drop (name : String)
  | destroy (name : String)
  | prune
  | destroyAll
  | alive
  | size
  /-- Keeps handles of the living entries of the registry. -/
  | keepAlive
  | releaseKept

/-- What an operation answers. -/
inductive Answer
  | nothing
  | truth (b : Bool)
  | count (n : Nat)
  | names (names : List String)

/-- The resource held under a name. -/
def find? (s : Shelf) (name : String) : Option Nat := s.held.lookup name

/-- How many handles of a resource there are. -/
def handles (s : Shelf) (i : Nat) : Nat := (s.items[i]?).elim 0 (·.handles)

/-- Whether there is a handle of a resource. -/
def isAlive (s : Shelf) (i : Nat) : Bool := 0 < s.handles i

/-- Whether a resource was destroyed. -/
def isDestroyed (s : Shelf) (i : Nat) : Bool := (s.items[i]?).any (·.isDestroyed)

/-- Whether a resource is alive and not destroyed. -/
def isUsable (s : Shelf) (i : Nat) : Bool := s.isAlive i && !s.isDestroyed i

/-! ## Handles -/

/-- Changes a resource. -/
def onItem (i : Nat) (f : Item → Item) (s : Shelf) : Shelf := { s with items := s.items.modify i f }

/-- Makes another handle of a resource. -/
def clone (i : Nat) : Shelf → Shelf := onItem i fun item => { item with handles := item.handles + 1 }

/-- Gives a handle of a resource up. -/
def release (i : Nat) : Shelf → Shelf := onItem i fun item => { item with handles := item.handles - 1 }

/-- Takes the handle of a name away. -/
def letGo (name : String) (s : Shelf) : Shelf :=
  let rest := { s with held := s.held.filter (·.1 != name) }
  match s.find? name with
  | none => rest
  | some old => rest.release old

/-- Puts a handle of a resource under a name. -/
def hold (name : String) (i : Nat) (s : Shelf) : Shelf :=
  let next := { s with held := s.held.filter (·.1 != name) ++ [(name, i)] }
  match s.find? name with
  | none => next
  | some old => next.release old

/-- Makes a resource and holds it under a name. -/
def add (name : String) (s : Shelf) : Shelf :=
  let item : Item := { name }
  { s with items := s.items ++ [item] }.hold name s.items.length

/-- Keeps new handles of resources in place of those that were kept. -/
def keepAll (l : List Nat) (s : Shelf) : Shelf :=
  s.kept.foldl (fun s i => s.release i) { l.foldl (fun s i => s.clone i) s with kept := l }

/-! ## Steps -/

/-- Destroys a resource, which notes the first time and the later ones. -/
def destroyItem (i : Nat) (s : Shelf) : Shelf :=
  match s.items[i]? with
  | none => s
  | some item =>
    { s.onItem i fun item => { item with isDestroyed := true } with
      notes := s.notes ++ [(if item.isDestroyed then "again " else "destroy ") ++ item.name] }

/-- The living entries of the registry. -/
def living (s : Shelf) : List Nat := s.registry.living s.isAlive

/-- One operation. -/
def step (s : Shelf) : Operation → Answer × Shelf
  | .make name => (.nothing, s.add name)
  | .create name =>
    (.nothing, { s.add name with registry := s.registry.register s.items.length })
  | .register name =>
    match s.find? name with
    | some i => (.truth true, { s with registry := s.registry.register i })
    | none => (.truth false, s)
  | .share name holder =>
    match s.find? holder with
    | some i => (.truth true, (s.clone i).hold name i)
    | none => (.truth false, s)
  | .adopt name position =>
    match s.kept[position]? with
    | some i => (.truth true, { s with kept := s.kept.eraseIdx position }.hold name i)
    | none => (.truth false, s)
  | .drop name => (.truth (s.find? name).isSome, s.letGo name)
  | .destroy name =>
    match s.find? name with
    | some i => (.truth true, s.destroyItem i)
    | none => (.truth false, s)
  | .prune =>
    let (dropped, registry) := s.registry.prune s.isUsable
    (.count dropped, { s with registry })
  | .destroyAll =>
    let (reached, s') := s.registry.destroyAll s.isAlive destroyItem s
    (.count reached, { s' with registry := {} })
  | .alive => (.names (s.living.filterMap fun i => s.items[i]?.map (·.name)), s)
  | .size => (.count s.registry.size, s)
  | .keepAlive => (.count s.living.length, s.keepAll s.living)
  | .releaseKept => (.nothing, s.keepAll [])

/-- The shelf after operations. -/
def steps (operations : List Operation) (s : Shelf) : Shelf :=
  operations.foldl (fun s o => (s.step o).2) s

end Shelf

end GpuCompute
