import GpuCompute.Text.Debug

/-!
# Registries

A registry lists resources that it does not keep alive, in the order in which they were registered.
Which resources are alive it is told from outside: by those who hold them.
-/

namespace GpuCompute

/-- Registered resources, by identity and with repetitions. -/
structure Registry (ι : Type) where
  entries : List ι := []
  deriving DecidableEq

namespace Registry

variable {ι σ : Type}

/-- Adds a resource at the end. -/
def register (r : Registry ι) (i : ι) : Registry ι := ⟨r.entries ++ [i]⟩

/-- The entries whose resource is alive, in order. -/
def living (r : Registry ι) (alive : ι → Bool) : List ι := r.entries.filter alive

/-- Keeps the entries that are wanted. Tells how many were dropped. -/
def prune (r : Registry ι) (wanted : ι → Bool) : Nat × Registry ι :=
  let kept := r.entries.filter wanted
  (r.entries.length - kept.length, ⟨kept⟩)

/-- Destroys what is alive, entry by entry in order. Tells how many entries were reached; the
registry is empty afterwards. -/
def destroyAll (r : Registry ι) (alive : ι → Bool) (destroy : ι → σ → σ) (s : σ) : Nat × σ :=
  ((r.living alive).length, (r.living alive).foldl (fun s i => destroy i s) s)

/-- How many entries there are, dead ones included. -/
def size (r : Registry ι) : Nat := r.entries.length

/-- The text of a registry. -/
def debug (r : Registry ι) (alive : ι → Bool) : String :=
  Text.showRecord "Registry"
    [("entries", toString r.size), ("alive", toString (r.living alive).length)]

end Registry

end GpuCompute
