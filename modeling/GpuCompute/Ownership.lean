import GpuCompute.Text.Debug

/-!
# Ownership

A handle is owned, and then must be destroyed by whoever holds it, or borrowed, and then must not.
-/

namespace GpuCompute

/-- A handle with the duty to destroy it, or without. -/
inductive Ownership (η : Type) where
  | owned (h : η)
  | borrowed (h : η)
  deriving DecidableEq

namespace Ownership

variable {η σ : Type}

/-- The handle itself. -/
def handle : Ownership η → η
  | .owned h | .borrowed h => h

/-- Whether the handle is owned. -/
def isOwned : Ownership η → Bool
  | .owned _ => true
  | .borrowed _ => false

/-- Gives the handle up: an owned one is destroyed. Tells whether it was. -/
def release (o : Ownership η) (destroy : η → σ → σ) (s : σ) : Bool × σ :=
  match o with
  | .owned h => (true, destroy h s)
  | .borrowed _ => (false, s)

/-- The text of an owned or borrowed handle. -/
def debug (text : η → String) : Ownership η → String
  | .owned h => Text.showTuple "Owned" [text h]
  | .borrowed h => Text.showTuple "Borrowed" [text h]

end Ownership

end GpuCompute
