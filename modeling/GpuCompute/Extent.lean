import GpuCompute.Text.Debug

/-!
# Extents

Sizes along the three axes of a dispatch.
-/

namespace GpuCompute

/-- A size along each of three axes. -/
structure Extent where
  x : UInt32
  y : UInt32
  z : UInt32
  deriving DecidableEq

namespace Extent

/-- The three sizes. -/
def toList (e : Extent) : List UInt32 := [e.x, e.y, e.z]

/-- The sizes as messages show them. -/
def text (e : Extent) : String := Text.showList (e.toList.map fun n => toString n.toNat)

end Extent

end GpuCompute
