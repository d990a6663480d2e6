/-!
# Log records

What the library reports while it works: a record has a level, a message and named text fields.
Records of a driver's validation layers are marked as such.
-/

namespace GpuCompute.Log

/-- How severe a record is. -/
inductive Level
  | error
  | warn
  | info
  | debug
  deriving DecidableEq

namespace Level

/-- The level's name as records show it. -/
def name : Level → String
  | .error => "ERROR"
  | .warn => "WARN"
  | .info => "INFO"
  | .debug => "DEBUG"

/-- Position in the order of severity, the most severe first. -/
def rank : Level → Nat
  | .error => 0
  | .warn => 1
  | .info => 2
  | .debug => 3

/-- `a.reaches b` says that a record of level `a` is at least as severe as `b`. -/
def reaches (a b : Level) : Bool := a.rank ≤ b.rank

end Level

/-- Who speaks in a record. -/
inductive Origin
  /-- The library itself. -/
  | library
  /-- A validation layer of the driver. -/
  | validationLayer
  deriving DecidableEq

/-- One log record. -/
structure Record where
  level : Level
  message : String
  fields : List (String × String) := []
  origin : Origin := .library
  deriving DecidableEq

end GpuCompute.Log
