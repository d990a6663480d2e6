import GpuCompute.Text.Blank
import GpuCompute.Text.Utf8

/-!
# Configuration

What a manager is told when it is made, the defaults, and the two environment variables that name
validation layers. A variable that is not UTF-8 counts as unset.
-/

namespace GpuCompute

/-- A packed API version. -/
def packVersion (variant major minor patch : UInt32) : UInt32 :=
  (variant <<< 29) ||| (major <<< 22) ||| (minor <<< 12) ||| patch

/-- How a manager is to be set up. -/
structure Config where
  applicationName : String := "vkrt"
  applicationVersion : UInt32 := packVersion 0 0 1 0
  /-- The API version to ask for, packed. -/
  apiVersion : UInt32 := packVersion 0 1 2 0
  /-- Whether debug extensions, validation layers and driver callbacks are used. -/
  diagnostics : Bool := false
  /-- Whether the manager tracks what it makes and destroys what is left when it is torn down. -/
  manageResources : Bool := true
  instanceLayers : List String := []
  deviceLayers : List String := []
  deriving DecidableEq

/-- The process environment as far as it is read: the values of the two variables, if they are set. -/
structure Environment where
  instanceLayers : Option (List UInt8)
  deviceLayers : Option (List UInt8)

namespace Config

/-- The layers that a variable names. -/
def layersOf (value : Option (List UInt8)) : List String :=
  match value.bind Text.decode? with
  | some value => Text.wordsOf value
  | none => []

/-- The defaults with the layers that the environment names. -/
def ofEnvironment (env : Environment) : Config :=
  { instanceLayers := layersOf env.instanceLayers, deviceLayers := layersOf env.deviceLayers }

/-- The configuration with diagnostics on or off. -/
def withDiagnostics (c : Config) (enabled : Bool) : Config := { c with diagnostics := enabled }

/-- The configuration with resource management on or off. -/
def withManageResources (c : Config) (enabled : Bool) : Config :=
  { c with manageResources := enabled }

end Config

/-- Which adapter and queues a new device uses. -/
structure Selection where
  adapterIndex : UInt64 := 0
  /-- The queue family of each queue; empty for one queue of the first family that computes. -/
  families : List UInt32 := []
  extensions : List String := []
  deriving DecidableEq

end GpuCompute
