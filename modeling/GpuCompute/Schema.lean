import GpuCompute.Adapter
import GpuCompute.Config
import GpuCompute.Error
import GpuCompute.Json.Read
import GpuCompute.Json.Write

/-!
# Descriptions in JSON

The JSON form of configurations, selections, device properties and of the enumerations. Members that
a configuration leaves out have their defaults; the other records must be complete.
-/

namespace GpuCompute

open Json

/-! ## Enumerations -/

/-- The capability kinds by name. -/
def CapabilityKind.variants : List (String × CapabilityKind) := all.map fun k => (k.label, k)

/-- The device kinds by name. -/
def DeviceKind.variants : List (String × DeviceKind) := all.map fun k => (k.label, k)

/-- The data types by name. -/
def DataType.variants : List (String × DataType) := all.map fun k => (k.label, k)

/-! ## Members -/

/-- A member that holds an optional value of a record: read once, stored with `set`. -/
def memberOf {σ α : Type} (name : String) (get : σ → Option α) (set : σ → α → σ)
    (reader : Reader α) : Member σ where
  name := name
  isGiven record := (get record).isSome
  read record s := (reader s).map fun p => (set record p.1, p.2)

/-! ## Configurations -/

/-- The members of a configuration that a text gives. -/
structure PartialConfig where
  applicationName : Option String := none
  applicationVersion : Option UInt32 := none
  apiVersion : Option UInt32 := none
  diagnostics : Option Bool := none
  manageResources : Option Bool := none
  instanceLayers : Option (List String) := none
  deviceLayers : Option (List String) := none

namespace PartialConfig

/-- How a configuration is read. -/
def shape : RecordShape PartialConfig where
  name := "ManagerConfig"
  members :=
    [memberOf "application_name" (·.applicationName)
        (fun c v => { c with applicationName := some v }) readText,
      memberOf "application_version" (·.applicationVersion)
        (fun c v => { c with applicationVersion := some v }) readUInt32,
      memberOf "api_version" (·.apiVersion)
        (fun c v => { c with apiVersion := some v }) readUInt32,
      memberOf "diagnostics" (·.diagnostics)
        (fun c v => { c with diagnostics := some v }) readBool,
      memberOf "manage_resources" (·.manageResources)
        (fun c v => { c with manageResources := some v }) readBool,
      memberOf "instance_layers" (·.instanceLayers)
        (fun c v => { c with instanceLayers := some v }) (readList readText),
      memberOf "device_layers" (·.deviceLayers)
        (fun c v => { c with deviceLayers := some v }) (readList readText)]
  start := {}
  mayEndEarly := true

/-- The configuration with the given members laid over a base. -/
def overlay (p : PartialConfig) (base : Config) : Config where
  applicationName := p.applicationName.getD base.applicationName
  applicationVersion := p.applicationVersion.getD base.applicationVersion
  apiVersion := p.apiVersion.getD base.apiVersion
  diagnostics := p.diagnostics.getD base.diagnostics
  manageResources := p.manageResources.getD base.manageResources
  instanceLayers := p.instanceLayers.getD base.instanceLayers
  deviceLayers := p.deviceLayers.getD base.deviceLayers

end PartialConfig

namespace Config

/-- Reads a configuration; what it leaves out has its default. -/
def reader : Reader Config := fun s =>
  (readRecord PartialConfig.shape s).map fun p => (p.1.overlay {}, p.2)

/-- The configuration that a JSON text describes. -/
def ofJson (text : String) : Except Error Config :=
  (readAll reader text).mapError fun e => .invalidState (.badConfig e)

/-- The members of a configuration, written. -/
def jsonMembers (c : Config) : List (String × List Char) :=
  [("application_name", writeText c.applicationName),
    ("application_version", writeNat c.applicationVersion.toNat),
    ("api_version", writeNat c.apiVersion.toNat),
    ("diagnostics", writeBool c.diagnostics),
    ("manage_resources", writeBool c.manageResources),
    ("instance_layers", writeList (c.instanceLayers.map writeText)),
    ("device_layers", writeList (c.deviceLayers.map writeText))]

/-- The JSON text of a configuration. -/
def toJson (c : Config) : String := String.ofList (writeObject c.jsonMembers)

end Config

/-! ## Selections -/

/-- The members of a selection that a text gives. -/
structure PartialSelection where
  adapterIndex : Option UInt64 := none
  families : Option (List UInt32) := none
  extensions : Option (List String) := none

/-- How a selection is read. -/
def PartialSelection.shape : RecordShape PartialSelection where
  name := "DeviceSelection"
  members :=
    [memberOf "physical_device_index" (·.adapterIndex)
        (fun c v => { c with adapterIndex := some v }) readUInt64,
      memberOf "queue_family_indices" (·.families)
        (fun c v => { c with families := some v }) (readList readUInt32),
      memberOf "desired_extensions" (·.extensions)
        (fun c v => { c with extensions := some v }) (readList readText)]
  start := {}
  mayEndEarly := false

namespace Selection

/-- Reads a selection. -/
def reader : Reader Selection := fun s => do
  let (p, s) ← readRecord PartialSelection.shape s
  let adapterIndex ← require "physical_device_index" p.adapterIndex
  let families ← require "queue_family_indices" p.families
  let extensions ← require "desired_extensions" p.extensions
  return ({ adapterIndex, families, extensions }, s)

/-- The members of a selection, written. -/
def jsonMembers (c : Selection) : List (String × List Char) :=
  [("physical_device_index", writeNat c.adapterIndex.toNat),
    ("queue_family_indices", writeList (c.families.map fun f => writeNat f.toNat)),
    ("desired_extensions", writeList (c.extensions.map writeText))]

/-- The JSON text of a selection. -/
def toJson (c : Selection) : String := String.ofList (writeObject c.jsonMembers)

end Selection

/-! ## Device properties -/

/-- The members of device properties that a text gives. -/
structure PartialProperties where
  name : Option String := none
  kind : Option DeviceKind := none
  vendorId : Option UInt32 := none
  deviceId : Option UInt32 := none
  apiVersion : Option UInt32 := none
  driverVersion : Option UInt32 := none
  maxComputeSharedMemorySize : Option UInt32 := none
  maxComputeWorkGroupInvocations : Option UInt32 := none
  maxComputeWorkGroupCount : Option Extent := none
  maxPushConstantsSize : Option UInt32 := none
  timestampPeriod : Option UInt32 := none

/-- Reads an extent from a list of three integers. -/
def Extent.reader : Reader Extent := fun s =>
  (readArray readUInt32 3 s).map fun p =>
    (⟨p.1.getD 0 0, p.1.getD 1 0, p.1.getD 2 0⟩, p.2)

/-- How device properties are read. -/
def PartialProperties.shape : RecordShape PartialProperties where
  name := "DeviceProperties"
  members :=
    [memberOf "name" (·.name) (fun c v => { c with name := some v }) readText,
      memberOf "kind" (·.kind) (fun c v => { c with kind := some v })
        (readVariant DeviceKind.variants),
      memberOf "vendor_id" (·.vendorId) (fun c v => { c with vendorId := some v }) readUInt32,
      memberOf "device_id" (·.deviceId) (fun c v => { c with deviceId := some v }) readUInt32,
      memberOf "api_version" (·.apiVersion) (fun c v => { c with apiVersion := some v })
        readUInt32,
      memberOf "driver_version" (·.driverVersion) (fun c v => { c with driverVersion := some v })
        readUInt32,
      memberOf "max_compute_shared_memory_size" (·.maxComputeSharedMemorySize)
        (fun c v => { c with maxComputeSharedMemorySize := some v }) readUInt32,
      memberOf "max_compute_work_group_invocations" (·.maxComputeWorkGroupInvocations)
        (fun c v => { c with maxComputeWorkGroupInvocations := some v }) readUInt32,
      memberOf "max_compute_work_group_count" (·.maxComputeWorkGroupCount)
        (fun c v => { c with maxComputeWorkGroupCount := some v }) Extent.reader,
      memberOf "max_push_constants_size" (·.maxPushConstantsSize)
        (fun c v => { c with maxPushConstantsSize := some v }) readUInt32,
      memberOf "timestamp_period" (·.timestampPeriod)
        (fun c v => { c with timestampPeriod := some v }) readSingle]
  start := {}
  mayEndEarly := false

namespace DeviceProperties

/-- Reads device properties. -/
def reader : Reader DeviceProperties := fun s => do
  let (p, s) ← readRecord PartialProperties.shape s
  let name ← require "name" p.name
  let kind ← require "kind" p.kind
  let vendorId ← require "vendor_id" p.vendorId
  let deviceId ← require "device_id" p.deviceId
  let apiVersion ← require "api_version" p.apiVersion
  let driverVersion ← require "driver_version" p.driverVersion
  let maxComputeSharedMemorySize ←
    require "max_compute_shared_memory_size" p.maxComputeSharedMemorySize
  let maxComputeWorkGroupInvocations ←
    require "max_compute_work_group_invocations" p.maxComputeWorkGroupInvocations
  let maxComputeWorkGroupCount ←
    require "max_compute_work_group_count" p.maxComputeWorkGroupCount
  let maxPushConstantsSize ← require "max_push_constants_size" p.maxPushConstantsSize
  let timestampPeriod ← require "timestamp_period" p.timestampPeriod
  return ({ name, kind, vendorId, deviceId, apiVersion, driverVersion,
            maxComputeSharedMemorySize, maxComputeWorkGroupInvocations,
            maxComputeWorkGroupCount, maxPushConstantsSize, timestampPeriod }, s)

/-- The members of device properties, written. -/
def jsonMembers (p : DeviceProperties) : List (String × List Char) :=
  [("name", writeText p.name),
    ("kind", writeText p.kind.label),
    ("vendor_id", writeNat p.vendorId.toNat),
    ("device_id", writeNat p.deviceId.toNat),
    ("api_version", writeNat p.apiVersion.toNat),
    ("driver_version", writeNat p.driverVersion.toNat),
    ("max_compute_shared_memory_size", writeNat p.maxComputeSharedMemorySize.toNat),
    ("max_compute_work_group_invocations", writeNat p.maxComputeWorkGroupInvocations.toNat),
    ("max_compute_work_group_count",
      writeList (p.maxComputeWorkGroupCount.toList.map fun n => writeNat n.toNat)),
    ("max_push_constants_size", writeNat p.maxPushConstantsSize.toNat),
    ("timestamp_period", writeSingle p.timestampPeriod)]

/-- The JSON text of device properties. -/
def toJson (p : DeviceProperties) : String := String.ofList (writeObject p.jsonMembers)

end DeviceProperties

/-! ## Compact form -/

/-- The types whose JSON texts can be brought into compact form. -/
inductive Described
  | selection
  | properties
  | deviceKind
  | dataType
  | capabilityKind

/-- The JSON text of a variant without data. -/
def variantJson (label : String) : String := String.ofList (writeText label)

/-- The compact form of a text that describes a value of a type. -/
def Described.compact (d : Described) (text : String) : Except ReadError String :=
  match d with
  | .selection => (readAll Selection.reader text).map (·.toJson)
  | .properties => (readAll DeviceProperties.reader text).map (·.toJson)
  | .deviceKind => (readAll (readVariant DeviceKind.variants) text).map (variantJson ·.label)
  | .dataType => (readAll (readVariant DataType.variants) text).map (variantJson ·.label)
  | .capabilityKind =>
    (readAll (readVariant CapabilityKind.variants) text).map (variantJson ·.label)

end GpuCompute
