import GpuCompute.Element
import GpuCompute.Slot

/-!
# Tensors

An array of elements on the host, with a buffer of the same size on a device. The two copies are not
kept equal here: the tensor only has the storage.
-/

namespace GpuCompute

/-- An array on the host with its buffer. -/
structure Tensor (d : Driver) where
  dataType : DataType
  elementCount : UInt64
  elementSize : UInt64
  /-- The type of descriptor by which pipelines made from now on bind the buffer. -/
  descriptorType : DescriptorType := .storageBuffer
  bytes : List UInt8
  buffer : Slot d d.Buffer

namespace Tensor

variable {d : Driver}

/-- What tensor buffers are used for: storage, uniforms, and copies in both directions. -/
def bufferUsage : UInt32 := 0x33

/-- Whether `length` bytes are `count` elements of `size` bytes each. -/
def fits (length : Nat) (count size : UInt64) : Bool :=
  size != 0 && count.toNat * size.toNat < UInt64.size && length == count.toNat * size.toNat

/-- Makes a tensor of the given bytes. -/
def create (device : d.Device) (bytes : List UInt8) (count size : UInt64) (dataType : DataType) :
    Act d.State (Tensor d) := do
  if !fits bytes.length count size then
    throw (.invalidState (.dataLength bytes.length count size))
  let buffer ← d.createBuffer device (.ofNat bytes.length) bufferUsage
  Act.debug "tensor created"
    [("data_type", dataType.label), ("element_count", toString count.toNat)]
  return { dataType, elementCount := count, elementSize := size, bytes,
           buffer := { device, object := some buffer } }

/-- How many bytes the elements take. -/
def memorySize (t : Tensor d) : UInt64 := t.elementCount * t.elementSize

/-- Whether the buffer is still there. -/
def isInit (t : Tensor d) : Bool := t.buffer.isInit

/-- How a tensor's buffer is destroyed. -/
def disposal (t : Tensor d) : Disposal d d.Buffer where
  destroy := d.destroyBuffer
  destroyed :=
    { level := .debug, message := "tensor destroyed", fields := [("data_type", t.dataType.label)] }
  abandoned :=
    { level := .warn, message := "tensor outlived its device; buffer left to the device owner",
      fields := [("data_type", t.dataType.label)] }

/-- Destroys the buffer, if it is still there. The bytes stay. -/
def destroy (t : Tensor d) (e : Env d.State) : Tensor d × Env d.State :=
  let (buffer, e) := t.buffer.release t.disposal e
  ({ t with buffer }, e)

/-- Whether the elements can be read and written as elements of a type. -/
def holds (t : Tensor d) (type : ElementType) : Bool :=
  t.dataType == type.dataType && t.elementSize.toNat == type.size

/-- The elements, read as elements of a type: as many as the bytes hold. -/
def elements (t : Tensor d) (type : ElementType) : Except Error (List type.Word) :=
  if t.holds type then .ok (type.decode (t.bytes.length / t.elementSize.toNat) t.bytes)
  else .error (.invalidState (.elementType t.dataType type.dataType))

/-- The tensor with other elements, as many as before. -/
def setElements (t : Tensor d) (data : Elements) : Except Error (Tensor d) :=
  if !t.holds data.type then
    .error (.invalidState (.elementType t.dataType data.type.dataType))
  else if data.words.length ≠ t.elementCount.toNat then
    .error (.invalidState (.elementCount t.elementCount data.words.length))
  else .ok { t with bytes := data.bytes }

/-- The binding of the tensor by a buffer. -/
def binding (t : Tensor d) (buffer : d.Buffer) : Binding d.Buffer :=
  ⟨buffer, t.descriptorType, t.memorySize⟩

/-- The text of a tensor. -/
def debug (t : Tensor d) : String :=
  Text.showRecord "Tensor"
    [("data_type", t.dataType.label), ("element_count", toString t.elementCount.toNat),
      ("element_size", toString t.elementSize.toNat), ("init", Text.showBool t.isInit)]

end Tensor

end GpuCompute
