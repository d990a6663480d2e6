/-!
# Element types

What the elements of a tensor are. `DataType` is what a tensor is marked with. `ElementType` are the
types that can be written and read as values; their values are words of 32 or 64 bits, and floats
stand for themselves by their bits. Words are stored with the least significant byte first.
-/

namespace GpuCompute

/-- What a tensor says its elements are. -/
inductive DataType
  | bool
  | int
  | unsignedInt
  | float
  | double
  deriving DecidableEq

namespace DataType

/-- Every data type. -/
def all : List DataType := [.bool, .int, .unsignedInt, .float, .double]

/-- The data type's identifier. -/
def label : DataType → String
  | .bool => "Bool"
  | .int => "Int"
  | .unsignedInt => "UnsignedInt"
  | .float => "Float"
  | .double => "Double"

end DataType

/-- The types of elements that are written and read as values. -/
inductive ElementType
  | f32
  | f64
  | i32
  | u32
  deriving DecidableEq

namespace ElementType

/-- How many bytes an element takes. -/
def size : ElementType → Nat
  | .f64 => 8
  | _ => 4

/-- The mark of a tensor with such elements. -/
def dataType : ElementType → DataType
  | .f32 => .float
  | .f64 => .double
  | .i32 => .int
  | .u32 => .unsignedInt

/-- An element: its bits. -/
abbrev Word (t : ElementType) : Type := BitVec (8 * t.size)

end ElementType

/-- A number's lowest `size` bytes, the least significant first. -/
def littleEndian : (size : Nat) → Nat → List UInt8
  | 0, _ => []
  | size + 1, n => UInt8.ofNat (n % 256) :: littleEndian size (n / 256)

/-- The number whose bytes are given, the least significant first. -/
def ofLittleEndian : List UInt8 → Nat
  | [] => 0
  | b :: bytes => b.toNat + 256 * ofLittleEndian bytes

namespace ElementType

/-- The bytes of elements. -/
def encode (t : ElementType) (words : List t.Word) : List UInt8 :=
  words.flatMap fun w => littleEndian t.size w.toNat

/-- The first `count` elements that bytes hold. -/
def decode (t : ElementType) : (count : Nat) → List UInt8 → List t.Word
  | 0, _ => []
  | count + 1, bytes =>
    BitVec.ofNat _ (ofLittleEndian (bytes.take t.size)) :: t.decode count (bytes.drop t.size)

end ElementType

/-- A list of elements of one type. -/
structure Elements where
  type : ElementType
  words : List type.Word

/-- The bytes of the elements. -/
def Elements.bytes (e : Elements) : List UInt8 := e.type.encode e.words

end GpuCompute
