import GpuCompute.Element
import Mathlib.Algebra.Order.Ring.Nat
import Mathlib.Tactic.NormNum

/-!
# Elements and their bytes

Numbers of a width are read back from their bytes, and any bytes are those of the number that they are
read as. So no bit is lost between elements and bytes, whatever the bits stand for.

`pieces?`, `ElementType.read?` and `overwrite?` are the parts of reading and writing that demand bytes of
the right length, and do not return without (`none`).
-/

namespace GpuCompute

/-! ## Numbers -/

@[simp] theorem length_littleEndian (size n : Nat) : (littleEndian size n).length = size := by
  induction size generalizing n with
  | zero => rfl
  | succ size ih => simp [littleEndian, ih]

theorem ofLittleEndian_littleEndian (size n : Nat) :
    ofLittleEndian (littleEndian size n) = n % 256 ^ size := by
  induction size generalizing n with
  | zero => simp [littleEndian, ofLittleEndian, Nat.mod_one]
  | succ size ih =>
    have first : (UInt8.ofNat (n % 256)).toNat = n % 256 :=
      UInt8.toNat_ofNat_of_lt (Nat.mod_lt n (by norm_num))
    rw [littleEndian, ofLittleEndian, ih, first, pow_succ', Nat.mod_mul]

theorem ofLittleEndian_lt (bytes : List UInt8) : ofLittleEndian bytes < 256 ^ bytes.length := by
  induction bytes with
  | nil => simp [ofLittleEndian]
  | cons b bytes ih =>
    have first : b.toNat < 256 := b.toNat_lt
    rw [ofLittleEndian, List.length_cons, pow_succ]
    omega

theorem littleEndian_ofLittleEndian (bytes : List UInt8) :
    littleEndian bytes.length (ofLittleEndian bytes) = bytes := by
  induction bytes with
  | nil => rfl
  | cons b bytes ih =>
    have first : b.toNat < 256 := b.toNat_lt
    have low : (b.toNat + 256 * ofLittleEndian bytes) % 256 = b.toNat := by omega
    have high : (b.toNat + 256 * ofLittleEndian bytes) / 256 = ofLittleEndian bytes := by omega
    rw [List.length_cons, ofLittleEndian, littleEndian, low, high, ih, UInt8.ofNat_toNat]

/-! ## Elements -/

/-- Pieces of `size` bytes. -/
def pieces (size : Nat) : (count : Nat) → List UInt8 → List (List UInt8)
  | 0, _ => []
  | count + 1, bytes => bytes.take size :: pieces size count (bytes.drop size)

/-- All pieces of `size` bytes, which cannot be none. -/
def pieces? (size : Nat) (bytes : List UInt8) : Option (List (List UInt8)) :=
  if size = 0 then none else some (pieces size (bytes.length / size) bytes)

/-- Bytes put in the place of others, which must be as many. -/
def overwrite? (bytes old : List UInt8) : Option (List UInt8) :=
  if bytes.length = old.length then some bytes else none

namespace ElementType

variable (t : ElementType)

/-- The element whose bytes are given, which must be as many as it takes. -/
def read? (bytes : List UInt8) : Option t.Word :=
  if bytes.length = t.size then some (BitVec.ofNat _ (ofLittleEndian bytes)) else none

theorem size_pos : 0 < t.size := by cases t <;> decide

theorem two_pow_bits : 2 ^ (8 * t.size) = 256 ^ t.size := by
  rw [pow_mul]
  norm_num

@[simp] theorem encode_nil : t.encode [] = [] := rfl

@[simp] theorem encode_cons (w : t.Word) (words : List t.Word) :
    t.encode (w :: words) = littleEndian t.size w.toNat ++ t.encode words := rfl

theorem length_encode (words : List t.Word) : (t.encode words).length = words.length * t.size := by
  induction words with
  | nil => simp
  | cons w words ih =>
    rw [encode_cons, List.length_append, length_littleEndian, ih, List.length_cons, Nat.add_mul]
    omega

@[simp] theorem length_decode (count : Nat) (bytes : List UInt8) :
    (t.decode count bytes).length = count := by
  induction count generalizing bytes with
  | zero => rfl
  | succ count ih => rw [decode, List.length_cons, ih]

/-- A word is read back from its bytes. -/
theorem ofNat_littleEndian (w : t.Word) :
    BitVec.ofNat (8 * t.size) (ofLittleEndian (littleEndian t.size w.toNat)) = w := by
  rw [ofLittleEndian_littleEndian, ← two_pow_bits, Nat.mod_eq_of_lt w.isLt, BitVec.ofNat_toNat,
    BitVec.setWidth_eq]

/-- Elements are read back from their bytes. -/
theorem decode_encode (words : List t.Word) : t.decode words.length (t.encode words) = words := by
  induction words with
  | nil => rfl
  | cons w words ih =>
    have length := length_littleEndian t.size w.toNat
    rw [List.length_cons, encode_cons, decode, List.take_left' length, List.drop_left' length, ih,
      ofNat_littleEndian]

/-- Bytes are those of the elements they are read as. -/
theorem encode_decode {count : Nat} {bytes : List UInt8} (h : bytes.length = count * t.size) :
    t.encode (t.decode count bytes) = bytes := by
  induction count generalizing bytes with
  | zero =>
    rw [Nat.zero_mul, List.length_eq_zero_iff] at h
    rw [h]
    rfl
  | succ count ih =>
    rw [Nat.add_mul, Nat.one_mul] at h
    have first : (bytes.take t.size).length = t.size := by
      rw [List.length_take]
      omega
    have rest : (bytes.drop t.size).length = count * t.size := by
      rw [List.length_drop]
      omega
    have bound := ofLittleEndian_lt (bytes.take t.size)
    have word := littleEndian_ofLittleEndian (bytes.take t.size)
    rw [first] at bound word
    rw [decode, encode_cons, ih rest, BitVec.toNat_ofNat, two_pow_bits, Nat.mod_eq_of_lt bound, word,
      List.take_append_drop]

/-- All pieces of enough bytes can be read. -/
theorem mapM_read?_pieces {count : Nat} {bytes : List UInt8} (h : count * t.size ≤ bytes.length) :
    (pieces t.size count bytes).mapM t.read? = some (t.decode count bytes) := by
  induction count generalizing bytes with
  | zero => rfl
  | succ count ih =>
    rw [Nat.add_mul, Nat.one_mul] at h
    have first : (bytes.take t.size).length = t.size := by
      rw [List.length_take]
      omega
    have rest : count * t.size ≤ (bytes.drop t.size).length := by
      rw [List.length_drop]
      omega
    have word : t.read? (bytes.take t.size) =
      some (BitVec.ofNat _ (ofLittleEndian (bytes.take t.size))) := if_pos first
    rw [pieces, List.mapM_cons, word, ih rest]
    rfl

end ElementType

theorem Elements.length_bytes (data : Elements) :
    data.bytes.length = data.words.length * data.type.size :=
  data.type.length_encode data.words

end GpuCompute
