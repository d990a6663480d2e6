/-!
# Reading UTF-8

`parts` cuts a byte sequence into its characters; where the bytes are no UTF-8, each longest prefix
of some well-formed sequence (at least one byte) is one faulty part. From it come the lossy reading,
which puts U+FFFD for every faulty part, and the strict one, which refuses them.
-/

namespace GpuCompute.Text

/-- What the first byte of a sequence says about the rest: how many bytes follow, in which range the
next one lies, and the bits of the character that the first byte holds. -/
structure Lead where
  owed : Nat
  low : UInt8
  high : UInt8
  bits : Nat

/-- The lead that a byte stands for, or none for a byte that starts no sequence. -/
def Lead.of? (b : UInt8) : Option Lead :=
  let n := b.toNat
  if n < 0x80 then some ⟨0, 0x80, 0xBF, n⟩
  else if n < 0xC2 then none
  else if n < 0xE0 then some ⟨1, 0x80, 0xBF, n - 0xC0⟩
  else if n = 0xE0 then some ⟨2, 0xA0, 0xBF, 0⟩
  else if n = 0xED then some ⟨2, 0x80, 0x9F, 0xD⟩
  else if n < 0xF0 then some ⟨2, 0x80, 0xBF, n - 0xE0⟩
  else if n = 0xF0 then some ⟨3, 0x90, 0xBF, 0⟩
  else if n < 0xF4 then some ⟨3, 0x80, 0xBF, n - 0xF0⟩
  else if n = 0xF4 then some ⟨3, 0x80, 0x8F, 4⟩
  else none

/-- Reads the bytes that a sequence still owes. The result is the character's number, or none when
a byte out of range or the end comes first, and the bytes not taken. -/
def follow : (owed : Nat) → (low high : UInt8) → (bits : Nat) → List UInt8 → Option Nat × List UInt8
  | 0, _, _, bits, rest => (some bits, rest)
  | _ + 1, _, _, _, [] => (none, [])
  | owed + 1, low, high, bits, b :: rest =>
    if low ≤ b ∧ b ≤ high then follow owed 0x80 0xBF (bits * 64 + b.toNat % 64) rest
    else (none, b :: rest)

theorem length_follow_le (owed : Nat) (low high : UInt8) (bits : Nat) (rest : List UInt8) :
    (follow owed low high bits rest).2.length ≤ rest.length := by
  induction owed generalizing low high bits rest with
  | zero => simp [follow]
  | succ owed ih =>
    cases rest with
    | nil => simp [follow]
    | cons b rest =>
      simp only [follow]
      split
      · exact Nat.le_trans (ih ..) (Nat.le_succ _)
      · simp

/-- One part from a first byte and the bytes after it: a character, or none for a faulty part, and
the bytes not taken. -/
def part (b : UInt8) (rest : List UInt8) : Option Char × List UInt8 :=
  match Lead.of? b with
  | none => (none, rest)
  | some l =>
    let (bits, rest) := follow l.owed l.low l.high l.bits rest
    (bits.map Char.ofNat, rest)

theorem length_part_le (b : UInt8) (rest : List UInt8) :
    (part b rest).2.length ≤ rest.length := by
  unfold part
  split
  · simp
  · exact length_follow_le ..

/-- The characters of a byte sequence, with none for each faulty part. -/
def parts : List UInt8 → List (Option Char)
  | [] => []
  | b :: rest => (part b rest).1 :: parts (part b rest).2
termination_by bytes => bytes.length
decreasing_by
  have := length_part_le b rest
  simp only [List.length_cons]
  omega

/-- The text of a byte sequence, with U+FFFD for each faulty part. -/
def decodeLossy (bytes : List UInt8) : String :=
  String.ofList ((parts bytes).map (·.getD '\uFFFD'))

/-- The text of a byte sequence, if it is UTF-8 throughout. -/
def decode? (bytes : List UInt8) : Option String :=
  let cs := parts bytes
  if cs.all Option.isSome then some (String.ofList (cs.filterMap id)) else none

/-- The bytes of a text. -/
def encode (s : String) : List UInt8 := s.toList.flatMap String.utf8EncodeChar

end GpuCompute.Text
