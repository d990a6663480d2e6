import GpuCompute.Json.Error

/-!
# Words and strings of JSON

The parts of a text below the level of values: blanks, the words `true`, `false` and `null`, and
strings. A reader takes the characters still to be read and returns what it read with those left.
Strings come in two forms: `readString` returns the text, and `skipString`, for values that nobody
asks for, checks the form only and so accepts surrogates without a partner.
-/

namespace GpuCompute.Json

/-- The characters that may stand between the parts of a text. -/
def isBlank (c : Char) : Bool := c = ' ' || c = '\t' || c = '\n' || c = '\r'

/-- The text after its leading blanks. -/
def skipBlank (s : List Char) : List Char := s.dropWhile isBlank

theorem length_skipBlank_le (s : List Char) : (skipBlank s).length ≤ s.length :=
  (List.dropWhile_sublist isBlank).length_le

/-- Reads the rest of a word. -/
def readWord : (expected : List Char) → List Char → Except ReadError (List Char)
  | [], s => .ok s
  | _ :: _, [] => .error (.unfinished .value)
  | e :: expected, c :: s => if c = e then readWord expected s else .error .expectedWord

theorem length_readWord_le {expected s r : List Char} (h : readWord expected s = .ok r) :
    r.length ≤ s.length := by
  induction expected generalizing s with
  | nil => simp only [readWord, Except.ok.injEq] at h; simp [h]
  | cons e expected ih =>
    cases s with
    | nil => simp [readWord] at h
    | cons c s =>
      simp only [readWord] at h
      split at h
      · exact Nat.le_trans (ih h) (Nat.le_succ _)
      · simp at h

/-! ## Escapes -/

/-- The value of a hexadecimal digit. -/
def hexValue? (c : Char) : Option Nat :=
  if '0' ≤ c ∧ c ≤ '9' then some (c.toNat - '0'.toNat)
  else if 'a' ≤ c ∧ c ≤ 'f' then some (c.toNat - 'a'.toNat + 10)
  else if 'A' ≤ c ∧ c ≤ 'F' then some (c.toNat - 'A'.toNat + 10)
  else none

/-- How many bytes a text takes. -/
def byteLength (s : List Char) : Nat := s.foldr (fun c n => c.utf8Size + n) 0

/-- Reads four hexadecimal digits. With fewer than four bytes left the string is unfinished. -/
def readFourHex (s : List Char) : Except ReadError (Nat × List Char) :=
  match s with
  | a :: b :: c :: d :: r =>
    match hexValue? a, hexValue? b, hexValue? c, hexValue? d with
    | some a, some b, some c, some d => .ok (((a * 16 + b) * 16 + c) * 16 + d, r)
    | _, _, _, _ => .error .invalidEscape
  | s => if 4 ≤ byteLength s then .error .invalidEscape else .error (.unfinished .string)

theorem length_readFourHex_lt {s r : List Char} {n : Nat} (h : readFourHex s = .ok (n, r)) :
    r.length < s.length := by
  unfold readFourHex at h
  split at h
  · split at h
    · simp only [Except.ok.injEq, Prod.mk.injEq] at h
      obtain ⟨-, rfl⟩ := h
      simp only [List.length_cons]
      omega
    · simp at h
  · split at h <;> simp at h

/-- The character that a backslash and a letter stand for. -/
def letterEscape? : Char → Option Char
  | '"' => some '"'
  | '\\' => some '\\'
  | '/' => some '/'
  | 'b' => some '\x08'
  | 'f' => some '\x0C'
  | 'n' => some '\n'
  | 'r' => some '\r'
  | 't' => some '\t'
  | _ => none

/-- Reads the second half of a surrogate pair. -/
def readSecondSurrogate (first : Nat) : List Char → Except ReadError (Char × List Char)
  | [] => .error (.unfinished .string)
  | '\\' :: [] => .error (.unfinished .string)
  | '\\' :: 'u' :: s => do
    let (second, r) ← readFourHex s
    if 0xDC00 ≤ second ∧ second ≤ 0xDFFF then
      .ok (Char.ofNat ((first - 0xD800) * 0x400 + (second - 0xDC00) + 0x10000), r)
    else .error .loneSurrogate
  | _ => .error .missingSecondSurrogate

/-- Reads a character given by number, after the `u`. -/
def readNumbered (s : List Char) : Except ReadError (Char × List Char) := do
  let (n, r) ← readFourHex s
  if 0xDC00 ≤ n ∧ n ≤ 0xDFFF then .error .loneSurrogate
  else if 0xD800 ≤ n ∧ n ≤ 0xDBFF then readSecondSurrogate n r
  else .ok (Char.ofNat n, r)

/-- Reads an escape, after the backslash. -/
def readEscape : List Char → Except ReadError (Char × List Char)
  | [] => .error (.unfinished .string)
  | 'u' :: s => readNumbered s
  | c :: s =>
    match letterEscape? c with
    | some x => .ok (x, s)
    | none => .error .invalidEscape

theorem length_readSecondSurrogate_lt {first : Nat} {s r : List Char} {c : Char}
    (h : readSecondSurrogate first s = .ok (c, r)) : r.length < s.length := by
  unfold readSecondSurrogate at h
  split at h
  · simp at h
  · simp at h
  · next s =>
    simp only [bind, Except.bind] at h
    split at h
    · simp at h
    · next p hp =>
      have hlt := length_readFourHex_lt hp
      split at h
      · simp only [Except.ok.injEq, Prod.mk.injEq] at h
        obtain ⟨-, rfl⟩ := h
        simp only [List.length_cons]
        omega
      · simp at h
  · simp at h

theorem length_readNumbered_lt {s r : List Char} {c : Char} (h : readNumbered s = .ok (c, r)) :
    r.length < s.length := by
  simp only [readNumbered, bind, Except.bind] at h
  split at h
  · simp at h
  · next p hp =>
    have hlt := length_readFourHex_lt hp
    split at h
    · simp at h
    · split at h
      · exact Nat.lt_trans (length_readSecondSurrogate_lt h) hlt
      · simp only [Except.ok.injEq, Prod.mk.injEq] at h
        obtain ⟨-, rfl⟩ := h
        exact hlt

theorem length_readEscape_lt {s r : List Char} {c : Char} (h : readEscape s = .ok (c, r)) :
    r.length < s.length := by
  unfold readEscape at h
  split at h
  · simp at h
  · exact Nat.lt_succ_of_lt (length_readNumbered_lt h)
  · split at h
    · simp only [Except.ok.injEq, Prod.mk.injEq] at h
      obtain ⟨-, rfl⟩ := h
      simp
    · simp at h

/-- Skips an escape, after the backslash. -/
def skipEscape : List Char → Except ReadError (List Char)
  | [] => .error (.unfinished .string)
  | 'u' :: s => (readFourHex s).map (·.2)
  | c :: s => if (letterEscape? c).isSome then .ok s else .error .invalidEscape

theorem length_skipEscape_lt {s r : List Char} (h : skipEscape s = .ok r) :
    r.length < s.length := by
  unfold skipEscape at h
  split at h
  · simp at h
  · simp only [Except.map] at h
    split at h
    · simp at h
    · next p hp =>
      simp only [Except.ok.injEq] at h
      subst h
      exact Nat.lt_succ_of_lt (length_readFourHex_lt hp)
  · split at h
    · simp only [Except.ok.injEq] at h
      simp [h]
    · simp at h

/-! ## Strings -/

/-- Reads a string after its opening quote; `before` holds what was read so far, last first. -/
def readString (before : List Char) : List Char → Except ReadError (List Char × List Char)
  | [] => .error (.unfinished .string)
  | c :: s =>
    if c = '"' then .ok (before.reverse, s)
    else if c = '\\' then
      match _h : readEscape s with
      | .error e => .error e
      | .ok (x, r) => readString (x :: before) r
    else if c.toNat < 0x20 then .error .controlCharacter
    else readString (c :: before) s
termination_by s => s.length
decreasing_by
  · have := length_readEscape_lt _h
    simp only [List.length_cons]
    omega
  · simp

/-- Skips a string after its opening quote. -/
def skipString : List Char → Except ReadError (List Char)
  | [] => .error (.unfinished .string)
  | c :: s =>
    if c = '"' then .ok s
    else if c = '\\' then
      match _h : skipEscape s with
      | .error e => .error e
      | .ok r => skipString r
    else if c.toNat < 0x20 then .error .controlCharacter
    else skipString s
termination_by s => s.length
decreasing_by
  · have := length_skipEscape_lt _h
    simp only [List.length_cons]
    omega
  · simp

theorem length_skipString_lt {s r : List Char} (h : skipString s = .ok r) :
    r.length < s.length := by
  fun_induction skipString s with
  | case1 => simp at h
  | case2 s => simp only [Except.ok.injEq] at h; simp [h]
  | case3 => simp at h
  | case4 s r' hr _ ih =>
    have := length_skipEscape_lt hr
    have := ih h
    simp only [List.length_cons]
    omega
  | case5 => simp at h
  | case6 c s _ _ _ ih =>
    have := ih h
    simp only [List.length_cons]
    omega

end GpuCompute.Json
