import GpuCompute.Text.Utf8
import Mathlib.Algebra.Group.Nat.Defs
import Mathlib.Data.List.Basic

/-!
# What is read of UTF-8

A character's sequence is a first byte, which tells how many bytes follow, and six bits of the
character's number in each of those. Reading one part of a byte sequence gives a character exactly
when the bytes begin with the character's sequence (`part_eq_some_iff`). So the strict reading gives
a text exactly when the bytes are those of the text (`decode?_eq_some_iff`), and the lossy reading
can be undone exactly when the strict one accepts (`encode_decodeLossy_iff`).
-/

namespace GpuCompute.Text

variable {b : UInt8} {l : Lead} {n : Nat} {c : Char} {bytes rest : List UInt8}

/-! ## The bytes of a character -/

/-- How many bytes follow the first one. -/
def owedBy (n : Nat) : Nat :=
  if n ≤ 0x7F then 0 else if n ≤ 0x7FF then 1 else if n ≤ 0xFFFF then 2 else 3

theorem owedBy_cases (n : Nat) :
    owedBy n = 0 ∧ n ≤ 0x7F ∨ owedBy n = 1 ∧ 0x80 ≤ n ∧ n ≤ 0x7FF ∨
      owedBy n = 2 ∧ 0x800 ≤ n ∧ n ≤ 0xFFFF ∨ owedBy n = 3 ∧ 0x10000 ≤ n := by
  unfold owedBy
  split_ifs <;> omega

/-- What a first byte holds beside bits of the character. -/
def mark : Nat → Nat
  | 0 => 0
  | 1 => 0xC0
  | 2 => 0xE0
  | _ => 0xF0

/-- The first byte of a sequence. -/
def head (owed n : Nat) : UInt8 := .ofNat (n / 64 ^ owed + mark owed)

theorem toNat_head {owed : Nat} (small : n / 64 ^ owed + mark owed < 256) :
    (head owed n).toNat = n / 64 ^ owed + mark owed := by
  rw [head, UInt8.toNat_ofNat']
  exact Nat.mod_eq_of_lt small

/-- The bytes after the first one, with six bits of the character each. -/
def tail : Nat → Nat → List UInt8
  | 0, _ => []
  | owed + 1, n => .ofNat (n / 64 ^ owed % 64 + 0x80) :: tail owed n

/-- A character's sequence has one byte more than it owes. -/
theorem utf8EncodeChar_eq (c : Char) :
    String.utf8EncodeChar c =
      head (owedBy c.toNat) c.toNat :: tail (owedBy c.toNat) c.toNat := by
  have valid : c.toNat.isValidChar := c.valid
  have top : c.toNat < 0x110000 := by
    unfold Nat.isValidChar at valid
    omega
  unfold String.utf8EncodeChar owedBy
  dsimp only
  generalize hn : c.toNat = n at top ⊢
  rw [show c.val.toNat = n from hn]
  -- The bits that are cut off the first byte are zero.
  have two : n ≤ 0x7FF → n / 64 % 32 = n / 64 := by omega
  have three : n ≤ 0xFFFF → n / 4096 % 16 = n / 4096 := by omega
  have four : n / 262144 % 8 = n / 262144 := by omega
  split_ifs with h₁ h₂ h₃
  · simp [head, mark, tail]
  · simp [head, mark, tail, two h₂]
  · simp [head, mark, tail, three h₃]
  · simp [head, mark, tail, four]

/-! ## Leads -/

/-- A lead is that of a character's sequence: it holds the first bits, and the byte after it is in
its range. -/
structure Lead.Fits (l : Lead) (n : Nat) : Prop where
  bits : n / 64 ^ l.owed = l.bits
  next : l.owed ≠ 0 → l.low.toNat ≤ n / 64 ^ (l.owed - 1) % 64 + 0x80 ∧
    n / 64 ^ (l.owed - 1) % 64 + 0x80 ≤ l.high.toNat

theorem Lead.fits_zero_iff {low high : UInt8} {bits : Nat} :
    (Lead.mk 0 low high bits).Fits n ↔ n = bits :=
  ⟨fun h => by simpa using h.bits, fun h => ⟨by simpa using h, nofun⟩⟩

theorem Lead.fits_succ_iff {owed bits : Nat} {low high : UInt8} :
    (Lead.mk (owed + 1) low high bits).Fits n ↔ n / 64 ^ owed / 64 = bits ∧
      low.toNat ≤ n / 64 ^ owed % 64 + 0x80 ∧ n / 64 ^ owed % 64 + 0x80 ≤ high.toNat := by
  rw [Nat.div_div_eq_div_mul, ← Nat.pow_succ]
  exact ⟨fun h => ⟨h.bits, h.next (Nat.succ_ne_zero _)⟩, fun h => ⟨h.1, fun _ => h.2⟩⟩

/-- A full range allows for every byte after a first one. -/
theorem Lead.fits_full_iff {owed bits : Nat} :
    (Lead.mk owed 0x80 0xBF bits).Fits n ↔ n / 64 ^ owed = bits := by
  refine ⟨Lead.Fits.bits, fun h => ?_⟩
  cases owed with
  | zero => exact Lead.fits_zero_iff.2 (by simpa using h)
  | succ owed =>
    rw [Nat.pow_succ, ← Nat.div_div_eq_div_mul] at h
    refine Lead.fits_succ_iff.2 ⟨h, ?_⟩
    change 128 ≤ _ ∧ _ ≤ 191
    omega

/-- Reading what is owed gives a number exactly when the number fits and its bytes come next. The
induction is on what is owed: after the first byte any byte of a tail is in range. -/
theorem follow_eq_some_iff {owed : Nat} {low high : UInt8} {bits : Nat} (above : 0x80 ≤ low.toNat)
    (below : high.toNat ≤ 0xBF) : follow owed low high bits bytes = (some n, rest) ↔
      (Lead.mk owed low high bits).Fits n ∧ bytes = tail owed n ++ rest := by
  induction owed generalizing low high bits bytes with
  | zero => simp [follow, Lead.fits_zero_iff, tail, eq_comm]
  | succ owed ih =>
    cases bytes with
    | nil => simp [follow, tail]
    | cons b bytes =>
      have same : b = UInt8.ofNat (n / 64 ^ owed % 64 + 0x80) ↔
          b.toNat = n / 64 ^ owed % 64 + 0x80 := by
        rw [← UInt8.toNat_inj, UInt8.toNat_ofNat']
        omega
      rw [tail, List.cons_append, List.cons.injEq, same, Lead.fits_succ_iff, follow]
      split
      next within =>
        rw [UInt8.le_iff_toNat_le, UInt8.le_iff_toNat_le] at within
        rw [ih (Nat.le_refl _) (Nat.le_refl _), Lead.fits_full_iff, ← and_assoc]
        apply and_congr_left'
        generalize n / 64 ^ owed = q
        omega
      next outside =>
        rw [UInt8.le_iff_toNat_le, UInt8.le_iff_toNat_le] at outside
        refine iff_of_false (by simp) fun h => ?_
        omega

/-- If a character's sequence has the lead of a byte, it begins with that byte. -/
theorem Lead.Fits.of_lead (h : l.Fits n) (lead : Lead.of? b = some l) :
    n.isValidChar ∧ owedBy n = l.owed ∧ b = head l.owed n := by
  have first : b.toNat < 256 := b.toNat_lt
  rw [← UInt8.toNat_inj, head, UInt8.toNat_ofNat']
  obtain ⟨bits, next⟩ := h
  unfold Lead.of? at lead
  dsimp only at lead
  have sizes := owedBy_cases n
  repeat' split at lead
  all_goals cases lead
  all_goals
    simp only [mark, Nat.isValidChar, Nat.reducePow, UInt8.reduceToNat, Nat.add_one_sub_one]
      at bits next ⊢
    omega

/-- The first byte of a character's sequence has the sequence's lead. Where the range after it is
not full, it leaves out sequences that are too long and numbers that are not those of characters. -/
theorem exists_lead (valid : n.isValidChar) :
    ∃ l, Lead.of? (head (owedBy n) n) = some l ∧ l.owed = owedBy n ∧ l.Fits n := by
  unfold Nat.isValidChar at valid
  unfold Lead.of?
  dsimp only
  rcases owedBy_cases n with ⟨size, h⟩ | ⟨size, h⟩ | ⟨size, h⟩ | ⟨size, h⟩ <;> rw [size]
  · have first : (head 0 n).toNat = n :=
      (toNat_head (show n / 1 < 256 by omega)).trans (Nat.div_one n)
    rw [first, if_pos (by omega)]
    exact ⟨_, rfl, rfl, Lead.fits_zero_iff.2 rfl⟩
  · have first : (head 1 n).toNat = n / 64 + 0xC0 :=
      toNat_head (show n / 64 + 0xC0 < 256 by omega)
    rw [first, if_neg (by omega), if_neg (by omega), if_pos (by omega)]
    exact ⟨_, rfl, rfl, Lead.fits_full_iff.2 (by simp)⟩
  · have first : (head 2 n).toNat = n / 4096 + 0xE0 :=
      toNat_head (show n / 4096 + 0xE0 < 256 by omega)
    rw [first, if_neg (by omega), if_neg (by omega), if_neg (by omega)]
    split_ifs
    · exact ⟨_, rfl, rfl, Lead.fits_succ_iff.2 (by simp; omega)⟩
    · exact ⟨_, rfl, rfl, Lead.fits_succ_iff.2 (by simp; omega)⟩
    · exact ⟨_, rfl, rfl, Lead.fits_full_iff.2 (by simp)⟩
    all_goals omega
  · have first : (head 3 n).toNat = n / 262144 + 0xF0 :=
      toNat_head (show n / 262144 + 0xF0 < 256 by omega)
    rw [first, if_neg (by omega), if_neg (by omega), if_neg (by omega), if_neg (by omega),
      if_neg (by omega), if_neg (by omega)]
    split_ifs
    · exact ⟨_, rfl, rfl, Lead.fits_succ_iff.2 (by simp; omega)⟩
    · exact ⟨_, rfl, rfl, Lead.fits_full_iff.2 (by simp)⟩
    · exact ⟨_, rfl, rfl, Lead.fits_succ_iff.2 (by simp; omega)⟩
    omega

theorem Lead.low_high_range (lead : Lead.of? b = some l) : 0x80 ≤ l.low.toNat ∧ l.high.toNat ≤ 0xBF := by
  unfold Lead.of? at lead
  dsimp only at lead
  repeat' split at lead
  all_goals cases lead
  all_goals simp

/-! ## Parts -/

/-- One part is a character exactly when the bytes begin with the character's sequence. -/
theorem part_eq_some_iff :
    part b bytes = (some c, rest) ↔ b :: bytes = String.utf8EncodeChar c ++ rest := by
  rw [utf8EncodeChar_eq, List.cons_append, List.cons.injEq]
  unfold part
  constructor
  · intro h
    cases lead : Lead.of? b with
    | none => simp [lead] at h
    | some l =>
      simp only [lead, Prod.mk.injEq, Option.map_eq_some_iff] at h
      obtain ⟨⟨n, read, rfl⟩, left⟩ := h
      obtain ⟨fits, rfl⟩ := (follow_eq_some_iff (Lead.low_high_range lead).1 (Lead.low_high_range lead).2).1
        (Prod.ext read left)
      obtain ⟨valid, size, rfl⟩ := fits.of_lead lead
      obtain ⟨c, rfl⟩ : ∃ c : Char, c.toNat = n := ⟨Char.ofNatAux n valid, rfl⟩
      rw [Char.ofNat_toNat, size]
      exact ⟨rfl, rfl⟩
  · rintro ⟨rfl, rfl⟩
    obtain ⟨l, lead, size, fits⟩ := exists_lead (n := c.toNat) c.valid
    have read : follow l.owed l.low l.high l.bits (tail l.owed c.toNat ++ rest) =
        (some c.toNat, rest) :=
      (follow_eq_some_iff (Lead.low_high_range lead).1 (Lead.low_high_range lead).2).2 ⟨fits, rfl⟩
    rw [lead, ← size]
    simp [read]

/-- All parts are characters exactly when the bytes are the sequences of these characters. -/
theorem parts_eq_map_some_iff {cs : List Char} :
    parts bytes = cs.map some ↔ cs.flatMap String.utf8EncodeChar = bytes := by
  induction cs generalizing bytes with
  | nil => cases bytes <;> simp [parts]
  | cons c cs ih =>
    cases bytes with
    | nil => simp [parts, utf8EncodeChar_eq]
    | cons b bytes =>
      rw [parts, List.map_cons, List.cons.injEq, ih, List.flatMap_cons]
      constructor
      · rintro ⟨first, rest⟩
        rw [rest]
        exact (part_eq_some_iff.1 (Prod.ext first rfl)).symm
      · intro h
        rw [part_eq_some_iff.2 h.symm]
        exact ⟨rfl, rfl⟩

/-! ## Texts -/

/-- If no part is faulty, nothing is lost when the characters are taken out of the parts. -/
theorem map_some_filterMap_id {ps : List (Option Char)} (whole : ∀ x ∈ ps, x.isSome) :
    (ps.filterMap id).map some = ps := by
  induction ps with
  | nil => rfl
  | cons p ps ih =>
    obtain ⟨c, rfl⟩ := Option.isSome_iff_exists.1 (whole p List.mem_cons_self)
    have rest := ih fun x hx => whole x (List.mem_cons_of_mem _ hx)
    rw [List.filterMap_cons_some (id_eq (some c)), List.map_cons, rest]

/-- The strict reading gives a text exactly when the bytes are those of the text. -/
theorem decode?_eq_some_iff {s : String} : decode? bytes = some s ↔ encode s = bytes := by
  unfold encode
  rw [← parts_eq_map_some_iff]
  unfold decode?
  dsimp only
  constructor
  · intro h
    split_ifs at h with whole
    obtain rfl := Option.some.inj h
    rw [String.toList_ofList, map_some_filterMap_id (List.all_eq_true.1 whole)]
  · intro h
    rw [h]
    simp

theorem decodeLossy_encode (s : String) : decodeLossy (encode s) = s := by
  unfold decodeLossy encode
  rw [parts_eq_map_some_iff.2 rfl, List.map_map]
  change String.ofList (s.toList.map id) = s
  rw [List.map_id, String.ofList_toList]

/-- Encoding what was read gives the bytes back exactly when nothing was replaced in them. -/
theorem encode_decodeLossy_iff :
    encode (decodeLossy bytes) = bytes ↔ (decode? bytes).isSome := by
  constructor
  · intro h
    rw [decode?_eq_some_iff.2 h]
    rfl
  · intro h
    obtain ⟨s, hs⟩ := Option.isSome_iff_exists.1 h
    obtain rfl := decode?_eq_some_iff.1 hs
    rw [decodeLossy_encode]

/-- Where something was replaced, the text shows it. -/
theorem isSome_decode?_of_not_mem (h : '\uFFFD' ∉ (decodeLossy bytes).toList) :
    (decode? bytes).isSome := by
  have whole : (parts bytes).all Option.isSome := by
    refine List.all_eq_true.2 fun p hp => ?_
    cases p with
    | some c => rfl
    | none =>
      refine absurd ?_ h
      rw [decodeLossy, String.toList_ofList]
      exact List.mem_map.2 ⟨none, hp, rfl⟩
  unfold decode?
  dsimp only
  rw [if_pos whole]
  rfl

end GpuCompute.Text
