import GpuCompute.Proofs.Json.Reading

/-!
# Written values

What is written is laid out as the grammar says, and read back as what it was written for.
-/

namespace GpuCompute.Json

/-! ## Strings -/

theorem hexValue?_hexDigit : ∀ n < 16, hexValue? (hexDigit n) = some n := by decide

/-- Every character stands for itself, however it is written. -/
theorem spells_writeChar (c : Char) {t s : List Char} (h : Spells t s) :
    Spells (writeChar c ++ t) (c :: s) := by
  unfold writeChar
  -- The characters with an escape of their own.
  iterate 7
    split
    · next same => subst same; exact .letter rfl h
  split
  case isTrue control =>
    have high : c.toNat / 16 < 16 := by omega
    have low : c.toNat % 16 < 16 := by omega
    have zero : hexValue? '0' = some 0 := rfl
    have hex : IsHex ['0', '0', hexDigit (c.toNat / 16), hexDigit (c.toNat % 16)] _ :=
      .mk zero zero (hexValue?_hexDigit _ high) (hexValue?_hexDigit _ low)
    have whole : ((0 * 16 + 0) * 16 + c.toNat / 16) * 16 + c.toNat % 16 = c.toNat := by omega
    rw [whole] at hex
    have spelled := Spells.numbered hex (by omega) h
    rwa [Char.ofNat_toNat] at spelled
  case isFalse => exact .plain ⟨‹_›, ‹_›, ‹_›⟩ h

theorem spells_flatMap (s : List Char) : Spells (s.flatMap writeChar) s := by
  induction s with
  | nil => exact .nil
  | cons c s ih => exact spells_writeChar c ih

theorem isText_writeText (s : String) : IsText s (writeText s) :=
  ⟨_, spells_flatMap s.toList, rfl⟩

/-! ## Integers -/

theorem reads_writeNat (n : UInt32) : Reads readUInt32 n (writeNat n.toNat) :=
  reads_uint32 (isInteger_toDigits _) Nat.ofDigitChars_ten_toDigits

theorem reads_writeNat64 (n : UInt64) : Reads readUInt64 n (writeNat n.toNat) :=
  reads_uint64 (isInteger_toDigits _) Nat.ofDigitChars_ten_toDigits

/-! ## Lists and objects -/

theorem separated_commaSeparated (v : List Char) (vs : List (List Char)) :
    Separated (v :: vs) (commaSeparated (v :: vs)) := by
  induction vs generalizing v with
  | nil =>
    have last : Separated [v] ([] ++ (v ++ [])) := .last .nil .nil
    rwa [List.nil_append, List.append_nil] at last
  | cons w vs ih =>
    have cons : Separated (v :: w :: vs) ([] ++ (v ++ ([] ++ ',' :: commaSeparated (w :: vs)))) :=
      .cons .nil .nil (ih w)
    exact cons

theorem enclosed_commaSeparated (vs : List (List Char)) : Enclosed vs (commaSeparated vs) := by
  cases vs with
  | nil => exact .none .nil
  | cons v vs => exact .some (separated_commaSeparated v vs)

theorem encloses_writeList (vs : List (List Char)) : Frame.list.Encloses vs (writeList vs) :=
  ⟨_, enclosed_commaSeparated vs, rfl⟩

theorem reads_writeList {α : Type} {item : Reader α} {write : α → List Char}
    (h : ∀ a, Reads item a (write a)) (as : List α) :
    Reads (readList item) as (writeList (as.map write)) :=
  reads_list (encloses_writeList _)
    (List.forall₂_map_right_iff.2 (List.forall₂_same.2 fun a _ => h a))

theorem reads_writeArray {α : Type} {item : Reader α} {write : α → List Char}
    (h : ∀ a, Reads item a (write a)) (as : List α) :
    Reads (readArray item as.length) as (writeList (as.map write)) := by
  have reads := reads_array (encloses_writeList (as.map write))
    (List.forall₂_map_right_iff.2 (List.forall₂_same.2 fun a _ => h a))
  rwa [List.length_map] at reads

theorem encloses_writeObject (members : List (String × List Char)) :
    Frame.object.Encloses (members.map writeMember) (writeObject members) :=
  ⟨_, enclosed_commaSeparated _, rfl⟩

theorem isMember_writeMember (m : String × List Char) :
    ∃ name, Spells name m.1.toList ∧ IsMember name m.2 (writeMember m) := by
  refine ⟨_, spells_flatMap _, [], [], .nil, .nil, ?_⟩
  rw [writeMember, writeText, List.cons_append, List.cons_append, List.append_assoc]
  rfl

end GpuCompute.Json
