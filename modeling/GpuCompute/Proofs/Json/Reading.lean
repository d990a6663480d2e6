import GpuCompute.Json.Write
import GpuCompute.Proofs.Json.Skipping

/-!
# Reading values

`Reads reader a v` says that a reader takes the text `v` for `a`, with blanks before it and whatever
may follow a value after it. The readers of strings, of truth values, of integers and of lists take
what the grammar says for what it stands for.
-/

namespace GpuCompute.Json

/-- The reader takes `v` for `a`, whatever may follow it. -/
structure Reads {α : Type} (reader : Reader α) (a : α) (v : List Char) : Prop where
  opens : Opens v
  reads : ∀ {b rest}, Blanks b → Ends rest → reader (b ++ (v ++ rest)) = .ok (a, rest)

variable {α : Type} {b r s t u v rest : List Char} {c : Char}

/-- What is made of a value that was read is read from the same text. -/
theorem Reads.map {β : Type} {reader : Reader α} {reader' : Reader β} {a : α} {v : List Char}
    (h : Reads reader a v) (f : α → β)
    (hr : ∀ s, reader' s = (reader s).map fun p => (f p.1, p.2)) : Reads reader' (f a) v :=
  ⟨h.opens, fun hb ends => by rw [hr, h.reads hb ends, Except.map]⟩

/-! ## Strings -/

theorem readEscape_letter {e : Char} (h : letterEscape? e = some c) (s : List Char) :
    readEscape (e :: s) = .ok (c, s) := by
  unfold readEscape
  split
  · next heq => cases heq
  · next heq =>
    cases heq
    cases h
  · next heq =>
    cases heq
    rw [h]

theorem readEscape_numbered {h : List Char} {n : Nat} (hex : IsHex h n)
    (whole : ¬ (0xD800 ≤ n ∧ n ≤ 0xDFFF)) (s : List Char) :
    readEscape ('u' :: (h ++ s)) = .ok (.ofNat n, s) := by
  simp only [readEscape, readNumbered, readFourHex_append hex, bind, Except.bind]
  rw [if_neg (by omega), if_neg (by omega)]

theorem readEscape_pair {h h' : List Char} {n n' : Nat} (hex : IsHex h n) (hex' : IsHex h' n')
    (first : 0xD800 ≤ n ∧ n ≤ 0xDBFF) (second : 0xDC00 ≤ n' ∧ n' ≤ 0xDFFF) (s : List Char) :
    readEscape ('u' :: (h ++ '\\' :: 'u' :: (h' ++ s))) =
      .ok (.ofNat ((n - 0xD800) * 0x400 + (n' - 0xDC00) + 0x10000), s) := by
  simp only [readEscape, readNumbered, readFourHex_append hex, readSecondSurrogate,
    readFourHex_append hex', bind, Except.bind]
  rw [if_neg (by omega), if_pos first, if_pos second]

theorem readString_escape {before : List Char} (h : readEscape s = .ok (c, r)) :
    readString before ('\\' :: s) = readString (c :: before) r := by
  rw [readString, if_neg (by decide), if_pos rfl]
  split
  · next heq => cases h.symm.trans heq
  · next heq =>
    cases h.symm.trans heq
    rfl

/-- What was read so far comes before what the rest of the string stands for. -/
theorem readString_append (h : Spells t s) (before rest : List Char) :
    readString before (t ++ '"' :: rest) = .ok (before.reverse ++ s, rest) := by
  induction h generalizing before with
  | nil => rw [List.nil_append, readString, if_pos rfl, List.append_nil]
  | @plain c t s h _ ih =>
    rw [List.cons_append, readString, if_neg h.1, if_neg h.2.1, if_neg h.2.2, ih,
      List.reverse_cons, List.append_assoc, List.singleton_append]
  | letter h _ ih =>
    rw [List.cons_append, List.cons_append, readString_escape (readEscape_letter h _), ih,
      List.reverse_cons, List.append_assoc, List.singleton_append]
  | numbered hex whole _ ih =>
    rw [List.cons_append, List.cons_append, List.append_assoc,
      readString_escape (readEscape_numbered hex whole _), ih, List.reverse_cons,
      List.append_assoc, List.singleton_append]
  | pair hex hex' first second _ ih =>
    simp only [List.cons_append, List.append_assoc]
    rw [readString_escape (readEscape_pair hex hex' first second _), ih, List.reverse_cons,
      List.append_assoc, List.singleton_append]

theorem readText_quote (h : skipBlank s = '"' :: r) :
    readText s = (readString [] r).map fun p => (String.ofList p.1, p.2) := by
  simp only [readText, h]

theorem reads_text {s : String} (h : IsText s v) : Reads readText s v := by
  obtain ⟨t, spells, rfl⟩ := h
  refine ⟨⟨_, _, rfl, rfl, by decide⟩, fun {b rest} hb _ => ?_⟩
  rw [List.cons_append, List.append_assoc, List.singleton_append,
    readText_quote (skipBlank_append_cons hb rfl _), readString_append spells, Except.map,
    List.reverse_nil, List.nil_append, String.ofList_toList]

/-! ## Variants -/

theorem readVariant_quote {known : List (String × α)} (h : skipBlank s = '"' :: r) :
    readVariant known s = (readString [] r).bind fun p =>
      (variantOf known (String.ofList p.1)).map fun a => (a, p.2) := by
  simp only [readVariant, h]
  rfl

/-- A variant is read from its name. -/
theorem reads_variant {known : List (String × α)} {name : String} {a : α} (h : IsText name v)
    (found : variantOf known name = .ok a) : Reads (readVariant known) a v := by
  obtain ⟨t, spells, rfl⟩ := h
  refine ⟨⟨_, _, rfl, rfl, by decide⟩, fun {b rest} hb _ => ?_⟩
  rw [List.cons_append, List.append_assoc, List.singleton_append,
    readVariant_quote (skipBlank_append_cons hb rfl _), readString_append spells, Except.bind,
    List.reverse_nil, List.nil_append, String.ofList_toList, found, Except.map]

/-! ## Truth values -/

theorem readBool_true (h : skipBlank s = 't' :: r) :
    readBool s = (readWord ['r', 'u', 'e'] r).map fun s => (true, s) := by
  simp only [readBool, h]

theorem readBool_false (h : skipBlank s = 'f' :: r) :
    readBool s = (readWord ['a', 'l', 's', 'e'] r).map fun s => (false, s) := by
  simp only [readBool, h]

theorem reads_bool (x : Bool) : Reads readBool x (writeBool x) := by
  cases x with
  | false =>
    refine ⟨⟨_, _, rfl, rfl, by decide⟩, fun {b rest} hb _ => ?_⟩
    exact (readBool_false (skipBlank_append_cons hb rfl _)).trans
      (congrArg _ (readWord_append ['a', 'l', 's', 'e'] rest))
  | true =>
    refine ⟨⟨_, _, rfl, rfl, by decide⟩, fun {b rest} hb _ => ?_⟩
    exact (readBool_true (skipBlank_append_cons hb rfl _)).trans
      (congrArg _ (readWord_append ['r', 'u', 'e'] rest))

/-! ## Integers -/

theorem digitValue?_of_isDigit (h : IsDigit c) : digitValue? c = some (c.toNat - '0'.toNat) := by
  unfold IsDigit at h
  unfold digitValue? at *
  split
  · rfl
  · next range => rw [if_neg range] at h; cases h

theorem le_ofDigitChars (ds : List Char) (n : Nat) : n ≤ Nat.ofDigitChars 10 ds n := by
  induction ds generalizing n with
  | nil => exact Nat.le_refl n
  | cons c ds ih =>
    rw [Nat.ofDigitChars_cons]
    exact Nat.le_trans (by omega) (ih _)

theorem takeDigits_none (limit n : Nat) (h : startsWithDigit s = false) :
    takeDigits limit n s = (n, 0, s) := by
  cases s with
  | nil => rfl
  | cons c s =>
    have none : digitValue? c = none := by simpa [startsWithDigit] using h
    rw [takeDigits, none]

/-- All digits of a number are taken when it is below the limit. -/
theorem takeDigits_append {limit n : Nat} (ht : ∀ c ∈ t, IsDigit c)
    (below : Nat.ofDigitChars 10 t n < limit) (ends : startsWithDigit rest = false) :
    takeDigits limit n (t ++ rest) = (Nat.ofDigitChars 10 t n, t.length, rest) := by
  induction t generalizing n with
  | nil => exact takeDigits_none limit n ends
  | cons c t ih =>
    rw [Nat.ofDigitChars_cons] at below ⊢
    rw [Nat.mul_comm] at below ⊢
    have digit := digitValue?_of_isDigit (ht c List.mem_cons_self)
    have first : n * 10 + (c.toNat - '0'.toNat) < limit :=
      Nat.lt_of_le_of_lt (le_ofDigitChars t _) below
    rw [List.cons_append, takeDigits, digit]
    dsimp only
    rw [if_pos first, ih (fun c hc => ht c (.tail _ hc)) below]
    rfl

theorem isDigit_toDigits (n : Nat) : ∀ c ∈ Nat.toDigits 10 n, IsDigit c := by
  intro c hc
  have digit : c.isDigit = true := Nat.isDigit_of_mem_toDigits (by omega) (by omega) hc
  simp only [Char.isDigit, Bool.and_eq_true, decide_eq_true_eq] at digit
  unfold IsDigit digitValue?
  rw [if_pos ⟨digit.1, digit.2⟩]
  rfl

/-- A positive integer does not start with a zero. -/
theorem head_toDigits {n : Nat} (hn : 0 < n) : ∀ c ∈ (Nat.toDigits 10 n).head?, c ≠ '0' := by
  induction n using Nat.strongRecOn with
  | _ n ih =>
    rw [Nat.toDigits_eq_if (by omega)]
    split
    next small =>
      rintro _ ⟨⟩ zero
      exact Nat.ne_of_gt hn (Nat.digitChar_eq_zero.1 zero)
    next large =>
      rw [List.head?_append_of_ne_nil _ Nat.toDigits_ne_nil]
      exact ih (n / 10) (by omega) (by omega)

theorem isInteger_toDigits (n : Nat) : IsInteger (Nat.toDigits 10 n) := by
  have digits := isDigit_toDigits n
  have head := head_toDigits (n := n)
  rcases Nat.eq_zero_or_pos n with rfl | hn
  · exact .zero
  cases h : Nat.toDigits 10 n with
  | nil => exact absurd h Nat.toDigits_ne_nil
  | cons c t =>
    rw [h] at digits head
    exact .digits (digits c List.mem_cons_self) (head hn c rfl) fun d hd => digits d (.tail _ hd)

theorem countDigits_eq_zero (h : startsWithDigit s = false) : countDigits s = 0 := by
  cases s with
  | nil => rfl
  | cons c s =>
    have none : digitValue? c = none := by simpa [startsWithDigit] using h
    simp [countDigits, none]

theorem readAfterInteger_ends {n : Nat} (h : Ends rest) :
    readAfterInteger false n 0 rest = .ok (.natural n, rest) := by
  unfold readAfterInteger
  split
  · exact absurd rfl (h.of_mem_head rfl).2.1
  · exact absurd rfl (h.of_mem_head rfl).2.2.1
  · exact absurd rfl (h.of_mem_head rfl).2.2.2
  · rw [if_pos rfl]
    rfl

/-- An integer part without a leading zero is read up to what is no digit. -/
theorem readNumber_digits (negative : Bool) (hc : IsDigit c) (positive : c ≠ '0')
    (ht : ∀ c ∈ t, IsDigit c) (below : Nat.ofDigitChars 10 (c :: t) 0 < UInt64.size)
    (ends : startsWithDigit rest = false) :
    readNumber negative (c :: (t ++ rest)) =
      readAfterInteger negative (Nat.ofDigitChars 10 (c :: t) 0) 0 rest := by
  have digit := digitValue?_of_isDigit hc
  rw [Nat.ofDigitChars_cons, Nat.mul_zero, Nat.zero_add] at below ⊢
  have taken := takeDigits_append ht below ends
  unfold readNumber
  dsimp only
  split
  · next none => cases digit.symm.trans none
  · next zero => exact absurd (eq_of_digitValue?_eq_zero zero) positive
  · next found =>
    cases digit.symm.trans found
    rw [taken]
    dsimp only
    rw [countDigits_eq_zero ends, dropDigits_eq_self ends]

theorem readNumber_zero (negative : Bool) (ends : startsWithDigit rest = false) :
    readNumber negative ('0' :: rest) = readAfterInteger negative 0 0 rest := by
  rw [readNumber]
  change (if startsWithDigit rest = true then _ else _) = _
  rw [ends, if_neg Bool.false_ne_true]

theorem readNumber_integer {i : List Char} (hi : IsInteger i)
    (below : Nat.ofDigitChars 10 i 0 < UInt64.size) (h : Ends rest) :
    readNumber false (i ++ rest) = .ok (.natural (Nat.ofDigitChars 10 i 0), rest) := by
  cases hi with
  | zero =>
    rw [List.singleton_append, readNumber_zero false h.noDigit, readAfterInteger_ends h]
    rfl
  | digits hc positive ht =>
    rw [List.cons_append, readNumber_digits false hc positive ht below h.noDigit,
      readAfterInteger_ends h]

theorem readNumeric_digit {expected : String} {accept : Number → Except ReadError α}
    (h : skipBlank s = c :: t) (digit : IsDigit c) :
    readNumeric expected accept s = (readNumber false (c :: t)).bind fun p =>
      (accept p.1).map fun a => (a, p.2) := by
  simp only [readNumeric, h]
  split
  · next heq => cases heq
  · next heq =>
    cases heq
    cases digit
  · exact if_pos (startsWithDigit_cons digit t)

theorem readNumeric_minus {expected : String} {accept : Number → Except ReadError α}
    (h : skipBlank s = '-' :: t) :
    readNumeric expected accept s = (readNumber true t).bind fun p =>
      (accept p.1).map fun a => (a, p.2) := by
  simp only [readNumeric, h]
  rfl

/-- An integer without a sign is read when it is accepted. -/
theorem reads_natural {expected : String} {accept : Number → Except ReadError α} {i : List Char}
    {a : α} (hi : IsInteger i) (below : Nat.ofDigitChars 10 i 0 < UInt64.size)
    (accepted : accept (.natural (Nat.ofDigitChars 10 i 0)) = .ok a) :
    Reads (readNumeric expected accept) a i := by
  obtain ⟨c, t, rfl, digit⟩ := hi.exists_digit
  refine ⟨⟨c, t, rfl, digit.not_isBlank, by rintro rfl; cases digit⟩, fun {b rest} hb h => ?_⟩
  have number := readNumber_integer hi below h
  rw [List.cons_append] at number ⊢
  rw [readNumeric_digit (skipBlank_append_cons hb digit.not_isBlank _) digit, number]
  simp only [Except.bind, accepted, Except.map]

theorem reads_uint32 {i : List Char} {n : UInt32} (hi : IsInteger i)
    (hn : Nat.ofDigitChars 10 i 0 = n.toNat) : Reads readUInt32 n i := by
  have small : n.toNat < UInt32.size := n.toNat_lt
  refine reads_natural hi (hn ▸ Nat.lt_trans small (by decide)) ?_
  simp only [hn, Number.below, if_pos small, Except.map, UInt32.ofNat_toNat]

theorem reads_uint64 {i : List Char} {n : UInt64} (hi : IsInteger i)
    (hn : Nat.ofDigitChars 10 i 0 = n.toNat) : Reads readUInt64 n i := by
  have small : n.toNat < UInt64.size := n.toNat_lt
  refine reads_natural hi (hn ▸ small) ?_
  simp only [hn, Number.below, if_pos small, Except.map, UInt64.ofNat_toNat]

/-! ## Lists -/

theorem nextElement_first (hb : Blanks b) (hv : Opens v) (s : List Char) :
    nextElement true (b ++ (v ++ s)) = .ok (some (v ++ s)) := by
  obtain ⟨c, t, rfl, blank, close⟩ := hv
  have found : skipBlank (b ++ c :: (t ++ s)) = c :: (t ++ s) := skipBlank_append_cons hb blank _
  simp only [List.cons_append, nextElement, found, if_neg close, if_true]

theorem nextElement_close (first : Bool) (hb : Blanks b) (s : List Char) :
    nextElement first (b ++ ']' :: s) = .ok none := by
  have found : skipBlank (b ++ ']' :: s) = ']' :: s := skipBlank_append_cons hb rfl s
  simp only [nextElement, found, if_true]

theorem nextElement_comma (hb : Blanks b) (h : nextElement true s = .ok (some r)) :
    nextElement false (b ++ ',' :: s) = .ok (some r) := by
  have found : skipBlank (b ++ ',' :: s) = ',' :: s := skipBlank_append_cons hb rfl s
  unfold nextElement at h ⊢
  rw [found]
  split at h
  · cases h
  next c t heq =>
  split at h
  · cases h
  next close =>
  cases h
  simp only [heq, if_neg close, if_true]
  rfl

/-- Before the first item of a list there is an element to be read. -/
theorem Separated.nextElement_eq {items : List (List Char)} (layout : Separated items t)
    (h : ∀ v ∈ items, Opens v) (s : List Char) : ∃ r, nextElement true (t ++ s) = .ok (some r) := by
  obtain ⟨b, item, u, hb, first, rfl, -⟩ := layout.exists_head
  rw [List.append_assoc, List.append_assoc]
  exact ⟨_, nextElement_first hb (h item (List.mem_of_mem_head? first)) _⟩

theorem readElements_cons {item : Reader α} {a : α} {first : Bool} {n : Nat}
    (next : nextElement first s = .ok (some r)) (h : item r = .ok (a, u)) :
    readElements item (n + 1) first s =
      (readElements item n false u).map fun p => (a :: p.1, p.2) := by
  simp only [readElements, next, h, bind, Except.bind]
  rfl

theorem readElements_close {item : Reader α} {first : Bool} {n : Nat} (hb : Blanks b)
    (s : List Char) :
    readElements item (n + 1) first (b ++ ']' :: s) = .ok ([], b ++ ']' :: s) := by
  simp only [readElements, nextElement_close first hb, bind, Except.bind]
  rfl

/-- The elements are read up to the end of the list, which is left. Where the first element is
reached from is free (`next`), since every later one is reached over a comma. -/
theorem readElements_separated {item : Reader α} {as : List α} {items : List (List Char)}
    {count : Nat} {first : Bool} (layout : Separated items t)
    (h : List.Forall₂ (Reads item) as items) (enough : items.length < count)
    (next : nextElement first s = nextElement true (t ++ ']' :: rest)) :
    ∃ b, Blanks b ∧ readElements item count first s = .ok (as, b ++ ']' :: rest) := by
  induction layout generalizing as count first s with
  | @last b v b' before after =>
    obtain ⟨a, _, reads, ⟨⟩, rfl⟩ := List.forall₂_cons_right_iff.1 h
    obtain ⟨n, rfl⟩ : ∃ n, count = n + 2 := by
      rw [List.length_singleton] at enough
      exact ⟨count - 2, by omega⟩
    have read := reads.reads .nil ((Ends.of_close .list rest).append after)
    rw [List.append_assoc, List.append_assoc, nextElement_first before reads.opens] at next
    refine ⟨b', after, ?_⟩
    rw [readElements_cons next read]
    exact congrArg (Except.map _) (readElements_close after rest)
  | @cons b v b' t items before after layout ih =>
    obtain ⟨a, as, reads, others, rfl⟩ := List.forall₂_cons_right_iff.1 h
    obtain ⟨n, rfl⟩ : ∃ n, count = n + 1 := by
      rw [List.length_cons] at enough
      exact ⟨count - 1, by omega⟩
    have opens : ∀ v ∈ items, Opens v := fun v hv => by
      obtain ⟨a, -, reads⟩ := exists_left_of_mem others hv
      exact reads.opens
    obtain ⟨r, hr⟩ := layout.nextElement_eq opens (']' :: rest)
    obtain ⟨b₁, h₁, read'⟩ := ih others (Nat.lt_of_succ_lt_succ enough)
      ((nextElement_comma after hr).trans hr.symm)
    have read := reads.reads .nil ((Ends.of_comma (t ++ ']' :: rest)).append after)
    rw [List.append_assoc, List.append_assoc, List.append_assoc, List.cons_append,
      nextElement_first before reads.opens] at next
    refine ⟨b₁, h₁, ?_⟩
    rw [readElements_cons next read, read']
    rfl

theorem endList_append (hb : Blanks b) (rest : List Char) :
    endList (b ++ ']' :: rest) = .ok rest := by
  have found : skipBlank (b ++ ']' :: rest) = ']' :: rest := skipBlank_append_cons hb rfl rest
  simp only [endList, found, if_true]

/-- There is a comma after each item but the last. -/
theorem Separated.length_le {items : List (List Char)} (layout : Separated items t) :
    items.length ≤ t.length + 1 := by
  induction layout with
  | last => simp
  | cons _ _ _ ih =>
    simp only [List.length_cons, List.length_append]
    omega

theorem readList_bracket {item : Reader α} (h : skipBlank s = '[' :: r) :
    readList item s = (readElements item (r.length + 1) true r).bind fun p =>
      (endList p.2).map fun s => (p.1, s) := by
  simp only [readList, h]
  rfl

theorem reads_list {item : Reader α} {as : List α} {items : List (List Char)}
    (layout : Frame.list.Encloses items v) (h : List.Forall₂ (Reads item) as items) :
    Reads (readList item) as v := by
  obtain ⟨t, enclosed, rfl⟩ := layout
  refine ⟨⟨_, _, rfl, rfl, by decide⟩, fun {b rest} hb _ => ?_⟩
  have read : ∃ b, Blanks b ∧
      readElements item ((t ++ ']' :: rest).length + 1) true (t ++ ']' :: rest) =
        .ok (as, b ++ ']' :: rest) := by
    cases enclosed with
    | none ht =>
      cases h
      exact ⟨t, ht, readElements_close ht rest⟩
    | some layout =>
      refine readElements_separated layout h ?_ rfl
      have := layout.length_le
      simp only [List.length_append, List.length_cons]
      omega
  obtain ⟨b', h', read⟩ := read
  rw [List.cons_append, List.append_assoc]
  refine (readList_bracket (skipBlank_append_cons hb rfl _)).trans ?_
  change (readElements item ((t ++ ']' :: rest).length + 1) true (t ++ ']' :: rest)).bind _ = _
  rw [read, Except.bind, endList_append h']
  rfl

/-! ## Arrays -/

theorem readExactly_cons {item : Reader α} {expected : String} {a : α} {n index : Nat}
    (next : nextElement (index == 0) s = .ok (some r)) (h : item r = .ok (a, u)) :
    readExactly item expected (n + 1) index s =
      (readExactly item expected n (index + 1) u).map fun p => (a :: p.1, p.2) := by
  simp only [readExactly, next, h, bind, Except.bind]
  rfl

/-- As many elements are read as there are. -/
theorem readExactly_separated {item : Reader α} {expected : String} {as : List α}
    {items : List (List Char)} {index : Nat} (layout : Separated items t)
    (h : List.Forall₂ (Reads item) as items)
    (next : nextElement (index == 0) s = nextElement true (t ++ ']' :: rest)) :
    ∃ b, Blanks b ∧
      readExactly item expected items.length index s = .ok (as, b ++ ']' :: rest) := by
  induction layout generalizing as index s with
  | @last b v b' before after =>
    obtain ⟨a, _, reads, ⟨⟩, rfl⟩ := List.forall₂_cons_right_iff.1 h
    have read := reads.reads .nil ((Ends.of_close .list rest).append after)
    rw [List.append_assoc, List.append_assoc, nextElement_first before reads.opens] at next
    exact ⟨b', after, readExactly_cons next read⟩
  | @cons b v b' t items before after layout ih =>
    obtain ⟨a, as, reads, others, rfl⟩ := List.forall₂_cons_right_iff.1 h
    have opens : ∀ v ∈ items, Opens v := fun v hv => by
      obtain ⟨a, -, reads⟩ := exists_left_of_mem others hv
      exact reads.opens
    obtain ⟨r, hr⟩ := layout.nextElement_eq opens (']' :: rest)
    have later : nextElement (index + 1 == 0) (b' ++ ',' :: (t ++ ']' :: rest)) =
        nextElement true (t ++ ']' :: rest) := (nextElement_comma after hr).trans hr.symm
    obtain ⟨b₁, h₁, read'⟩ := ih others later
    have read := reads.reads .nil ((Ends.of_comma (t ++ ']' :: rest)).append after)
    rw [List.append_assoc, List.append_assoc, List.append_assoc, List.cons_append,
      nextElement_first before reads.opens] at next
    refine ⟨b₁, h₁, ?_⟩
    rw [List.length_cons, readExactly_cons next read, read']
    rfl

theorem readArray_bracket {item : Reader α} {n : Nat} (h : skipBlank s = '[' :: r) :
    readArray item n s = (readExactly item s!"an array of length {n}" n 0 r).bind fun p =>
      (endList p.2).map fun s => (p.1, s) := by
  simp only [readArray, h]
  rfl

theorem reads_array {item : Reader α} {as : List α} {items : List (List Char)}
    (layout : Frame.list.Encloses items v) (h : List.Forall₂ (Reads item) as items) :
    Reads (readArray item items.length) as v := by
  obtain ⟨t, enclosed, rfl⟩ := layout
  refine ⟨⟨_, _, rfl, rfl, by decide⟩, fun {b rest} hb _ => ?_⟩
  have read : ∃ b, Blanks b ∧
      readExactly item s!"an array of length {items.length}" items.length 0 (t ++ ']' :: rest) =
        .ok (as, b ++ ']' :: rest) := by
    cases enclosed with
    | none ht =>
      cases h
      exact ⟨t, ht, rfl⟩
    | some layout => exact readExactly_separated layout h rfl
  obtain ⟨b', h', read⟩ := read
  rw [List.cons_append, List.append_assoc]
  refine (readArray_bracket (skipBlank_append_cons hb rfl _)).trans ?_
  change (readExactly item _ items.length 0 (t ++ ']' :: rest)).bind _ = _
  rw [read, Except.bind, endList_append h']
  rfl

end GpuCompute.Json
