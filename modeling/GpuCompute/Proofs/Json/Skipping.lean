import GpuCompute.Proofs.Json.Grammar

/-!
# Skipping values

A value that is skipped is taken up to its last character, whatever encloses it
(`IsValue.skippable`). The lemmas before it say this of words, of strings and of numbers, and how
skipping goes on in a list or an object.
-/

namespace GpuCompute.Json

variable {b s t r rest : List Char} {c : Char}

/-! ## Words and strings -/

theorem readWord_append (w rest : List Char) : readWord w (w ++ rest) = .ok rest := by
  induction w with
  | nil => rfl
  | cons c w ih => rw [List.cons_append, readWord, if_pos rfl, ih]

theorem readFourHex_append {h : List Char} {n : Nat} (hex : IsHex h n) (rest : List Char) :
    readFourHex (h ++ rest) = .ok (n, rest) := by
  cases hex with
  | mk ha hb hc hd => simp only [List.cons_append, List.nil_append, readFourHex, ha, hb, hc, hd]

theorem skipString_quote (rest : List Char) : skipString ('"' :: rest) = .ok rest := by
  rw [skipString, if_pos rfl]

theorem skipString_plain (h : IsPlain c) (s : List Char) : skipString (c :: s) = skipString s := by
  rw [skipString, if_neg h.1, if_neg h.2.1, if_neg h.2.2]

theorem skipString_escape (h : skipEscape s = .ok r) : skipString ('\\' :: s) = skipString r := by
  rw [skipString, if_neg (by decide), if_pos rfl]
  split
  · simp_all
  · simp_all

theorem skipEscape_numbered {h : List Char} {n : Nat} (hex : IsHex h n) (rest : List Char) :
    skipEscape ('u' :: (h ++ rest)) = .ok rest := by
  rw [skipEscape, readFourHex_append hex]
  rfl

theorem skipEscape_letter (h : (letterEscape? c).isSome) (rest : List Char) :
    skipEscape (c :: rest) = .ok rest := by
  unfold skipEscape
  split
  · next heq => cases heq
  · next heq =>
    cases heq
    cases h
  · next heq =>
    cases heq
    exact if_pos h

theorem skipString_quotable (h : Quotable t) (rest : List Char) :
    skipString (t ++ '"' :: rest) = .ok rest := by
  induction h with
  | nil => exact skipString_quote rest
  | plain h _ ih => exact (skipString_plain h _).trans ih
  | letter h _ ih => exact (skipString_escape (skipEscape_letter h _)).trans ih
  | numbered hex _ ih =>
    rw [List.cons_append, List.cons_append, List.append_assoc]
    exact (skipString_escape (skipEscape_numbered hex _)).trans ih

/-! ## Numbers -/

/-- What may follow a value does not go on with a number. -/
theorem Ends.of_mem_head (h : Ends rest) (hc : c ∈ rest.head?) :
    ¬ IsDigit c ∧ c ≠ '.' ∧ c ≠ 'e' ∧ c ≠ 'E' := by
  have cases_ : c = ' ' ∨ c = '\t' ∨ c = '\n' ∨ c = '\r' ∨ c = ',' ∨ c = ']' ∨ c = '\x7d' := by
    have := h c hc
    simp only [isBlank, Bool.or_eq_true, decide_eq_true_eq] at this
    tauto
  rcases cases_ with rfl | rfl | rfl | rfl | rfl | rfl | rfl <;>
    exact ⟨by unfold IsDigit; decide, by decide, by decide, by decide⟩

theorem startsWithDigit_cons (h : IsDigit c) (s : List Char) : startsWithDigit (c :: s) = true := h

theorem startsWithDigit_eq_false (h : ∀ c ∈ s.head?, ¬ IsDigit c) : startsWithDigit s = false := by
  cases s with
  | nil => rfl
  | cons c s => exact Bool.eq_false_iff.2 (h c rfl)

theorem Ends.noDigit (h : Ends rest) : startsWithDigit rest = false :=
  startsWithDigit_eq_false fun _ hc => (h.of_mem_head hc).1

theorem dropDigits_append (ht : ∀ c ∈ t, IsDigit c) (h : startsWithDigit rest = false) :
    dropDigits (t ++ rest) = rest := by
  rw [dropDigits, List.dropWhile_append_of_pos ht]
  cases rest with
  | nil => rfl
  | cons c rest => exact List.dropWhile_cons_of_neg (by simpa [startsWithDigit] using h)

theorem dropDigits_eq_self (h : startsWithDigit s = false) : dropDigits s = s :=
  dropDigits_append (List.forall_mem_nil _) h

theorem dropDigits_cons (h : IsDigit c) (s : List Char) : dropDigits (c :: s) = dropDigits s := by
  unfold IsDigit at h
  simp [dropDigits, h]

/-- An exponent is skipped from its first digit on, after its sign. -/
theorem skipExponent_sign {e : Char} {sign : List Char} (he : e = 'e' ∨ e = 'E')
    (hsign : sign ∈ [[], ['+'], ['-']]) (hc : IsDigit c) (s : List Char) :
    skipExponent (e :: (sign ++ c :: s)) = .ok (dropDigits (c :: s)) := by
  have digits := startsWithDigit_cons hc s
  simp only [List.mem_cons, List.not_mem_nil, or_false] at hsign
  rcases he with rfl | rfl <;> rcases hsign with rfl | rfl | rfl
  case inl.inr.inl | inl.inr.inr | inr.inr.inl | inr.inr.inr => exact if_pos digits
  -- Without a sign, the first digit is none.
  all_goals
    rw [List.nil_append]
    simp only [skipExponent]
    split
    · next heq =>
      cases heq
      cases hc
    · next heq =>
      cases heq
      cases hc
    · exact if_pos digits

theorem skipExponent_append {e : List Char} (he : IsExponent e) (h : Ends rest) :
    skipExponent (e ++ rest) = .ok rest := by
  cases he with
  | none =>
    rw [List.nil_append]
    unfold skipExponent
    split
    · exact absurd rfl (h.of_mem_head rfl).2.2.1
    · exact absurd rfl (h.of_mem_head rfl).2.2.2
    · rfl
  | @some e c sign t he hsign hc ht =>
    have digits : dropDigits (c :: (t ++ rest)) = rest :=
      dropDigits_append (List.forall_mem_cons.2 ⟨hc, ht⟩) h.noDigit
    rw [List.cons_append, List.append_assoc, List.cons_append, skipExponent_sign he hsign hc,
      digits]

theorem IsExponent.head_append {e : List Char} (he : IsExponent e) (h : Ends rest) :
    ∀ c ∈ (e ++ rest).head?, ¬ IsDigit c ∧ c ≠ '.' := by
  intro c hc
  cases he with
  | none =>
    have ends := h.of_mem_head hc
    exact ⟨ends.1, ends.2.1⟩
  | some he =>
    cases hc
    rcases he with rfl | rfl <;> exact ⟨by unfold IsDigit; decide, by decide⟩

theorem skipFraction_append {f e : List Char} (hf : IsFraction f) (he : IsExponent e)
    (h : Ends rest) : skipFraction (f ++ (e ++ rest)) = .ok rest := by
  cases hf with
  | none =>
    rw [List.nil_append]
    unfold skipFraction
    split
    · next heq => exact absurd rfl (he.head_append h '.' (by rw [heq]; rfl)).2
    · exact skipExponent_append he h
  | @some c t hc ht =>
    have digits : dropDigits (c :: (t ++ (e ++ rest))) = e ++ rest :=
      dropDigits_append (List.forall_mem_cons.2 ⟨hc, ht⟩)
        (startsWithDigit_eq_false fun c hc => (he.head_append h c hc).1)
    rw [List.cons_append, List.cons_append, skipFraction, if_pos (startsWithDigit_cons hc _),
      digits, skipExponent_append he h]

theorem IsFraction.head_append {f e : List Char} (hf : IsFraction f) (he : IsExponent e) (h : Ends rest) :
    startsWithDigit (f ++ (e ++ rest)) = false := by
  cases hf with
  | none => exact startsWithDigit_eq_false fun c hc => (he.head_append h c hc).1
  | some => rfl

theorem eq_of_digitValue?_eq_zero (h : digitValue? c = some 0) : c = '0' := by
  unfold digitValue? at h
  split at h
  next range =>
    have size : c.toNat - '0'.toNat = 0 := Option.some.inj h
    have low : '0'.toNat ≤ c.toNat := range.1
    exact Char.toNat_inj.1 (by omega)
  · cases h

theorem skipNumber_append {i f e : List Char} (hi : IsInteger i) (hf : IsFraction f)
    (he : IsExponent e) (h : Ends rest) : skipNumber (i ++ (f ++ (e ++ rest))) = .ok rest := by
  have ends := hf.head_append he h
  cases hi with
  | zero =>
    rw [List.cons_append, List.nil_append, skipNumber]
    change (if startsWithDigit _ = true then _ else _) = _
    rw [ends, if_neg Bool.false_ne_true, skipFraction_append hf he h]
  | @digits c t hc positive ht =>
    rw [List.cons_append]
    unfold skipNumber
    dsimp only
    split
    · next none => exact absurd hc (by rw [IsDigit, none]; decide)
    · next zero => exact absurd (eq_of_digitValue?_eq_zero zero) positive
    · rw [dropDigits_append ht ends, skipFraction_append hf he h]

/-! ## Scalars -/

variable {stack outer : List Frame} {f : Frame} {u v : List Char}

/-- Skipping from before a value on. -/
theorem skip_before (stack : List Frame) (s : List Char) :
    skip stack .before s =
      match skipBlank s with
      | [] => .error (.unfinished .value)
      | c :: r =>
        match Frame.opened? c with
        | none => (skipScalar c r).bind (skip stack .after)
        | some f =>
          match skipBlank r with
          | [] => .error f.unfinished
          | d :: t =>
            if d = f.close then skip stack .after t
            else (f.skipLabel (d :: t)).bind (skip (f :: stack) .before) := by
  rw [skip]
  split
  · next heq => rw [heq]
  next c r heq =>
  rw [heq]
  dsimp only
  cases Frame.opened? c with
  | none =>
    dsimp only
    split <;> (next heq => rw [heq]; rfl)
  | some f =>
    dsimp only
    split
    · next heq => rw [heq]
    next heq =>
    rw [heq]
    dsimp only
    split
    · rfl
    · split <;> (next heq => rw [heq]; rfl)

/-- Skipping from after a value on. -/
theorem skip_after (f : Frame) (outer : List Frame) (s : List Char) :
    skip (f :: outer) .after s =
      match skipBlank s with
      | [] => .error f.unfinished
      | c :: r =>
        if c = ',' then (f.skipLabel r).bind (skip (f :: outer) .before)
        else if c = f.close then skip outer .after r
        else .error f.expectedEnd := by
  rw [skip]
  split
  · next heq => rw [heq]
  next heq =>
  rw [heq]
  dsimp only
  split
  · split <;> (next heq => rw [heq]; rfl)
  · rfl

/-- A value that is neither a list nor an object is skipped at once. -/
theorem skip_scalar (hs : skipBlank s = c :: r) (opened : Frame.opened? c = none)
    (h : skipScalar c r = .ok t) : skip stack .before s = skip stack .after t := by
  simp only [skip_before, hs, opened, h, Except.bind]

theorem IsDigit.not_isBlank (h : IsDigit c) : isBlank c = false := by
  refine Bool.eq_false_iff.2 fun blank => ?_
  simp only [isBlank, Bool.or_eq_true, decide_eq_true_eq] at blank
  rcases blank with ((rfl | rfl) | rfl) | rfl <;> cases h

theorem IsDigit.opened?_eq_none (h : IsDigit c) : Frame.opened? c = none := by
  unfold Frame.opened?
  split
  case isTrue list => subst list; cases h
  split
  case isTrue object => subst object; cases h
  rfl

theorem skipScalar_digit (h : IsDigit c) (s : List Char) :
    skipScalar c s = skipNumber (c :: s) := by
  have other (d : Char) (hd : digitValue? d = none) : c ≠ d := by
    rintro rfl
    rw [IsDigit, hd] at h
    cases h
  have some : (digitValue? c).isSome = true := h
  unfold skipScalar
  rw [if_neg (other 'n' rfl), if_neg (other 't' rfl), if_neg (other 'f' rfl),
    if_neg (other '"' rfl), if_neg (other '-' rfl), if_pos some]

theorem IsInteger.exists_digit {i : List Char} (h : IsInteger i) : ∃ c s, i = c :: s ∧ IsDigit c := by
  cases h with
  | zero => exact ⟨_, _, rfl, rfl⟩
  | digits hc => exact ⟨_, _, rfl, hc⟩

theorem skip_number (hb : Blanks b) (h : IsNumber v) (ends : Ends rest) :
    skip stack .before (b ++ (v ++ rest)) = skip stack .after rest := by
  cases h with
  | @mk sign i f e hsign integer fraction exponent =>
    have number := skipNumber_append integer fraction exponent ends
    simp only [List.append_assoc]
    rcases hsign with rfl | rfl
    · obtain ⟨c, t, rfl, digit⟩ := integer.exists_digit
      rw [List.nil_append, List.cons_append] at *
      exact skip_scalar (skipBlank_append_cons hb digit.not_isBlank _) digit.opened?_eq_none
        ((skipScalar_digit digit _).trans number)
    · exact skip_scalar (skipBlank_append_cons hb rfl _) rfl number

theorem skip_string (hb : Blanks b) (h : Quotable t) (rest : List Char) :
    skip stack .before (b ++ '"' :: (t ++ '"' :: rest)) = skip stack .after rest :=
  skip_scalar (skipBlank_append_cons hb rfl _) rfl (skipString_quotable h rest)

theorem skip_word (hb : Blanks b)
    (h : v ∈ [['n', 'u', 'l', 'l'], ['t', 'r', 'u', 'e'], ['f', 'a', 'l', 's', 'e']])
    (rest : List Char) : skip stack .before (b ++ (v ++ rest)) = skip stack .after rest := by
  simp only [List.mem_cons, List.not_mem_nil, or_false] at h
  rcases h with rfl | rfl | rfl
  · exact skip_scalar (skipBlank_append_cons hb rfl _) rfl (readWord_append ['u', 'l', 'l'] rest)
  · exact skip_scalar (skipBlank_append_cons hb rfl _) rfl (readWord_append ['r', 'u', 'e'] rest)
  · exact skip_scalar (skipBlank_append_cons hb rfl _) rfl
      (readWord_append ['a', 'l', 's', 'e'] rest)

/-! ## Lists and objects -/

theorem skip_after_nil (s : List Char) : skip [] .after s = .ok s := by rw [skip]

theorem Frame.isBlank_close (f : Frame) : isBlank f.close = false := by cases f <;> rfl

theorem Frame.isBlank_opening (f : Frame) : isBlank f.opening = false := by cases f <;> rfl

theorem Frame.opened?_opening (f : Frame) : Frame.opened? f.opening = some f := by cases f <;> rfl

theorem skip_close (hs : skipBlank s = f.close :: r) :
    skip (f :: outer) .after s = skip outer .after r := by
  have comma : f.close ≠ ',' := by cases f <;> decide
  simp only [skip_after, hs, if_neg comma, if_true]

theorem skip_comma (hs : skipBlank s = ',' :: r) (h : f.skipLabel r = .ok u) :
    skip (f :: outer) .after s = skip (f :: outer) .before u := by
  simp only [skip_after, hs, h, if_true, Except.bind]

/-- A list or an object that has no items is skipped at once. -/
theorem skip_empty (hs : skipBlank s = f.opening :: r) (hr : skipBlank r = f.close :: t) :
    skip stack .before s = skip stack .after t := by
  simp only [skip_before, hs, f.opened?_opening, hr, if_true]

/-- A list or an object that has items is skipped from the first of them on. -/
theorem skip_opening (hs : skipBlank s = f.opening :: r) (hr : skipBlank r = c :: t)
    (hc : c ≠ f.close) (h : f.skipLabel (c :: t) = .ok u) :
    skip stack .before s = skip (f :: stack) .before u := by
  rw [skip_before, hs]
  simp only [f.opened?_opening, hr, if_neg hc, h, Except.bind]

theorem skipKey_append {name value item : List Char} (hname : Quotable name)
    (h : IsMember name value item) (hb : Blanks b) :
    ∃ b', Blanks b' ∧ ∀ rest, skipKey (b ++ (item ++ rest)) = .ok (b' ++ (value ++ rest)) := by
  obtain ⟨b₁, b₂, h₁, h₂, rfl⟩ := h
  refine ⟨b₂, h₂, fun rest => ?_⟩
  simp only [List.cons_append, List.append_assoc]
  unfold skipKey
  rw [skipBlank_append_cons hb rfl]
  dsimp only
  rw [if_pos rfl, skipString_quotable hname]
  dsimp only
  rw [skipBlank_append_cons h₁ rfl]
  exact if_pos rfl

/-- What precedes the value of an item is skipped. -/
theorem skipLabel_append {value item : List Char} (h : f.Holds value item) (hb : Blanks b) :
    ∃ b', Blanks b' ∧ ∀ rest, f.skipLabel (b ++ (item ++ rest)) = .ok (b' ++ (value ++ rest)) := by
  cases f with
  | list =>
    cases h
    exact ⟨b, hb, fun rest => rfl⟩
  | object =>
    obtain ⟨name, hname, h⟩ := h
    exact skipKey_append hname h hb

/-- A text that is skipped as one value, whatever encloses it and whatever comes after it. -/
def Skippable (v : List Char) : Prop :=
  ∀ stack b rest, Blanks b → Ends rest →
    skip stack .before (b ++ (v ++ rest)) = skip stack .after rest

/-- The items of a list or an object are skipped to its end. -/
theorem skip_items {values items : List (List Char)} (layout : Separated items t)
    (hitems : List.Forall₂ f.Holds values items) (hvalues : ∀ v ∈ values, Skippable v)
    (rest : List Char) : ∃ u, f.skipLabel (t ++ f.close :: rest) = .ok u ∧
      skip (f :: stack) .before u = skip stack .after rest := by
  induction layout generalizing values with
  | @last b item b' before after =>
    obtain ⟨value, _, holds, ⟨⟩, rfl⟩ := List.forall₂_cons_right_iff.1 hitems
    obtain ⟨b₁, h₁, label⟩ := skipLabel_append holds before
    refine ⟨_, by rw [List.append_assoc, List.append_assoc, label], ?_⟩
    rw [hvalues value List.mem_cons_self _ _ _ h₁ ((Ends.of_close f rest).append after),
      skip_close (skipBlank_append_cons after f.isBlank_close rest)]
  | @cons b item b' t items before after layout ih =>
    obtain ⟨value, values, holds, others, rfl⟩ := List.forall₂_cons_right_iff.1 hitems
    obtain ⟨b₁, h₁, label⟩ := skipLabel_append holds before
    obtain ⟨u, hu, skipped⟩ := ih others fun v hv => hvalues v (.tail _ hv)
    refine ⟨_, by rw [List.append_assoc, List.append_assoc, label], ?_⟩
    rw [hvalues value List.mem_cons_self _ _ _ h₁ (by
      rw [List.append_assoc]
      exact (Ends.of_comma _).append after), List.append_assoc, List.cons_append,
      skip_comma (skipBlank_append_cons after rfl _) hu, skipped]

/-! ## Values -/

/-- A text that starts like a value: neither with a blank nor with the end of a list. -/
def Opens (v : List Char) : Prop := ∃ c s, v = c :: s ∧ isBlank c = false ∧ c ≠ ']'

theorem IsValue.opens (h : IsValue v) : Opens v := by
  cases h with
  | word h =>
    simp only [List.mem_cons, List.not_mem_nil, or_false] at h
    rcases h with rfl | rfl | rfl <;> exact ⟨_, _, rfl, rfl, by decide⟩
  | number h =>
    obtain ⟨rfl | rfl, integer, -, -⟩ := h
    · obtain ⟨c, s, rfl, digit⟩ := integer.exists_digit
      exact ⟨c, _, rfl, digit.not_isBlank, by rintro rfl; cases digit⟩
    · exact ⟨_, _, rfl, rfl, by decide⟩
  | string => exact ⟨_, _, rfl, rfl, by decide⟩
  | @enclosed f _ _ _ _ _ layout =>
    obtain ⟨t, -, rfl⟩ := layout
    cases f <;> exact ⟨_, _, rfl, rfl, by decide⟩

/-- An item starts neither with a blank nor with the end of what it stands in. -/
theorem Frame.Holds.opens {value item : List Char} (h : f.Holds value item) (hv : Opens value) :
    ∃ c s, item = c :: s ∧ isBlank c = false ∧ c ≠ f.close := by
  cases f with
  | list =>
    cases h
    exact hv
  | object =>
    obtain ⟨name, -, b, b', -, -, rfl⟩ := h
    exact ⟨_, _, rfl, rfl, by decide⟩

/-- The blanks before the first item may be left out. -/
theorem Separated.exists_head {items : List (List Char)} (h : Separated items t) :
    ∃ b item s, Blanks b ∧ item ∈ items.head? ∧ t = b ++ (item ++ s) ∧
      Separated items (item ++ s) := by
  cases h with
  | last before after => exact ⟨_, _, _, before, rfl, rfl, .last .nil after⟩
  | cons before after rest => exact ⟨_, _, _, before, rfl, rfl, .cons .nil after rest⟩

theorem skip_enclosed {values items : List (List Char)} (hb : Blanks b)
    (layout : f.Encloses items v) (hitems : List.Forall₂ f.Holds values items)
    (hvalues : ∀ v ∈ values, Opens v ∧ Skippable v) (rest : List Char) :
    skip stack .before (b ++ (v ++ rest)) = skip stack .after rest := by
  obtain ⟨t, enclosed, rfl⟩ := layout
  simp only [List.cons_append, List.append_assoc, List.nil_append]
  have opened := skipBlank_append_cons hb f.isBlank_opening (t ++ f.close :: rest)
  cases enclosed with
  | none ht => exact skip_empty opened (skipBlank_append_cons ht f.isBlank_close rest)
  | some layout =>
    obtain ⟨b₁, item, s, h₁, first, rfl, trimmed⟩ := layout.exists_head
    obtain ⟨value, mem, holds⟩ := exists_left_of_mem hitems (List.mem_of_mem_head? first)
    obtain ⟨c, s', rfl, blank, open_⟩ := holds.opens (hvalues value mem).1
    obtain ⟨u, label, skipped⟩ := skip_items trimmed hitems
      (fun v hv => (hvalues v hv).2) rest
    rw [← skipped]
    refine skip_opening opened ?_ open_ label
    rw [List.append_assoc]
    exact skipBlank_append_cons h₁ blank _

theorem IsValue.skippable (h : IsValue v) : Skippable v := by
  induction h with
  | word h => exact fun _ _ rest hb _ => skip_word hb h rest
  | number h => exact fun _ _ _ hb ends => skip_number hb h ends
  | string h =>
    intro _ _ rest hb _
    rw [List.cons_append, List.append_assoc]
    exact skip_string hb h rest
  | enclosed hvalues hitems layout ih =>
    exact fun _ _ rest hb _ => skip_enclosed hb layout hitems
      (fun v hv => ⟨(hvalues v hv).opens, ih v hv⟩) rest

/-- A value is skipped up to its last character. -/
theorem skipValue_append (hb : Blanks b) (h : IsValue v) (ends : Ends rest) :
    skipValue (b ++ (v ++ rest)) = .ok rest := by
  rw [skipValue, h.skippable [] b rest hb ends, skip_after_nil]

end GpuCompute.Json
