import GpuCompute.Proofs.Json.Reading
import Mathlib.Data.List.DropRight

/-!
# Reading and skipping

A reader that takes a value goes as far as skipping the value does (`Spans`). So what it leaves of a
text does not depend on the type that is read, and where the text is known to hold a value it is what
follows this value (`Spans.rest_eq`).
-/

namespace GpuCompute.Json

variable {α β : Type} {b r s t u v w : List Char} {c : Char}

/-- Where the reader takes a value, skipping goes as far, whatever encloses the value. -/
structure Spans (reader : Reader α) : Prop where
  skip_eq : ∀ {s a r}, reader s = .ok (a, r) → ∀ stack, skip stack .before s = skip stack .after r

theorem Spans.rest_eq {reader : Reader α} {a : α} (h : Spans reader) (hb : Blanks b) (hv : IsValue v)
    (ends : Ends w) (read : reader (b ++ (v ++ w)) = .ok (a, r)) : r = w := by
  have skipped := (h.skip_eq read []).symm.trans (hv.skippable [] b w hb ends)
  rw [skip_after_nil, skip_after_nil] at skipped
  exact Except.ok.inj skipped

theorem exists_of_bind_ok {x : Except ReadError α} {f : α → Except ReadError β} {y : β}
    (h : x >>= f = .ok y) : ∃ a, x = .ok a ∧ f a = .ok y := by
  cases x with
  | error e => cases h
  | ok a => exact ⟨a, rfl, h⟩

theorem exists_of_map_ok {x : Except ReadError α} {f : α → β} {y : β} (h : x.map f = .ok y) :
    ∃ a, x = .ok a ∧ f a = y := by
  cases x with
  | error e => cases h
  | ok a => exact ⟨a, rfl, Except.ok.inj h⟩

/-- Whatever is made of the value. -/
theorem Spans.map {reader : Reader α} {reader' : Reader β} (h : Spans reader) (f : α → β)
    (hr : ∀ s, reader' s = (reader s).map fun p => (f p.1, p.2)) : Spans reader' := by
  refine ⟨fun {s a r} read stack => ?_⟩
  rw [hr] at read
  obtain ⟨p, taken, same⟩ := exists_of_map_ok read
  cases same
  exact h.skip_eq taken stack

/-! ## Strings -/

/-- The second half of a pair is an escape of its own when it is skipped. -/
theorem skipString_of_readSecondSurrogate {n : Nat} (h : readSecondSurrogate n s = .ok (c, r)) :
    skipString s = skipString r := by
  unfold readSecondSurrogate at h
  split at h
  · cases h
  · cases h
  · next s =>
    obtain ⟨⟨n', u⟩, hex, h⟩ := exists_of_bind_ok h
    have skipped : skipEscape ('u' :: s) = .ok u := by rw [skipEscape, hex]; rfl
    rw [skipString_escape skipped]
    dsimp only at h
    split at h
    · rw [(Prod.mk.inj (Except.ok.inj h)).2]
    · cases h
  · cases h

theorem skipString_of_readEscape (h : readEscape s = .ok (c, r)) :
    skipString ('\\' :: s) = skipString r := by
  unfold readEscape at h
  split at h
  · cases h
  · next s =>
    obtain ⟨⟨n, u⟩, hex, h⟩ := exists_of_bind_ok h
    have skipped : skipEscape ('u' :: s) = .ok u := by rw [skipEscape, hex]; rfl
    rw [skipString_escape skipped]
    dsimp only at h
    split at h
    · cases h
    split at h
    · exact skipString_of_readSecondSurrogate h
    · rw [(Prod.mk.inj (Except.ok.inj h)).2]
  · split at h
    · next found =>
      cases h
      exact skipString_escape (skipEscape_letter (Option.isSome_of_eq_some found) _)
    · cases h

theorem skipString_of_readString {before : List Char} (h : readString before s = .ok (t, r)) :
    skipString s = .ok r := by
  fun_induction readString before s with
  | case1 => cases h
  | case2 before s =>
    cases h
    exact skipString_quote _
  | case3 => cases h
  | case4 before s x u escape _ ih => exact (skipString_of_readEscape escape).trans (ih h)
  | case5 => cases h
  | case6 before c s quote backslash control ih =>
    exact (skipString_plain ⟨quote, backslash, control⟩ s).trans (ih h)

theorem spans_readText : Spans readText := by
  refine ⟨fun {s a r} h stack => ?_⟩
  unfold readText at h
  split at h
  · cases h
  · next found =>
    obtain ⟨⟨t, u⟩, read, same⟩ := exists_of_map_ok h
    cases same
    exact skip_scalar found rfl (skipString_of_readString read)
  · cases h

/-! ## Truth values -/

theorem spans_readBool : Spans readBool := by
  refine ⟨fun {s a r} h stack => ?_⟩
  unfold readBool at h
  split at h
  · cases h
  · next found =>
    obtain ⟨u, read, same⟩ := exists_of_map_ok h
    cases same
    exact skip_scalar found rfl read
  · next found =>
    obtain ⟨u, read, same⟩ := exists_of_map_ok h
    cases same
    exact skip_scalar found rfl read
  · cases h

/-! ## Numbers -/

theorem dropDigits_takeDigits (limit n : Nat) (s : List Char) :
    dropDigits (takeDigits limit n s).2.2 = dropDigits s := by
  induction s generalizing n with
  | nil => rfl
  | cons c s ih =>
    rw [takeDigits]
    split
    · rfl
    next d found =>
    split
    · have digit : IsDigit c := Option.isSome_of_eq_some found
      exact (ih (n * 10 + d)).trans (dropDigits_cons digit s).symm
    · rfl

theorem finishReal_rest {minus : Bool} {significand : Nat} {exponent : Int} {n : Number}
    (h : finishReal minus significand exponent s = .ok (n, r)) : r = s := by
  unfold finishReal at h
  split at h
  · cases h
    rfl
  · cases h

theorem readExponentDigits_rest {minus down : Bool} {significand : Nat} {exponent : Int}
    {n : Number} (h : readExponentDigits minus down significand exponent s = .ok (n, r)) :
    ∃ c t, s = c :: t ∧ IsDigit c ∧ r = dropDigits s := by
  unfold readExponentDigits at h
  split at h
  · cases h
  next c s =>
  split at h
  · cases h
  next d found =>
  have digit : IsDigit c := Option.isSome_of_eq_some found
  have dropped := (dropDigits_takeDigits (Nat.pow 2 31) d s).trans (dropDigits_cons digit s).symm
  refine ⟨c, s, rfl, digit, ?_⟩
  dsimp only at h
  split at h
  · split at h
    · cases h
    · cases h
      exact dropped
  next ends =>
  rw [finishReal_rest h, ← dropped, dropDigits_eq_self (Bool.eq_false_iff.2 ends)]

/-- An exponent that is read is skipped up to the same character. -/
theorem skipExponent_of_readExponent {minus : Bool} {significand : Nat} {exponent : Int}
    {n : Number} {e : Char} (he : e = 'e' ∨ e = 'E')
    (h : readExponent minus significand exponent s = .ok (n, r)) :
    skipExponent (e :: s) = .ok r := by
  unfold readExponent at h
  split at h
  · obtain ⟨c, t, rfl, digit, rfl⟩ := readExponentDigits_rest h
    exact skipExponent_sign he (by simp : ['+'] ∈ [[], ['+'], ['-']]) digit t
  · obtain ⟨c, t, rfl, digit, rfl⟩ := readExponentDigits_rest h
    exact skipExponent_sign he (by simp : ['-'] ∈ [[], ['+'], ['-']]) digit t
  · obtain ⟨c, t, rfl, digit, rfl⟩ := readExponentDigits_rest h
    exact skipExponent_sign he (by simp : [] ∈ [[], ['+'], ['-']]) digit t

theorem skipExponent_none (he : ∀ t, s ≠ 'e' :: t) (hE : ∀ t, s ≠ 'E' :: t) :
    skipExponent s = .ok s := by
  unfold skipExponent
  split
  · exact absurd rfl (he _)
  · exact absurd rfl (hE _)
  · rfl

theorem skipFraction_of_readFraction {minus : Bool} {significand : Nat} {exponent : Int}
    {n : Number} (h : readFraction minus significand exponent s = .ok (n, r)) :
    skipFraction ('.' :: s) = .ok r := by
  have dropped := dropDigits_takeDigits UInt64.size significand s
  have none := takeDigits_none UInt64.size significand (s := s)
  have skip : skipFraction ('.' :: s) =
    if startsWithDigit s then skipExponent (dropDigits s) else .error .invalidNumber := rfl
  unfold readFraction at h
  dsimp only at h
  rw [dropped] at h
  rw [skip]
  split at h
  · split at h <;> cases h
  next digits =>
  have digit : startsWithDigit s = true := by
    by_contra other
    have other := Bool.eq_false_iff.2 other
    rw [none other] at digits
    simp [other] at digits
  rw [if_pos digit]
  split at h
  · next heq =>
    rw [heq]
    exact skipExponent_of_readExponent (.inl rfl) h
  · next heq =>
    rw [heq]
    exact skipExponent_of_readExponent (.inr rfl) h
  · next small large =>
    rw [finishReal_rest h]
    exact skipExponent_none small large

theorem skipFraction_of_readAfterInteger {minus : Bool} {value dropped : Nat} {n : Number}
    (h : readAfterInteger minus value dropped s = .ok (n, r)) : skipFraction s = .ok r := by
  unfold readAfterInteger at h
  split at h
  · exact skipFraction_of_readFraction h
  · exact skipExponent_of_readExponent (.inl rfl) h
  · exact skipExponent_of_readExponent (.inr rfl) h
  next point small large =>
  have rest : r = s := by
    split at h
    · exact (Prod.mk.inj (Except.ok.inj h)).2.symm
    · exact finishReal_rest h
  rw [rest, ← skipExponent_none small large]
  unfold skipFraction
  split
  · exact absurd rfl (point _)
  · rfl

/-- A number that is read is skipped up to the same character. -/
theorem skipNumber_of_readNumber {minus : Bool} {n : Number}
    (h : readNumber minus s = .ok (n, r)) : skipNumber s = .ok r := by
  unfold readNumber at h
  split at h
  · cases h
  next c s =>
  unfold skipNumber
  dsimp only
  split at h
  · cases h
  · next zero =>
    split at h
    · cases h
    next single =>
    rw [if_neg single]
    exact skipFraction_of_readAfterInteger h
  · next d _ _ =>
    dsimp only at h
    rw [← dropDigits_takeDigits UInt64.size d s]
    exact skipFraction_of_readAfterInteger h

theorem spans_readNumeric {expected : String} {accept : Number → Except ReadError α} :
    Spans (readNumeric expected accept) := by
  refine ⟨fun {s a r} h stack => ?_⟩
  unfold readNumeric at h
  dsimp only at h
  split at h
  · cases h
  · next found =>
    obtain ⟨⟨n, u⟩, number, h⟩ := exists_of_bind_ok h
    obtain ⟨a', -, h⟩ := exists_of_bind_ok h
    cases h
    exact skip_scalar found rfl (skipNumber_of_readNumber number)
  · split at h
    next digit =>
      obtain ⟨⟨n, u⟩, number, h⟩ := exists_of_bind_ok h
      obtain ⟨a', -, h⟩ := exists_of_bind_ok h
      cases h
      obtain ⟨c, t, found, digit⟩ : ∃ c t, skipBlank s = c :: t ∧ IsDigit c := by
        cases heq : skipBlank s with
        | nil => rw [heq] at digit; cases digit
        | cons c t => exact ⟨c, t, rfl, by rwa [heq] at digit⟩
      rw [found] at number
      exact skip_scalar found digit.opened?_eq_none
        ((skipScalar_digit digit t).trans (skipNumber_of_readNumber number))
    · cases h

theorem spans_readUInt32 : Spans readUInt32 := spans_readNumeric

/-! ## Lists -/

theorem skipBlank_skipBlank (s : List Char) : skipBlank (skipBlank s) = skipBlank s :=
  List.dropWhile_idempotent _ _

theorem skip_skipBlank (stack : List Frame) (s : List Char) :
    skip stack .before (skipBlank s) = skip stack .before s := by
  rw [skip_before, skip_before, skipBlank_skipBlank]

theorem skipBlank_of_nextElement_first (h : nextElement true s = .ok (some t)) :
    t = skipBlank s ∧ ∃ c r, skipBlank s = c :: r ∧ c ≠ ']' := by
  unfold nextElement at h
  split at h
  · cases h
  next c r found =>
  split at h
  · cases h
  next close =>
  cases h
  exact ⟨found.symm, c, r, found, close⟩

theorem skipBlank_of_nextElement_comma (h : nextElement false s = .ok (some t)) :
    ∃ r, skipBlank s = ',' :: r ∧ t = skipBlank r := by
  unfold nextElement at h
  split at h
  · cases h
  next c r found =>
  split at h
  · cases h
  rw [if_neg Bool.false_ne_true] at h
  split at h
  · next comma =>
    split at h
    · cases h
    next d u heq =>
    split at h
    · cases h
    · cases h
      exact ⟨r, comma ▸ found, heq.symm⟩
  · cases h

theorem skipBlank_of_endList (h : endList s = .ok r) : skipBlank s = ']' :: r := by
  unfold endList at h
  split at h
  · cases h
  next c t found =>
  split at h
  · next close =>
    cases h
    rw [found, close]
  split at h
  · split at h <;> cases h
  · cases h

theorem exists_of_readElements {item : Reader α} {as : List α} {first : Bool} {n : Nat}
    (h : readElements item (n + 1) first s = .ok (as, w)) :
    (nextElement first s = .ok none ∧ w = s) ∨
      ∃ t a as' u, nextElement first s = .ok (some t) ∧ item t = .ok (a, u) ∧
        readElements item n false u = .ok (as', w) := by
  obtain ⟨next, hnext, h⟩ := exists_of_bind_ok h
  cases next with
  | none =>
    cases h
    exact .inl ⟨hnext, rfl⟩
  | some t =>
    obtain ⟨⟨a, u⟩, first, h⟩ := exists_of_bind_ok h
    obtain ⟨⟨as', w'⟩, others, h⟩ := exists_of_bind_ok h
    cases h
    exact .inr ⟨t, a, as', u, hnext, first, others⟩

/-- After an element, skipping goes to the end of the list like reading. -/
theorem skip_of_readElements {item : Reader α} (hitem : Spans item) {as : List α} {n : Nat}
    (h : readElements item n false s = .ok (as, w)) (ended : endList w = .ok r)
    (stack : List Frame) : skip (.list :: stack) .after s = skip stack .after r := by
  induction n generalizing s as with
  | zero => cases h
  | succ n ih =>
    obtain ⟨-, rfl⟩ | ⟨t, a, as', u, next, first, others⟩ := exists_of_readElements h
    · exact skip_close (f := .list) (skipBlank_of_endList ended)
    · obtain ⟨s', comma, rfl⟩ := skipBlank_of_nextElement_comma next
      rw [skip_comma (f := .list) comma rfl, ← skip_skipBlank, hitem.skip_eq first, ih others]

theorem spans_readList {item : Reader α} (hitem : Spans item) : Spans (readList item) := by
  refine ⟨fun {s as r} h stack => ?_⟩
  unfold readList at h
  split at h
  · cases h
  · next s' found =>
    obtain ⟨⟨as', w⟩, elements, h⟩ := exists_of_bind_ok h
    obtain ⟨r', ended, h⟩ := exists_of_bind_ok h
    cases h
    obtain ⟨-, rfl⟩ | ⟨t, a, as', u, next, first, others⟩ := exists_of_readElements elements
    · exact skip_empty (f := .list) found (skipBlank_of_endList ended)
    · obtain ⟨rfl, c, s'', heq, close⟩ := skipBlank_of_nextElement_first next
      rw [skip_opening (f := .list) found heq close rfl, ← heq, hitem.skip_eq first,
        skip_of_readElements hitem others ended]
  · cases h

end GpuCompute.Json
