import GpuCompute.Json.Read
import Mathlib.Data.List.Forall2

/-!
# The grammar of JSON

Which texts are values, without a word about how they are read: `Spells` says which characters the
inside of a string stands for, `Enclosed` how the items of a list or an object are laid out between its
brackets, and `IsValue` which texts are values of any kind. A value is followed by a blank, by a comma,
by the end of what encloses it, or by nothing (`Ends`).
-/

namespace GpuCompute.Json

/-- Nothing but blanks. -/
def Blanks (b : List Char) : Prop := ∀ c ∈ b, isBlank c

/-- What may follow a value. -/
def Ends (rest : List Char) : Prop :=
  ∀ c ∈ rest.head?, isBlank c ∨ c = ',' ∨ c = ']' ∨ c = '\x7d'

/-! ## Strings -/

/-- Four hexadecimal digits, with the number that they are. -/
inductive IsHex : List Char → Nat → Prop
  | mk {a b c d : Char} {i j k l : Nat} (ha : hexValue? a = some i) (hb : hexValue? b = some j)
    (hc : hexValue? c = some k) (hd : hexValue? d = some l) :
    IsHex [a, b, c, d] (((i * 16 + j) * 16 + k) * 16 + l)

/-- Whether a character may stand in a string as it is. -/
def IsPlain (c : Char) : Prop := c ≠ '"' ∧ c ≠ '\\' ∧ ¬ c.toNat < 0x20

/-- The inside of a string, with the characters that it stands for. -/
inductive Spells : List Char → List Char → Prop
  | nil : Spells [] []
  | plain {c : Char} {t s : List Char} (h : IsPlain c) (rest : Spells t s) : Spells (c :: t) (c :: s)
  | letter {e c : Char} {t s : List Char} (h : letterEscape? e = some c) (rest : Spells t s) :
    Spells ('\\' :: e :: t) (c :: s)
  | numbered {h : List Char} {n : Nat} {t s : List Char} (hex : IsHex h n)
    (whole : ¬ (0xD800 ≤ n ∧ n ≤ 0xDFFF)) (rest : Spells t s) :
    Spells ('\\' :: 'u' :: (h ++ t)) (.ofNat n :: s)
  /-- A character beyond the first 65536 is given by two numbers. -/
  | pair {h h' : List Char} {n n' : Nat} {t s : List Char} (hex : IsHex h n) (hex' : IsHex h' n')
    (first : 0xD800 ≤ n ∧ n ≤ 0xDBFF) (second : 0xDC00 ≤ n' ∧ n' ≤ 0xDFFF) (rest : Spells t s) :
    Spells ('\\' :: 'u' :: (h ++ '\\' :: 'u' :: (h' ++ t)))
      (.ofNat ((n - 0xD800) * 0x400 + (n' - 0xDC00) + 0x10000) :: s)

/-- The inside of a string, whether or not it stands for characters: half of a pair may stand alone. -/
inductive Quotable : List Char → Prop
  | nil : Quotable []
  | plain {c : Char} {t : List Char} (h : IsPlain c) (rest : Quotable t) : Quotable (c :: t)
  | letter {e : Char} {t : List Char} (h : (letterEscape? e).isSome) (rest : Quotable t) :
    Quotable ('\\' :: e :: t)
  | numbered {h : List Char} {n : Nat} {t : List Char} (hex : IsHex h n) (rest : Quotable t) :
    Quotable ('\\' :: 'u' :: (h ++ t))

theorem Spells.quotable {t s : List Char} (h : Spells t s) : Quotable t := by
  induction h with
  | nil => exact .nil
  | plain h _ ih => exact .plain h ih
  | letter h _ ih => exact .letter (Option.isSome_of_eq_some h) ih
  | numbered hex _ _ ih => exact .numbered hex ih
  | pair hex hex' _ _ _ ih => exact .numbered hex (.numbered hex' ih)

/-- A string with its quotes, with the text that it stands for. -/
def IsText (s : String) (v : List Char) : Prop := ∃ t, Spells t s.toList ∧ v = '"' :: (t ++ ['"'])

/-! ## Numbers -/

/-- Whether a character is a decimal digit. -/
def IsDigit (c : Char) : Prop := (digitValue? c).isSome

/-- The integer part of a number: no digits after a zero. -/
inductive IsInteger : List Char → Prop
  | zero : IsInteger ['0']
  | digits {c : Char} {t : List Char} (hc : IsDigit c) (positive : c ≠ '0')
    (ht : ∀ c ∈ t, IsDigit c) : IsInteger (c :: t)

/-- The fraction of a number, if it has one. -/
inductive IsFraction : List Char → Prop
  | none : IsFraction []
  | some {c : Char} {t : List Char} (hc : IsDigit c) (ht : ∀ c ∈ t, IsDigit c) :
    IsFraction ('.' :: c :: t)

/-- The exponent of a number, if it has one. -/
inductive IsExponent : List Char → Prop
  | none : IsExponent []
  | some {e c : Char} {sign t : List Char} (he : e = 'e' ∨ e = 'E')
    (hsign : sign ∈ [[], ['+'], ['-']]) (hc : IsDigit c) (ht : ∀ c ∈ t, IsDigit c) :
    IsExponent (e :: (sign ++ c :: t))

/-- A number. -/
inductive IsNumber : List Char → Prop
  | mk {sign i f e : List Char} (hsign : sign = [] ∨ sign = ['-']) (integer : IsInteger i)
    (fraction : IsFraction f) (exponent : IsExponent e) : IsNumber (sign ++ (i ++ (f ++ e)))

/-! ## Lists and objects -/

/-- Items with commas between them, and blanks around each. -/
inductive Separated : List (List Char) → List Char → Prop
  | last {b v b' : List Char} (before : Blanks b) (after : Blanks b') :
    Separated [v] (b ++ (v ++ b'))
  | cons {b v b' t : List Char} {vs : List (List Char)} (before : Blanks b) (after : Blanks b')
    (rest : Separated vs t) : Separated (v :: vs) (b ++ (v ++ (b' ++ ',' :: t)))

/-- What stands between the brackets of a list or an object with the given items. -/
inductive Enclosed : List (List Char) → List Char → Prop
  | none {b : List Char} (h : Blanks b) : Enclosed [] b
  | some {vs : List (List Char)} {t : List Char} (h : Separated vs t) : Enclosed vs t

/-- The character that a list or an object starts with. -/
def Frame.opening : Frame → Char
  | .list => '['
  | .object => '\x7b'

/-- A member of an object with the inside of its name and its value. -/
def IsMember (name value t : List Char) : Prop :=
  ∃ b b', Blanks b ∧ Blanks b' ∧ t = '"' :: (name ++ '"' :: (b ++ ':' :: (b' ++ value)))

/-- An item of a list or an object with its value. -/
def Frame.Holds : Frame → (value t : List Char) → Prop
  | .list, value, t => t = value
  | .object, value, t => ∃ name, Quotable name ∧ IsMember name value t

/-- A list or an object with the given items. -/
def Frame.Encloses (f : Frame) (items : List (List Char)) (v : List Char) : Prop :=
  ∃ t, Enclosed items t ∧ v = f.opening :: (t ++ [f.close])

/-! ## Values -/

/-- A value of any kind. -/
inductive IsValue : List Char → Prop
  | word {t : List Char}
    (h : t ∈ [['n', 'u', 'l', 'l'], ['t', 'r', 'u', 'e'], ['f', 'a', 'l', 's', 'e']]) : IsValue t
  | number {t : List Char} (h : IsNumber t) : IsValue t
  | string {t : List Char} (h : Quotable t) : IsValue ('"' :: (t ++ ['"']))
  | enclosed {f : Frame} {values items : List (List Char)} {t : List Char}
    (hvalues : ∀ v ∈ values, IsValue v) (hitems : List.Forall₂ f.Holds values items)
    (layout : f.Encloses items t) : IsValue t

/-- Every text on the right of a relation between lists is related to something on the left. -/
theorem exists_left_of_mem {α : Type} {R : α → List Char → Prop} {l : List α}
    {m : List (List Char)} (h : List.Forall₂ R l m) {v : List Char} (hv : v ∈ m) :
    ∃ a ∈ l, R a v := by
  induction h with
  | nil => cases hv
  | cons first _ ih =>
    cases hv with
    | head => exact ⟨_, List.mem_cons_self, first⟩
    | tail _ hv =>
      obtain ⟨a, mem, related⟩ := ih hv
      exact ⟨a, .tail _ mem, related⟩

/-! ## Blanks -/

variable {b s : List Char} {c : Char}

theorem Blanks.nil : Blanks [] := List.forall_mem_nil _

theorem skipBlank_append (h : Blanks b) (s : List Char) : skipBlank (b ++ s) = skipBlank s :=
  List.dropWhile_append_of_pos h

theorem skipBlank_cons (h : isBlank c = false) (s : List Char) : skipBlank (c :: s) = c :: s :=
  List.dropWhile_cons_of_neg (by simp [h])

theorem skipBlank_append_cons (hb : Blanks b) (hc : isBlank c = false) (s : List Char) :
    skipBlank (b ++ c :: s) = c :: s := by
  rw [skipBlank_append hb, skipBlank_cons hc]

theorem Ends.append (hb : Blanks b) (hs : Ends s) : Ends (b ++ s) := by
  cases b with
  | nil => exact hs
  | cons c b =>
    rintro _ ⟨⟩
    exact .inl (hb c List.mem_cons_self)

theorem Ends.of_comma (s : List Char) : Ends (',' :: s) := by
  rintro _ ⟨⟩
  exact .inr (.inl rfl)

theorem Ends.of_close (f : Frame) (s : List Char) : Ends (f.close :: s) := by
  rintro _ ⟨⟩
  cases f with
  | list => exact .inr (.inr (.inl rfl))
  | object => exact .inr (.inr (.inr rfl))

end GpuCompute.Json
