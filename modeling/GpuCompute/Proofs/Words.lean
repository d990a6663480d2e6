import GpuCompute.Config
import Mathlib.Data.List.Basic

/-!
# Words and the texts that they make

A text made of words, with blanks between them and perhaps around them (`Text.Spaced`), is cut into
these words, whichever blanks they are, and every text is made of the words that it is cut into
(`Text.words_eq_iff`). The words of a text have no blanks in them, and together they are what the text
has besides blanks, so that they are also the words of the text that joins them by single spaces.
-/

namespace GpuCompute.Text

/-! ## Words and blanks -/

/-- A text with nothing but blanks in it, if anything. -/
def Blanks (b : List Char) : Prop := ∀ c ∈ b, isBlank c = true

/-- A text with at least one character and no blanks. -/
structure IsWord (w : List Char) : Prop where
  ne_nil : w ≠ []
  solid : ∀ c ∈ w, isBlank c = false

/-- Words with blanks between each and the next, at least one. -/
inductive Joined : List (List Char) → List Char → Prop
  | one {w : List Char} (word : IsWord w) : Joined [w] w
  | cons {w b t : List Char} {ws : List (List Char)} (word : IsWord w) (blanks : Blanks b)
    (gap : b ≠ []) (rest : Joined ws t) : Joined (w :: ws) (w ++ (b ++ t))

/-- A text made of words: the words in order with blanks between them, and blanks before and after
them, which may be missing; or only blanks, if there are no words. -/
inductive Spaced : List (List Char) → List Char → Prop
  | wordless {b : List Char} (blanks : Blanks b) : Spaced [] b
  | around {b t a : List Char} {ws : List (List Char)} (before : Blanks b) (joined : Joined ws t)
    (after : Blanks a) : Spaced ws (b ++ (t ++ a))

variable {c : Char} {b w s t : List Char} {ws : List (List Char)}

theorem Blanks.cons (hc : isBlank c = true) (hb : Blanks b) : Blanks (c :: b) :=
  List.forall_mem_cons.2 ⟨hc, hb⟩

theorem Blanks.head (hb : Blanks b) : ∀ d ∈ b.head?, isBlank d = true :=
  fun d hd => hb d (List.mem_of_mem_head? hd)

theorem IsWord.cons (hc : isBlank c = false) (hw : ∀ d ∈ w, isBlank d = false) : IsWord (c :: w) :=
  ⟨nofun, List.forall_mem_cons.2 ⟨hc, hw⟩⟩

theorem IsWord.singleton (hc : isBlank c = false) : IsWord [c] := .cons hc nofun

/-- The first word can be made longer. -/
theorem Joined.cons_of_notBlank (hc : isBlank c = false) (h : Joined ws t) :
    ∃ w rest, ws = w :: rest ∧ (∃ d ∈ t.head?, isBlank d = false) ∧
      Joined ((c :: w) :: rest) (c :: t) := by
  have first {w : List Char} (word : IsWord w) (s : List Char) :
      ∃ d ∈ (w ++ s).head?, isBlank d = false := by
    obtain ⟨d, w, rfl⟩ := List.exists_cons_of_ne_nil word.ne_nil
    exact ⟨d, rfl, word.solid d List.mem_cons_self⟩
  cases h with
  | one word => exact ⟨_, _, rfl, List.append_nil t ▸ first word [], .one (.cons hc word.solid)⟩
  | cons word blanks gap rest =>
    exact ⟨_, _, rfl, first word _, .cons (.cons hc word.solid) blanks gap rest⟩

/-! ## Cutting what was joined -/

theorem words_blank (hc : isBlank c = true) (s : List Char) : words (c :: s) = words s := if_pos hc

theorem words_solid (hc : isBlank c = false) (s : List Char) :
    words (c :: s) = joinFirst c s (words s) := if_neg (Bool.eq_false_iff.1 hc)

/-- A character that is not blank is a word of its own before a blank or the end. -/
theorem joinFirst_ends (ends : ∀ d ∈ s.head?, isBlank d = true) (ws : List (List Char)) :
    joinFirst c s ws = [c] :: ws := by
  unfold joinFirst
  split
  · exact if_pos (ends _ rfl)
  · rfl

/-- Before another such character it makes the first word longer. -/
theorem joinFirst_goes (goes : ∃ d ∈ s.head?, isBlank d = false) (w : List Char)
    (ws : List (List Char)) : joinFirst c s (w :: ws) = (c :: w) :: ws := by
  obtain ⟨d, hd, solid⟩ := goes
  obtain ⟨r, rfl⟩ := List.head?_eq_some_iff.1 hd
  exact if_neg (Bool.eq_false_iff.1 solid)

theorem words_blanks_append (hb : Blanks b) (s : List Char) : words (b ++ s) = words s := by
  induction b with
  | nil => rfl
  | cons c b ih =>
    obtain ⟨hc, hb⟩ := List.forall_mem_cons.1 hb
    rw [List.cons_append, words_blank hc, ih hb]

theorem words_blanks (hb : Blanks b) : words b = [] := by
  rw [← List.append_nil b]
  exact words_blanks_append hb []

/-- A word is cut off where a blank follows it, or nothing. -/
theorem words_word_append (hw : IsWord w) (ends : ∀ d ∈ s.head?, isBlank d = true) :
    words (w ++ s) = w :: words s := by
  obtain ⟨ne, solid⟩ := hw
  induction w with
  | nil => exact absurd rfl ne
  | cons c w ih =>
    obtain ⟨hc, solid⟩ := List.forall_mem_cons.1 solid
    rw [List.cons_append, words_solid hc]
    cases w with
    | nil => exact joinFirst_ends ends _
    | cons d w =>
      rw [ih nofun solid]
      exact joinFirst_goes ⟨d, rfl, solid d List.mem_cons_self⟩ _ _

theorem words_joined_append (h : Joined ws t) {a : List Char} (after : Blanks a) :
    words (t ++ a) = ws := by
  induction h with
  | one word => rw [words_word_append word after.head, words_blanks after]
  | @cons w b t ws word blanks gap rest ih =>
    have ends : ∀ d ∈ (b ++ (t ++ a)).head?, isBlank d = true := by
      rw [List.head?_append_of_ne_nil _ gap]
      exact blanks.head
    rw [List.append_assoc, List.append_assoc, words_word_append word ends,
      words_blanks_append blanks, ih]

theorem words_of_spaced (h : Spaced ws s) : words s = ws := by
  cases h with
  | wordless blanks => exact words_blanks blanks
  | around before joined after => rw [words_blanks_append before, words_joined_append joined after]

/-! ## Words of any text -/

/-- Every text is made of its words. -/
theorem spaced_words (s : List Char) : Spaced (words s) s := by
  induction s with
  | nil => exact .wordless nofun
  | cons c s ih =>
    cases hc : isBlank c with
    | true =>
      rw [words_blank hc]
      generalize words s = ws at ih
      cases ih with
      | wordless blanks => exact .wordless (.cons hc blanks)
      | around before joined after => exact .around (.cons hc before) joined after
    | false =>
      rw [words_solid hc]
      generalize words s = ws at ih
      cases ih with
      | wordless blanks =>
        rw [joinFirst_ends blanks.head]
        exact .around (b := []) nofun (.one (.singleton hc)) blanks
      | @around b t a _ before joined after =>
        -- What follows the character is blank, or the first of the words.
        cases b with
        | nil =>
          obtain ⟨w, rest, rfl, goes, longer⟩ := joined.cons_of_notBlank hc
          have goes : ∃ d ∈ (t ++ a).head?, isBlank d = false := by
            obtain ⟨d, hd, solid⟩ := goes
            obtain ⟨r, rfl⟩ := List.head?_eq_some_iff.1 hd
            exact ⟨d, rfl, solid⟩
          rw [List.nil_append, joinFirst_goes goes]
          exact .around (b := []) nofun longer after
        | cons e b =>
          have ends : ∀ d ∈ ((e :: b) ++ (t ++ a)).head?, isBlank d = true := before.head
          have apart := Joined.cons (.singleton hc) before nofun joined
          have spaced := Spaced.around (b := []) nofun apart after
          rw [joinFirst_ends ends]
          simpa using spaced

/-- A text is cut into words exactly if it is made of them. -/
theorem words_eq_iff : words s = ws ↔ Spaced ws s :=
  ⟨fun h => h ▸ spaced_words s, words_of_spaced⟩

theorem Joined.isWord (h : Joined ws t) : ∀ w ∈ ws, IsWord w := by
  induction h with
  | one word => exact List.forall_mem_singleton.2 word
  | cons word _ _ _ ih => exact List.forall_mem_cons.2 ⟨word, ih⟩

theorem isWord_of_mem_words (s : List Char) : ∀ w ∈ words s, IsWord w := by
  have spaced := spaced_words s
  generalize words s = ws at spaced
  cases spaced with
  | wordless => nofun
  | around _ joined _ => exact joined.isWord

/-- Nothing but blanks is lost. -/
theorem flatten_of_spaced (h : Spaced ws s) : ws.flatten = s.filter fun c => !isBlank c := by
  have gone {b : List Char} (hb : Blanks b) : b.filter (fun c => !isBlank c) = [] :=
    List.filter_eq_nil_iff.2 fun c hc => by simp [hb c hc]
  have kept {w : List Char} (hw : IsWord w) : w.filter (fun c => !isBlank c) = w :=
    List.filter_eq_self.2 fun c hc => by simp [hw.solid c hc]
  have inner {ws : List (List Char)} {t : List Char} (h : Joined ws t) :
      ws.flatten = t.filter fun c => !isBlank c := by
    induction h with
    | one word => rw [List.flatten_singleton, kept word]
    | cons word blanks _ _ ih =>
      rw [List.flatten_cons, List.filter_append, List.filter_append, kept word, gone blanks, ih,
        List.nil_append]
  cases h with
  | wordless blanks => exact (gone blanks).symm
  | around before joined after =>
    rw [List.filter_append, List.filter_append, gone before, gone after, inner joined,
      List.nil_append, List.append_nil]

theorem joined_intercalate (hw : IsWord w) (hws : ∀ v ∈ ws, IsWord v) :
    Joined (w :: ws) ([' '].intercalate (w :: ws)) := by
  induction ws generalizing w with
  | nil =>
    rw [List.intercalate_singleton]
    exact .one hw
  | cons v ws ih =>
    obtain ⟨hv, hws⟩ := List.forall_mem_cons.1 hws
    have space : Blanks [' '] := List.forall_mem_singleton.2 rfl
    rw [List.intercalate_cons_cons, List.append_assoc]
    exact .cons hw space nofun (ih hv hws)

theorem words_intercalate (hws : ∀ v ∈ ws, IsWord v) : words ([' '].intercalate ws) = ws := by
  cases ws with
  | nil => rfl
  | cons w ws =>
    obtain ⟨hw, hws⟩ := List.forall_mem_cons.1 hws
    have cut := words_joined_append (joined_intercalate hw hws) (a := []) nofun
    rwa [List.append_nil] at cut

/-! ## Strings -/

theorem toList_wordsOf (v : String) : (wordsOf v).map String.toList = words v.toList := by
  rw [wordsOf, List.map_map]
  exact List.map_id'' (fun _ => String.toList_ofList) _

theorem wordsOf_eq_iff {v : String} {names : List String} :
    wordsOf v = names ↔ Spaced (names.map String.toList) v.toList := by
  rw [← words_eq_iff, ← toList_wordsOf]
  exact (List.map_injective_iff.2 fun _ _ => String.toList_inj.1).eq_iff.symm

/-- **Cutting into words is the inverse of joining words by blanks.** -/
theorem wordsOf_inverse (v : String) :
    (∀ names, wordsOf v = names ↔ Spaced (names.map String.toList) v.toList) ∧
      (∀ name ∈ wordsOf v, IsWord name.toList) ∧
      String.join (wordsOf v) = String.ofList (v.toList.filter fun c => !isBlank c) ∧
      wordsOf (" ".intercalate (wordsOf v)) = wordsOf v := by
  refine ⟨fun names => wordsOf_eq_iff, fun name h => ?_, ?_, ?_⟩
  · have mem := List.mem_map_of_mem h (f := String.toList)
    rw [toList_wordsOf] at mem
    exact isWord_of_mem_words _ _ mem
  · rw [← flatten_of_spaced (spaced_words _), ← toList_wordsOf, ← List.flatMap_def,
      ← String.toList_join, String.ofList_toList]
  · rw [wordsOf_eq_iff, ← words_eq_iff, String.toList_intercalate, toList_wordsOf]
    exact words_intercalate (isWord_of_mem_words _)

/-- An ideographic space, and between two words a space of one em before a tab. -/
theorem wordsOf_inverse_wide :
    Spaced (["api_dump", "validation"].map String.toList)
        "\u3000api_dump\u2003\tvalidation\n".toList ∧
      wordsOf "\u3000api_dump\u2003\tvalidation\n" = ["api_dump", "validation"] ∧
      IsWord "validation".toList := by
  have blanks {b : List Char} (h : b.all isBlank = true) : Blanks b := List.all_eq_true.1 h
  have word {w : List Char} (ne : w ≠ []) (h : w.all (fun c => !isBlank c) = true) : IsWord w :=
    ⟨ne, fun c hc => by simpa using List.all_eq_true.1 h c hc⟩
  have first : IsWord "api_dump".toList := word (by decide) (by decide)
  have second : IsWord "validation".toList := word (by decide) (by decide)
  have spaced : Spaced ["api_dump".toList, "validation".toList]
      (['\u3000'] ++ (("api_dump".toList ++ (['\u2003', '\t'] ++ "validation".toList)) ++ ['\n'])) :=
    .around (blanks rfl) (.cons first (blanks rfl) nofun (.one second)) (blanks rfl)
  have exact := wordsOf_inverse "\u3000api_dump\u2003\tvalidation\n"
  have cut := (exact.1 ["api_dump", "validation"]).2 spaced
  exact ⟨spaced, cut, exact.2.1 _ (cut ▸ .tail _ List.mem_cons_self)⟩

end GpuCompute.Text
