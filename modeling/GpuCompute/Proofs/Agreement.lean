import GpuCompute.Proofs.Attempt
import Mathlib.Data.List.Forall2

/-!
# Runs side by side

`Alike R Q x y` says of two attempts that they cannot be told apart: from states that `R` relates they
end with values that `Q` relates or with the same error, and in states that `R` relates. It is known of
a bind when it is known of its parts (`Alike.bind`). If it is known of each operation of a program that
is seen, and those that are not seen change nothing that `R` looks at, then two runs with the same seen
operations cannot be told apart either (`Unseen.runs_answers`).
-/

namespace GpuCompute.Attempt

variable {σ τ α β : Type}

/-! ## Attempts -/

/-- Two attempts have ended with related values or the same error, and in related states. -/
inductive Ends (R : σ → σ → Prop) (Q : α → α → Prop) :
    EStateM.Result Error σ α → EStateM.Result Error σ α → Prop
  | ok {a b : α} {s t : σ} (value : Q a b) (state : R s t) : Ends R Q (.ok a s) (.ok b t)
  | error {error : Error} {s t : σ} (state : R s t) : Ends R Q (.error error s) (.error error t)

/-- From related states two attempts end with related values or the same error, and in related
states. -/
def Alike (R : σ → σ → Prop) (Q : α → α → Prop) (x y : Attempt σ α) : Prop :=
  ∀ s t, R s t → Ends R Q (x s) (y t)

/-- Both are values, which are related, or both are the same error. -/
inductive Answers (Q : α → α → Prop) : Except Error α → Except Error α → Prop
  | ok {a b : α} (value : Q a b) : Answers Q (.ok a) (.ok b)
  | error (error : Error) : Answers Q (.error error) (.error error)

theorem Answers.eq {z z' : Except Error α} (h : Answers Eq z z') : z' = z := by
  cases h with
  | ok value => rw [value]
  | error => rfl

variable {R : σ → σ → Prop} {Q : α → α → Prop} {Q' : β → β → Prop} {x y : Attempt σ α} {s t : σ}

namespace Ends

theorem mono {S : σ → σ → Prop} {P : α → α → Prop} {r r' : EStateM.Result Error σ α}
    (h : Ends R Q r r') (hQ : ∀ a b, Q a b → P a b) (hR : ∀ s t, R s t → S s t) : Ends S P r r' := by
  cases h with
  | ok value state => exact .ok (hQ _ _ value) (hR _ _ state)
  | error state => exact .error (hR _ _ state)

theorem after (h : Ends R Q (x s) (y t)) : R (x.after s) (y.after t) := by
  unfold Attempt.after outcome
  generalize x s = r, y t = r' at h
  cases h <;> assumption

theorem answers (h : Ends R Q (x s) (y t)) : Answers Q (x.outcome s).1 (y.outcome t).1 := by
  unfold outcome
  generalize x s = r, y t = r' at h
  cases h with
  | ok value => exact .ok value
  | error => exact .error _

theorem bind {f g : α → Attempt σ β} (h : Ends R Q (x s) (y t))
    (hf : ∀ a b, Q a b → Alike R Q' (f a) (g b)) : Ends R Q' ((x >>= f) s) ((y >>= g) t) := by
  simp only [Bind.bind, EStateM.bind]
  generalize x s = r, y t = r' at h
  cases h with
  | ok value state => exact hf _ _ value _ _ state
  | error state => exact .error state

end Ends

namespace Alike

theorem bind {f g : α → Attempt σ β} (h : Alike R Q x y)
    (hf : ∀ a b, Q a b → Alike R Q' (f a) (g b)) : Alike R Q' (x >>= f) (y >>= g) :=
  fun s t hR => (h s t hR).bind hf

/-- The two have the same value. -/
theorem bind_same {f g : α → Attempt σ β} (h : Alike R Eq x y) (hf : ∀ a, Alike R Q' (f a) (g a)) :
    Alike R Q' (x >>= f) (y >>= g) := h.bind fun a _ heq => heq ▸ hf a

theorem pure {a b : α} (h : Q a b) : Alike R Q (Pure.pure a) (Pure.pure b) := fun _ _ => .ok h

theorem throw (error : Error) :
    Alike R Q (MonadExcept.throw error : Attempt σ α) (MonadExcept.throw error) := fun _ _ => .error

theorem ofExcept (z : Except Error α) : Alike R Eq (Attempt.ofExcept z) (Attempt.ofExcept z) := by
  intro s t hR
  cases z with
  | ok a => exact .ok rfl hR
  | error error => exact .error hR

theorem change {f g : σ → σ} (h : ∀ s t, R s t → R (f s) (g t)) :
    Alike R Eq (modify f : Attempt σ PUnit) (modify g) :=
  fun s t hR => .ok rfl (h s t hR)

theorem ofState {f g : σ → α × σ} (value : ∀ s t, R s t → (f s).1 = (g t).1)
    (state : ∀ s t, R s t → R (f s).2 (g t).2) :
    Alike R Eq (Attempt.ofState f) (Attempt.ofState g) :=
  fun s t hR => .ok (value s t hR) (state s t hR)

theorem look {f g : σ → α × σ} (h : Alike R Eq (Attempt.ofState f) (Attempt.ofState g))
    (hR : R s t) : (f s).1 = (g t).1 ∧ R (f s).2 (g t).2 := by
  have ends := h s t hR
  unfold Attempt.ofState at ends
  cases ends with
  | ok value state => exact ⟨value, state⟩

/-- It is decided beforehand what is done. -/
theorem ite {p : Prop} [Decidable p] {x' y' : Attempt σ α} (h : Alike R Q x y)
    (h' : Alike R Q x' y') : Alike R Q (if p then x else x') (if p then y else y') := by
  split <;> assumption

theorem get_bind {f g : σ → Attempt σ α} (h : ∀ s t, R s t → Ends R Q (f s s) (g t t)) :
    Alike R Q (get >>= f) (get >>= g) := h

theorem undoing {undo : σ → σ} (h : Alike R Q x y) (hundo : ∀ s t, R s t → R (undo s) (undo t)) :
    Alike R Q (Attempt.undoing undo x) (Attempt.undoing undo y) := by
  intro s t hR
  unfold Attempt.undoing
  have ends := h s t hR
  generalize x s = r, y t = r' at ends
  cases ends with
  | ok value state => exact .ok value state
  | error state => exact .error (hundo _ _ state)

theorem otherwise {x' y' : Attempt σ α} (h : Alike R Q x y) (h' : Alike R Q x' y') :
    Alike R Q (Attempt.otherwise x x') (Attempt.otherwise y y') := by
  intro s t hR
  unfold Attempt.otherwise
  have ends := h s t hR
  generalize x s = r, y t = r' at ends
  cases ends with
  | ok value state => exact .ok value state
  | error state => exact h' _ _ state

theorem within {S : τ → τ → Prop} {get : τ → σ} {put : τ → σ → τ} (h : Alike R Q x y)
    (hget : ∀ u v, S u v → R (get u) (get v))
    (hput : ∀ u v, S u v → ∀ s t, R s t → S (put u s) (put v t)) :
    Alike S Q (Attempt.within get put x) (Attempt.within get put y) := by
  intro u v hS
  unfold Attempt.within
  have ends := h _ _ (hget u v hS)
  generalize x (get u) = r, y (get v) = r' at ends
  cases ends with
  | ok value state => exact .ok value (hput u v hS _ _ state)
  | error state => exact .error (hput u v hS _ _ state)

end Alike

/-! ## Runs -/

section

variable {ο ρ : Type} {step : ο → Attempt σ ρ} {seen : ο → Bool} {I : σ → Prop} {Q : ρ → ρ → Prop}

/-- The state after operations, whatever they answer. -/
def runs (step : ο → Attempt σ ρ) (os : List ο) (s : σ) : σ := os.foldl (fun s o => (step o).after s) s

/-- What those operations of a run answer that are seen. -/
def answers (step : ο → Attempt σ ρ) (seen : ο → Bool) : List ο → σ → List (Except Error ρ)
  | [], _ => []
  | o :: os, s =>
    if seen o then ((step o).outcome s).1 :: answers step seen os ((step o).after s)
    else answers step seen os ((step o).after s)

theorem answers_of_seen {o : ο} (h : seen o) (os : List ο) (s : σ) :
    answers step seen (o :: os) s =
      ((step o).outcome s).1 :: answers step seen os ((step o).after s) := if_pos h

theorem answers_of_unseen {o : ο} (h : seen o = false) (os : List ο) (s : σ) :
    answers step seen (o :: os) s = answers step seen os ((step o).after s) := by
  rw [answers, h]
  rfl

/-- Operations that are not seen are put into both lists, at any places. -/
inductive Weave (seen : ο → Bool) : List ο → List ο → Prop
  | nil : Weave seen [] []
  | both {o : ο} {os os' : List ο} (h : seen o) (rest : Weave seen os os') : Weave seen (o :: os) (o :: os')
  | left {o : ο} {os os' : List ο} (h : seen o = false) (rest : Weave seen os os') : Weave seen (o :: os) os'
  | right {o : ο} {os os' : List ο} (h : seen o = false) (rest : Weave seen os os') : Weave seen os (o :: os')

theorem Weave.of_filter {os os' : List ο} (h : os.filter seen = os'.filter seen) : Weave seen os os' := by
  induction os generalizing os' with
  | nil =>
    induction os' with
    | nil => exact .nil
    | cons o' os' ih =>
      rw [List.filter_cons] at h
      split at h
      · cases h
      · next ho' => exact .right (Bool.not_eq_true _ ▸ ho') (ih h)
  | cons o os ih =>
    cases ho : seen o with
    | false => exact .left ho (ih (by rw [← h, List.filter_cons_of_neg (by simp [ho])]))
    | true =>
      rw [List.filter_cons_of_pos ho] at h
      induction os' with
      | nil => cases h
      | cons o' os' ih' =>
        rw [List.filter_cons] at h
        split at h
        · obtain ⟨rfl, rest⟩ := List.cons.inj h
          exact .both ho (ih rest)
        · next ho' => exact .right (Bool.not_eq_true _ ▸ ho') (ih' h)

/-- Operations that are not seen change nothing that the relation looks at, and those that are seen
cannot be told apart in related states. -/
structure Unseen (step : ο → Attempt σ ρ) (seen : ο → Bool) (I : σ → Prop) (R : σ → σ → Prop)
    (Q : ρ → ρ → Prop) : Prop where
  lasts : ∀ o s, I s → I ((step o).after s)
  alike : ∀ o, seen o → Alike R Q (step o) (step o)
  left : ∀ o s t, seen o = false → I s → R s t → R ((step o).after s) t
  right : ∀ o s t, seen o = false → I t → R s t → R s ((step o).after t)

/-- **Runs with the same seen operations cannot be told apart.** -/
theorem Unseen.runs_answers {os os' : List ο} (h : Unseen step seen I R Q) (hs : I s) (ht : I t)
    (hR : R s t)
    (same : os.filter seen = os'.filter seen) :
    R (runs step os s) (runs step os' t) ∧
      List.Forall₂ (Answers Q) (answers step seen os s) (answers step seen os' t) := by
  have weave := Weave.of_filter same
  clear same
  induction weave generalizing s t with
  | nil => exact ⟨hR, .nil⟩
  | @both o os os' ho _ ih =>
    have ends := h.alike o ho s t hR
    obtain ⟨states, values⟩ := ih (h.lasts o s hs) (h.lasts o t ht) ends.after
    rw [answers_of_seen ho, answers_of_seen ho]
    exact ⟨states, .cons ends.answers values⟩
  | @left o os os' ho _ ih =>
    rw [answers_of_unseen ho]
    exact ih (h.lasts o s hs) ht (h.left o s t ho hs hR)
  | @right o os os' ho _ ih =>
    rw [answers_of_unseen ho]
    exact ih hs (h.lasts o t ht) (h.right o s t ho ht hR)

end

end GpuCompute.Attempt
