import GpuCompute.Env

/-!
# Taking attempts apart

An attempt that is a bind runs its parts one after the other: `bind_eq_ok` and `bind_eq_error` say
what the parts did when the whole ended in a certain way, and the lemmas before them run an attempt
forwards. `Leaves R act` says of an attempt that, however it ends, `R` relates the state it found to
the state it leaves; for a transitive `R` this is known of a bind when it is known of its parts
(`Leaves.bind`).
-/

namespace GpuCompute.Attempt

variable {σ α β : Type} {s s' s'' : σ} {x : Attempt σ α} {f : α → Attempt σ β}

/-! ## Running attempts -/

@[simp] theorem get_bind (f : σ → Attempt σ β) (s : σ) : (get >>= f) s = f s s := rfl

theorem modify_bind (g : σ → σ) (f : PUnit → Attempt σ β) (s : σ) :
    ((modify g : Attempt σ PUnit) >>= f) s = f () (g s) := rfl

@[simp] theorem ofExcept_ok (a : α) (s : σ) : (ofExcept (.ok a) : Attempt σ α) s = .ok a s := rfl

@[simp] theorem ofExcept_error (e : Error) (s : σ) :
    (ofExcept (.error e) : Attempt σ α) s = .error e s := rfl

theorem bind_of_ok {a : α} (h : x s = .ok a s') : (x >>= f) s = f a s' := by
  simp only [bind, EStateM.bind, h]

theorem bind_of_error {e : Error} (h : x s = .error e s') : (x >>= f) s = .error e s' := by
  simp only [bind, EStateM.bind, h]

/-- Taking nothing back. -/
theorem undoing_id (x : Attempt σ α) : undoing id x = x := by
  funext s
  unfold undoing
  cases x s <;> rfl

/-! ## What the parts did -/

theorem bind_eq_ok {b : β} :
    (x >>= f) s = .ok b s'' ↔ ∃ a s', x s = .ok a s' ∧ f a s' = .ok b s'' := by
  cases h : x s with
  | ok a s' => simp [bind_of_ok h, and_assoc]
  | error e s' => simp [bind_of_error h]

theorem bind_eq_error {e : Error} :
    (x >>= f) s = .error e s'' ↔
      x s = .error e s'' ∨ ∃ a s', x s = .ok a s' ∧ f a s' = .error e s'' := by
  cases h : x s with
  | ok a s' => simp [bind_of_ok h, and_assoc]
  | error e' s' => simp [bind_of_error h]

theorem map_eq_ok {g : α → β} {b : β} :
    (g <$> x) s = .ok b s' ↔ ∃ a, x s = .ok a s' ∧ g a = b := by
  cases h : x s with
  | ok a s₁ =>
    simp only [Functor.map, EStateM.map, h, EStateM.Result.ok.injEq]
    constructor
    · rintro ⟨rfl, rfl⟩
      exact ⟨a, ⟨rfl, rfl⟩, rfl⟩
    · rintro ⟨_, ⟨rfl, rfl⟩, rfl⟩
      exact ⟨rfl, rfl⟩
  | error e s₁ => simp [Functor.map, EStateM.map, h]

theorem map_eq_error {g : α → β} {e : Error} :
    (g <$> x) s = .error e s' ↔ x s = .error e s' := by
  cases h : x s <;> simp [Functor.map, EStateM.map, h]

theorem ofExcept_eq_ok {y : Except Error α} {a : α} :
    (ofExcept y : Attempt σ α) s = .ok a s' ↔ y = .ok a ∧ s' = s := by
  cases y <;> simp [eq_comm]

theorem ofExcept_eq_error {y : Except Error α} {e : Error} :
    (ofExcept y : Attempt σ α) s = .error e s' ↔ y = .error e ∧ s' = s := by
  cases y <;> simp [eq_comm]

theorem undoing_eq_ok {undo : σ → σ} {a : α} : undoing undo x s = .ok a s' ↔ x s = .ok a s' := by
  unfold undoing
  cases x s <;> simp

theorem undoing_eq_error {undo : σ → σ} {e : Error} :
    undoing undo x s = .error e s'' ↔ ∃ s', x s = .error e s' ∧ s'' = undo s' := by
  unfold undoing
  cases x s <;> simp [and_assoc, eq_comm]

theorem otherwise_eq_ok {y : Attempt σ α} {a : α} :
    otherwise x y s = .ok a s'' ↔
      x s = .ok a s'' ∨ ∃ e s', x s = .error e s' ∧ y s' = .ok a s'' := by
  unfold otherwise
  cases x s <;> simp [and_assoc]

theorem within_eq_ok {τ : Type} {get : τ → σ} {put : τ → σ → τ} {t t' : τ} {a : α} :
    within get put x t = .ok a t' ↔ ∃ s', x (get t) = .ok a s' ∧ t' = put t s' := by
  unfold within
  cases x (get t) <;> simp [and_assoc, eq_comm]

theorem within_eq_error {τ : Type} {get : τ → σ} {put : τ → σ → τ} {t t' : τ} {e : Error} :
    within get put x t = .error e t' ↔ ∃ s', x (get t) = .error e s' ∧ t' = put t s' := by
  unfold within
  cases x (get t) <;> simp [and_assoc, eq_comm]

/-! ## The state an attempt leaves -/

/-- The state that an attempt leaves. -/
def after (x : Attempt σ α) (s : σ) : σ := (x.outcome s).2

theorem after_of_ok {a : α} (h : x s = .ok a s') : x.after s = s' := by
  simp only [after, outcome, h]

theorem after_of_error {e : Error} (h : x s = .error e s') : x.after s = s' := by
  simp only [after, outcome, h]

@[simp] theorem after_pure (a : α) (s : σ) : (pure a : Attempt σ α).after s = s := rfl

@[simp] theorem after_get_bind (f : σ → Attempt σ β) (s : σ) : (get >>= f).after s = (f s).after s :=
  rfl

@[simp] theorem after_modify_bind (g : σ → σ) (f : PUnit → Attempt σ β) (s : σ) :
    ((modify g : Attempt σ PUnit) >>= f).after s = (f ()).after (g s) := rfl

@[simp] theorem after_map (g : α → β) (x : Attempt σ α) (s : σ) : (g <$> x).after s = x.after s := by
  unfold after outcome
  cases h : x s <;> simp [Functor.map, EStateM.map, h]

theorem after_bind_of_ok {a : α} (h : x s = .ok a s') : (x >>= f).after s = (f a).after s' := by
  unfold after outcome
  rw [bind_of_ok h]

theorem after_bind_of_error {e : Error} (h : x s = .error e s') : (x >>= f).after s = s' :=
  after_of_error (bind_of_error h)

/-- However an attempt ends, `R` relates the state it found to the one it leaves. -/
def Leaves (R : σ → σ → Prop) (x : Attempt σ α) : Prop := ∀ s, R s (x.after s)

namespace Leaves

variable {R : σ → σ → Prop}

theorem of_ok {a : α} (hx : Leaves R x) (h : x s = .ok a s') : R s s' := after_of_ok h ▸ hx s

theorem of_error {e : Error} (hx : Leaves R x) (h : x s = .error e s') : R s s' :=
  after_of_error h ▸ hx s

theorem of_cases (hok : ∀ s a s', x s = .ok a s' → R s s')
    (herror : ∀ s e s', x s = .error e s' → R s s') : Leaves R x := by
  intro s
  cases h : x s with
  | ok a s' => exact after_of_ok h ▸ hok s a s' h
  | error e s' => exact after_of_error h ▸ herror s e s' h

theorem pure (hR : ∀ s, R s s) (a : α) : Leaves R (Pure.pure a : Attempt σ α) := fun s => hR s

theorem throw (hR : ∀ s, R s s) (e : Error) :
    Leaves R (MonadExcept.throw e : Attempt σ α) := fun s => hR s

theorem ofExcept (hR : ∀ s, R s s) (y : Except Error α) :
    Leaves R (Attempt.ofExcept y : Attempt σ α) := by
  intro s
  cases y <;> exact hR s

theorem change {g : σ → σ} (h : ∀ s, R s (g s)) :
    Leaves R (modify g : Attempt σ Unit) := fun s => h s

theorem bind (trans : ∀ s s' s'', R s s' → R s' s'' → R s s'') (hx : Leaves R x)
    (hf : ∀ a, Leaves R (f a)) : Leaves R (x >>= f) := by
  refine of_cases (fun s b s'' h => ?_) (fun s e s'' h => ?_)
  · obtain ⟨a, s', h₁, h₂⟩ := bind_eq_ok.1 h
    exact trans _ _ _ (hx.of_ok h₁) ((hf a).of_ok h₂)
  · rcases bind_eq_error.1 h with h₁ | ⟨a, s', h₁, h₂⟩
    · exact hx.of_error h₁
    · exact trans _ _ _ (hx.of_ok h₁) ((hf a).of_error h₂)

theorem undoing (trans : ∀ s s' s'', R s s' → R s' s'' → R s s'') {undo : σ → σ} (hx : Leaves R x)
    (hundo : ∀ s, R s (undo s)) : Leaves R (Attempt.undoing undo x) := by
  refine of_cases (fun s a s' h => ?_) (fun s e s'' h => ?_)
  · exact hx.of_ok (undoing_eq_ok.1 h)
  · obtain ⟨s', failed, rfl⟩ := undoing_eq_error.1 h
    exact trans _ _ _ (hx.of_error failed) (hundo s')

theorem otherwise (trans : ∀ s s' s'', R s s' → R s' s'' → R s s'') {y : Attempt σ α}
    (hx : Leaves R x) (hy : Leaves R y) : Leaves R (Attempt.otherwise x y) := by
  intro s
  unfold after outcome Attempt.otherwise
  cases h : x s with
  | ok a s' => exact hx.of_ok h
  | error e s' => exact trans _ _ _ (hx.of_error h) (hy s')

end Leaves

end GpuCompute.Attempt
