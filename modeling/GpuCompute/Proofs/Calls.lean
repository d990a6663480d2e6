import GpuCompute.Proofs.Persistence

/-!
# Calls that a caller makes by itself

Besides operations on managers and resources a caller may make calls of the driver. Such a call changes
the environment and the tables of what the caller keeps; managers, slots and holders stay as they are
(`Session.untouched_call`). So what the moves of a session keep up is kept up by every operation, also by
those calls that are no moves (`Session.named_steps`, `Session.kept_steps`).
-/

namespace GpuCompute.Session

variable {d : Driver} {α : Type} {R : Session d → Session d → Prop} {s s' s'' : Session d}
  {name : String}

/-! ## Looking up -/

theorem leaves_withManager (refl : ∀ s, R s s) {act : Manager d → Attempt (Session d) (Reply d)}
    (h : ∀ m, Attempt.Leaves R (act m)) : Attempt.Leaves R (withManager name act) := fun s =>
  after_withManager_induct (refl s) fun m _ => h m s

theorem leaves_withTensor (refl : ∀ s, R s s)
    {act : Nat → Tensor d → Attempt (Session d) (Reply d)}
    (h : ∀ i t, Attempt.Leaves R (act i t)) : Attempt.Leaves R (withTensor name act) := fun s =>
  after_withTensor_induct (refl s) fun i t _ => h i t s

theorem leaves_withResource (refl : ∀ s, R s s)
    {act : ResourceId → Attempt (Session d) (Reply d)}
    (h : ∀ r, Attempt.Leaves R (act r)) : Attempt.Leaves R (withResource name act) := fun s =>
  after_withResource_induct (refl s) fun r _ => h r s

theorem leaves_withInstance (refl : ∀ s, R s s)
    {act : d.Instance → Attempt (Session d) (Reply d)}
    (h : ∀ i, Attempt.Leaves R (act i)) : Attempt.Leaves R (withInstance name act) := fun s =>
  after_withInstance_induct (refl s) fun i _ => h i s

theorem leaves_withDevice (refl : ∀ s, R s s)
    {act : d.Device → Attempt (Session d) (Reply d)}
    (h : ∀ x, Attempt.Leaves R (act x)) : Attempt.Leaves R (withDevice name act) := fun s =>
  after_withDevice_induct (refl s) fun x _ => h x s

/-! ## Calls -/

/-- Managers, slots and holders are as before. -/
structure Untouched (s s' : Session d) : Prop where
  managers : s'.managers = s.managers
  pool : s'.pool = s.pool.withEnv s'.pool.env

namespace Untouched

theorem refl (s : Session d) : Untouched s s := ⟨rfl, rfl⟩

theorem trans (s s' s'' : Session d) (h : Untouched s s') (h' : Untouched s' s'') : Untouched s s'' where
  managers := h'.managers.trans h.managers
  pool := by
    rw [h'.pool, h.pool]
    rfl

theorem run (act : Act d.State α) : Attempt.Leaves Untouched (run act) := by
  intro s
  rw [after_run]
  exact ⟨rfl, rfl⟩

/-- An action of the driver after which something is put aside. -/
theorem run_bind {act : Act d.State α} {f : α → Attempt (Session d) (Reply d)}
    (h : ∀ a, Attempt.Leaves Untouched (f a)) : Attempt.Leaves Untouched (Session.run act >>= f) :=
  .bind trans (run act) h

theorem takeObject (entries : Session d → List (String × α))
    {setEntries : List (String × α) → Session d → Session d}
    (h : ∀ l s, Untouched s (setEntries l s)) (consume : α → Env d.State → Env d.State) :
    Attempt.Leaves Untouched (takeObject name entries setEntries consume) := by
  intro s
  unfold Session.takeObject
  rw [Attempt.after_get_bind]
  cases (entries s).lookup name with
  | none => exact .refl s
  | some a => exact .trans _ _ _ (h _ s) ⟨rfl, rfl⟩

end Untouched

/-- **A call that the caller makes leaves managers, slots and holders alone.** -/
theorem untouched_call (c : DriverCall) : Attempt.Leaves Untouched (call (d := d) c) := by
  cases c with
  | createInstance => exact .run_bind fun _ _ => ⟨rfl, rfl⟩
  | createDevice => exact leaves_withInstance .refl fun _ => .run_bind fun _ _ => ⟨rfl, rfl⟩
  | destroyInstance => exact leaves_withInstance .refl fun _ _ => ⟨rfl, rfl⟩
  | releaseDevice | destroyDevice | probeDevice =>
    exact leaves_withDevice .refl fun _ _ => ⟨rfl, rfl⟩
  | survey => exact leaves_withInstance .refl fun _ => .run_bind fun _ _ => ⟨rfl, rfl⟩
  | registerCallbacks => exact leaves_withInstance .refl fun _ => .run_bind fun _ _ => ⟨rfl, rfl⟩
  | unregisterCallbacks =>
    exact leaves_withInstance .refl fun _ => .takeObject _ (by exact fun _ _ => ⟨rfl, rfl⟩) _
  | createBuffer | createBatch =>
    exact leaves_withDevice .refl fun _ => .run_bind fun _ _ => ⟨rfl, rfl⟩
  | destroyBuffer | destroyPipeline | destroyBatch =>
    exact leaves_withDevice .refl fun _ => .takeObject _ (by exact fun _ _ => ⟨rfl, rfl⟩) _
  | createPipeline name device what =>
    refine leaves_withDevice .refl fun x s => ?_
    rw [Attempt.after_get_bind]
    cases s.looseBindings what.bindings with
    | error => exact .refl s
    | ok => exact Untouched.run_bind (fun _ _ => ⟨rfl, rfl⟩) s

/-! ## Every operation -/

/-- An operation is a number of moves or a call that leaves managers, slots and holders alone. -/
theorem moves_or_untouched (hs : s.Named) (o : Operation) :
    Reaches (.lending d fun _ => True) s (newManagers o s) ((step o).after s) ∨
      Untouched s ((step o).after s) := by
  by_cases h : ∃ c, o = .call c
  · obtain ⟨c, rfl⟩ := h
    exact .inr (untouched_call c s)
  · exact .inl (reaches_step hs ⟨fun _ _ _ _ => trivial, fun _ _ _ => trivial,
      fun _ _ => trivial, fun c hc => absurd ⟨c, hc⟩ h⟩)

theorem Untouched.named (h : Untouched s s') (hs : s.Named) : s'.Named where
  managers := h.managers ▸ hs.managers
  held := by
    rw [h.pool]
    exact hs.held

theorem named_step (hs : s.Named) (o : Operation) : ((step o).after s).Named :=
  (moves_or_untouched hs o).elim (·.named) (·.named hs)

theorem grows_step (hs : s.Named) (o : Operation) : s.pool.Grows ((step o).after s).pool := by
  rcases moves_or_untouched hs o with reaches | aside
  · exact grows_moves reaches.moves
  · rw [aside.pool]
    exact .of_eq rfl

theorem kept_step (hs : s.Named) (kept : s.pool.Kept) (o : Operation) :
    ((step o).after s).pool.Kept := by
  rcases moves_or_untouched hs o with reaches | aside
  · exact kept_moves reaches.moves kept
  · rw [aside.pool]
    exact kept

theorem kept_storeManager (hs : s.Named) (kept : s.pool.Kept) (name : String) (m : Manager d) :
    (storeManager name m s).pool.Kept :=
  kept_moves (P := .lending d fun _ => True) (moves_storeManager hs.managers fun _ _ => trivial)
    (show Pool.Kept { s with managers := s.managers ++ [(name, m)] }.pool from kept)

theorem named_steps (hs : s.Named) (os : List Operation) : (steps os s).Named := by
  induction os generalizing s with
  | nil => exact hs
  | cons o os ih => exact ih (named_step hs o)

theorem kept_steps (hs : s.Named) (kept : s.pool.Kept) (os : List Operation) :
    (steps os s).pool.Kept := by
  induction os generalizing s with
  | nil => exact kept
  | cons o os ih => exact ih (named_step hs o) (kept_step hs kept o)

end GpuCompute.Session
