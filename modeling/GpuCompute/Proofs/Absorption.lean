import GpuCompute.Proofs.Managers
import GpuCompute.Proofs.Requests

/-!
# Managers that were torn down

Nothing is left of a manager that was torn down, and nothing comes of what is asked of it: the driver
is not called, whatever would need a device or an instance is refused, and the manager stays as it is
until it is dropped or another one takes its name (`Session.absorbs_steps`).
-/

namespace GpuCompute

variable {d : Driver}

/-! ## Methods -/

namespace Manager

variable {m : Manager d}

/-- An attempt that is refused as invalid; only the log is different afterwards. -/
def Refuses {α : Type} (act : Attempt (Pool d) α) : Prop :=
  ∀ p, ∃ fault log, act p = .error (.invalidState fault) (p.withEnv { p.env with log })

theorem refuses_of_live {α : Type} (closed : m.device = none) (add : d.Device → Attempt (Pool d) α) :
    Refuses (Attempt.ofExcept m.liveDevice >>= add) := by
  intro p
  rw [liveDevice, closed]
  exact ⟨.managerDestroyed, p.env.log, rfl⟩

/-- The workgroup is found before the device is looked for. -/
theorem refuses_algorithm (closed : m.device = none) (tensors : List Nat) (code : List UInt32) :
    Refuses (m.algorithm tensors code) := by
  intro p
  rw [algorithm, Attempt.get_bind]
  cases h : Algorithm.defaultWorkgroup (leadingCount p tensors) with
  | ok workgroup => exact refuses_of_live closed _ p
  | error error =>
    unfold Algorithm.defaultWorkgroup at h
    split at h
    · cases h
    · cases h
      exact ⟨_, p.env.log, rfl⟩

/-- The request is logged before the device is looked for. -/
theorem refuses_sequence (closed : m.device = none) (index : UInt64) (timestamps : UInt32) :
    Refuses (m.sequence index timestamps) := by
  intro p
  obtain ⟨fault, log, h⟩ := refuses_of_live closed (fun device => do
    let queue ← Attempt.ofExcept (m.queueAt index)
    let i ← Pool.addSequence device m.adapter queue.1 queue.2 timestamps
    return (i, if m.config.manageResources then { m with sequences := m.sequences.register i } else m))
    (p.onEnv (.write
      { level := .debug, message := "creating sequence"
        fields := [("queue_index", toString index.toNat)] }))
  exact ⟨fault, log, h⟩

end Manager

namespace Session

open Manager

variable {s : Session d} {o : Operation} {n name : String} {m : Manager d}

/-! ## Operations -/

/-- Nothing but the log is different. -/
def OnlyLogs (s s' : Session d) : Prop := ∃ log, s' = s.withEnv { s.pool.env with log }

theorem OnlyLogs.refl (s : Session d) : OnlyLogs s s := ⟨s.pool.env.log, rfl⟩

/-- What an operation is answered that would need a device or an instance. If it names a tensor that is
not there, it does not come as far as the manager. -/
def Denied (s : Session d) (n : String) (o : Operation) : Prop :=
  (∃ fault, ((step o).outcome s).1 = .error (.invalidState fault)) ∨
    ∃ names tensor, binding? o = some (n, names) ∧ s.tensorNumbers names = .error tensor ∧
      ((step o).outcome s).1 = .ok (.unknown tensor)

/-- The operations that need a device or an instance. -/
def needy (o : Operation) : Prop :=
  (asks? o).isSome ∨ (∃ n, o = .properties n) ∨ ∃ n, o = .adapters n

/-- An operation on a manager changes nothing but the log, and is refused if it is needy. -/
structure Inert (s : Session d) (n : String) (o : Operation) : Prop where
  logs : OnlyLogs s ((step o).after s)
  denied : needy o → Denied s n o

theorem inert_of_error {fault : StateFault} {log : List Log.Record}
    (h : step o s = .error (.invalidState fault) (s.withEnv { s.pool.env with log })) :
    Inert s n o where
  logs := ⟨log, Attempt.after_of_error h⟩
  denied _ := .inl ⟨fault, by rw [Attempt.outcome, h]⟩

theorem inert_addResource (hm : s.managers.lookup n = some m) {identify : Nat → ResourceId}
    {make : Manager d → Attempt (Pool d) (Nat × Manager d)}
    (hstep : step o s = addResource n name identify make s) (refuses : Refuses (make m)) :
    Inert s n o := by
  obtain ⟨fault, log, h⟩ := refuses s.pool
  exact inert_of_error (hstep.trans (addResource_error hm h))

theorem inert_addAlgorithm (hm : s.managers.lookup n = some m) {names : List String}
    {make : List Nat → Manager d → Attempt (Pool d) (Nat × Manager d)}
    (hstep : step o s = addAlgorithm n name names make s) (ho : binding? o = some (n, names))
    (refuses : ∀ numbers, Refuses (make numbers m)) : Inert s n o := by
  unfold addAlgorithm at hstep
  rw [Attempt.get_bind] at hstep
  cases hn : s.tensorNumbers names with
  | error tensor =>
    rw [hn] at hstep
    refine ⟨⟨s.pool.env.log, Attempt.after_of_ok hstep⟩, fun _ => .inr ⟨names, tensor, ho, hn, ?_⟩⟩
    rw [Attempt.outcome, hstep]
    rfl
  | ok numbers =>
    rw [hn] at hstep
    exact inert_addResource hm hstep (refuses numbers)

/-- An operation that only changes the state of a manager does nothing if that is as before. -/
theorem onlyLogs_setManager (hs : s.Named) (hm : s.managers.lookup n = some m) {m' : Manager d}
    {p : Pool d} (same : m' = m) (logs : ∃ log, p = s.pool.withEnv { s.pool.env with log }) :
    OnlyLogs s ({ s with pool := p }.setManager n m') := by
  obtain ⟨log, rfl⟩ := logs
  refine ⟨log, ?_⟩
  unfold setManager
  rw [same]
  dsimp only
  rw [update_self hs.managers hm]
  rfl

/-- What is asked of the instance of a manager that has none. -/
theorem inert_ask {α : Type} (hm : s.managers.lookup n = some m) (gone : m.inst = none)
    (act : Manager d → d.Instance → Act d.State α) {reply : α → Reply d}
    (hstep : step o s = (withManager n fun m => do
      return reply (← run (Attempt.ofExcept m.liveInstance >>= act m))) s) : Inert s n o := by
  have refused : (Attempt.ofExcept m.liveInstance >>= act m) s.pool.env =
      .error (.invalidState .managerWithoutInstance) s.pool.env := by
    rw [liveInstance, gone]
    rfl
  have failed : step o s = .error (.invalidState .managerWithoutInstance)
      (s.withEnv { s.pool.env with log := s.pool.env.log }) := by
    rw [hstep, withManager, Attempt.get_bind, hm]
    exact Attempt.bind_of_error (run_error refused)
  exact inert_of_error failed

/-- What clearing writes to the log, it writes for any manager. -/
theorem clear_logs (m : Manager d) (p : Pool d) :
    ∃ log, (m.clear p).2 = p.withEnv { p.env with log } := by
  obtain h | ⟨m', record, h, -⟩ := clear_cases m p
  · exact ⟨p.env.log, by rw [h]; rfl⟩
  · exact ⟨p.env.log ++ [record], by rw [h]; rfl⟩

theorem destroy_logs (closed : m.device = none) (p : Pool d) :
    ∃ log, (m.destroy p).2 = p.withEnv { p.env with log } := by
  unfold Manager.destroy
  rw [closed]
  exact ⟨_, rfl⟩

/-- **An operation on a manager that was torn down does nothing**, unless it drops the manager. -/
theorem inert_step (hs : s.Named) (hm : s.managers.lookup n = some m) (bare : m.Bare)
    (ho : manager? o = some n) (hmakes : makes? o = none) (hdrop : o ≠ .dropManager n) :
    Inert s n o := by
  have calm {o : Operation} (logs : OnlyLogs s ((step o).after s)) (h : ¬ needy o) : Inert s n o :=
    ⟨logs, fun needs => absurd needs h⟩
  cases o with
  | createManager | borrow => cases hmakes
  | dropManager =>
    cases ho
    exact absurd rfl hdrop
  | tensor =>
    cases ho
    exact inert_addResource hm rfl (refuses_of_live bare.device _)
  | tensorOfBytes =>
    cases ho
    exact inert_addResource hm rfl (refuses_of_live bare.device _)
  | sequence =>
    cases ho
    exact inert_addResource hm rfl (refuses_sequence bare.device _ _)
  | algorithm =>
    cases ho
    exact inert_addAlgorithm hm rfl rfl fun numbers => refuses_algorithm bare.device numbers _
  | algorithmWith =>
    cases ho
    exact inert_addAlgorithm hm rfl rfl fun _ => refuses_of_live bare.device _
  | properties =>
    cases ho
    exact inert_ask hm bare.inst (fun m i => Attempt.ofState (d.properties i m.adapter)) rfl
  | adapters =>
    cases ho
    exact inert_ask hm bare.inst (fun _ => d.adapters) rfl
  | clear =>
    cases ho
    refine calm ?_ (by simp [needy, asks?])
    unfold step
    rw [after_withManager, hm]
    exact onlyLogs_setManager hs hm (bare.clear_eq s.pool) (clear_logs m s.pool)
  | destroyManager =>
    cases ho
    refine calm ?_ (by simp [needy, asks?])
    unfold step
    rw [after_withManager, hm]
    exact onlyLogs_setManager hs hm (bare.destroy s.pool) (destroy_logs bare.device s.pool)
  | keepHandles =>
    cases ho
    refine calm ?_ (by simp [needy, asks?])
    unfold step
    rw [after_withManager, hm]
    refine ⟨s.pool.env.log, ?_⟩
    change { s with instances := m.inst.elim _ _, devices := m.device.elim _ _ } = s
    rw [bare.inst, bare.device]
    rfl
  | describeManager | counts =>
    cases ho
    refine calm ?_ (by simp [needy, asks?])
    unfold step
    rw [after_withManager, hm]
    exact .refl s
  | _ => cases ho

/-! ## Runs -/

/-- A manager that was torn down is there, and will be as it is. -/
structure Absorbs (n : String) (m : Manager d) (s : Session d) : Prop where
  there : s.managers.lookup n = some m
  bare : m.Bare
  /-- No operation on it does anything, -/
  inert : ∀ o, manager? o = some n → makes? o = none → o ≠ .dropManager n → Inert s n o
  /-- except that it may be dropped, after which it is gone, and nothing else has changed. -/
  drop : (step (.dropManager n)).after s = { s with managers := without n s.managers }

theorem absorbs_of_bare (hs : s.Named) (hm : s.managers.lookup n = some m) (bare : m.Bare) :
    Absorbs n m s where
  there := hm
  bare := bare
  inert _ ho hmakes hdrop := inert_step hs hm bare ho hmakes hdrop
  drop := by
    have gone : m.drop s.pool = s.pool := by
      unfold Manager.drop
      rw [bare.isDestroyed]
      rfl
    unfold step
    rw [after_withManager, hm]
    change dropManager n s = _
    unfold dropManager onPool
    rw [hm]
    dsimp only
    rw [gone]

/-- An operation that neither drops the manager under a name nor gives the name to another one. -/
def Spares (n : String) (o : Operation) : Prop := makes? o ≠ some n ∧ o ≠ .dropManager n

theorem lookup_of_bare (hs : s.Named) (hm : s.managers.lookup n = some m) (bare : m.Bare)
    (spares : Spares n o) : ((step o).after s).managers.lookup n = some m := by
  by_cases ho : manager? o = some n
  · have hmakes : makes? o = none := by
      cases o with
      | createManager | borrow => exact absurd ho spares.1
      | _ => rfl
    obtain ⟨log, same⟩ := (inert_step hs hm bare ho hmakes spares.2).logs
    rw [same]
    exact hm
  · rw [(effect_step o s).lookup_of_ne ho]
    exact hm

theorem absorbs_steps (hs : s.Named) (hm : s.managers.lookup n = some m) (bare : m.Bare)
    {os : List Operation} (spares : ∀ o ∈ os, Spares n o) : Absorbs n m (steps os s) := by
  induction os generalizing s with
  | nil => exact absorbs_of_bare hs hm bare
  | cons o os ih =>
    have stays := lookup_of_bare hs hm bare (spares o List.mem_cons_self)
    exact ih (named_step hs o) stays fun o ho => spares o (List.mem_cons_of_mem _ ho)

end Session

end GpuCompute
