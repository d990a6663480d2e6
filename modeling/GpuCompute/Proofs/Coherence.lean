import GpuCompute.Proofs.Closing
import GpuCompute.Proofs.Vulkan.Managers

/-!
# Managers are coherent

The parts of a manager go together (`Manager.Coherent`): it has an instance as long as it has a device,
owns both or neither of them, and has callbacks exactly if it owns them, uses diagnostics and was not
torn down; when it was, nothing is left in it. So a teardown always comes to an instance that it can let
go of, and it unregisters the callbacks that there are (`Manager.Coherent.closesInstance`). This is true
of the managers of all sessions at any time (`Session.managers_coherent`).
-/

namespace GpuCompute

variable {d : Driver}

namespace Manager

variable {m m' : Manager d}

/-! ## Equipment -/

theorem Equipped.of_like (h : m.Equipped) (like : m.Like m') : m'.Equipped := by
  unfold Equipped
  rw [like.device, like.inst, like.callbacks, like.config]
  exact h

theorem equipped_of_closed (h : m.device = none) : m.Equipped := by
  intro opened
  rw [h] at opened
  cases opened

theorem lasts_equipped : Lasts (Equipped (d := d)) where
  new := New.equipped
  registers _ registers h := h.of_like registers.like
  clear {m} p h := by
    obtain same | ⟨m', record, same, like, -⟩ := Session.clear_cases m p <;> rw [same]
    · exact h
    · exact h.of_like like
  destroy {m} p h := by
    cases hd : m.device with
    | none =>
      unfold Manager.destroy
      rw [hd]
      exact h
    | some x => exact equipped_of_closed (Session.destroy_of_device hd p).1

/-! ## Coherence -/

/-- A manager whose parts go together. -/
structure Coherent (m : Manager d) : Prop where
  /-- It has a device exactly as long as it has an instance. -/
  together : m.device.isSome ↔ m.inst.isSome
  /-- It owns both or borrows both. -/
  alike : ∀ i x, m.inst = some i → m.device = some x → i.isOwned = x.isOwned
  /-- It has callbacks exactly if it was not torn down, owns its instance and uses diagnostics. -/
  callbacks : m.callbacks.isSome ↔
    m.isDestroyed = false ∧ (∃ i, m.inst = some (.owned i)) ∧ m.config.diagnostics
  /-- Without a device it has no queues and tracks nothing. -/
  emptied : m.device = none →
    m.queues = [] ∧ m.sequences = {} ∧ m.algorithms = {} ∧ m.tensors = {}

theorem Orderly.coherent (orderly : m.Orderly) (paired : m.Paired) (equipped : m.Equipped) :
    m.Coherent := by
  cases hd : m.device with
  | none =>
    have bare := orderly.bare hd
    refine ⟨?_, paired.alike, ?_,
      fun _ => ⟨bare.queues, bare.sequences, bare.algorithms, bare.tensors⟩⟩
    · rw [hd, bare.inst]
      exact Iff.rfl
    · rw [bare.callbacks, bare.isDestroyed]
      simp
  | some x =>
    have opened : m.device.isSome := by rw [hd]; rfl
    obtain ⟨inst, hi, callbacks⟩ := equipped opened
    refine ⟨?_, paired.alike, ?_, fun closed => by rw [hd] at closed; cases closed⟩
    · rw [hd, hi]
      exact iff_of_true rfl rfl
    · have there : m.isDestroyed = false := by rw [isDestroyed, hd]; rfl
      rw [callbacks, there, hi]
      cases inst <;> simp [Ownership.isOwned]

/-- However the manager is torn down, this comes to the instance: with the callbacks that there are, which
are unregistered then, and without any of them left in the manager. -/
def ClosesInstance (m : Manager d) : Prop :=
  ∀ x p, m.device = some x → ∃ inst, m.inst = some inst ∧
    (m.destroy p).2.env = closeInstance inst m.callbacks (closeDevice x (Session.cleared m p).env) ∧
    (m.destroy p).1.inst = none ∧ (m.destroy p).1.callbacks = none

theorem Coherent.closesInstance (h : m.Coherent) : m.ClosesInstance := by
  intro x p hd
  obtain ⟨inst, hi⟩ := Option.isSome_iff_exists.1 (h.together.1 (hd ▸ rfl))
  obtain ⟨-, gone, pool⟩ := Session.destroy_of_device hd p
  refine ⟨inst, hi, ?_, gone, ?_⟩
  · rw [pool, Pool.env_withEnv, shut, hi]
  · unfold Manager.destroy
    rw [hd, hi]

/-- The calls of a teardown end with those by which a device and an instance are let go of; one of these
unregisters the callbacks that there are. -/
theorem Coherent.trace_destroy {m : Manager d.recorded} (h : m.Coherent)
    {x : Ownership d.recorded.Device} (hd : m.device = some x) (p : Pool d.recorded) :
    ∃ inst T, m.inst = some inst ∧ (m.destroy p).2.env.driver.trace =
      p.env.driver.trace ++ (T ++ farewells x inst m.callbacks) := by
  obtain ⟨inst, hi, -⟩ := h.closesInstance x p hd
  obtain ⟨T, hT⟩ := (Session.destroys_cleared m p).1.trace_append
  refine ⟨inst, T, hi, ?_⟩
  rw [(Session.destroy_of_device hd p).2.2, Pool.env_withEnv, trace_shut_of_inst hi, hT,
    List.append_assoc]

end Manager

/-! ## Runs -/

namespace Session

open Manager

theorem coherent_of_lasts {s : Session d}
    (all : ∀ {I : Manager d → Prop}, Lasts I → s.AllManagers I) : s.AllManagers Coherent :=
  fun name m found => (all lasts_orderly name m found).coherent (all lasts_paired name m found)
    (all lasts_equipped name m found)

theorem coherent_steps (driver : d.State) (os : List Operation) :
    (steps os (start driver)).AllManagers Coherent :=
  coherent_of_lasts fun h => (AllManagers.start _ driver).steps h os

/-- **Managers are coherent.** In every run, on every driver and with all that the Vulkan driver can be
asked besides, the parts of each manager go together, and so a teardown of a manager with a device always
lets go of an instance and of the callbacks that there are. On a recorded driver the calls show this. -/
theorem managers_coherent :
    (∀ (d : Driver) (driver : d.State) (os : List Operation) (name : String) (m : Manager d),
      (steps os (start driver)).managers.lookup name = some m → m.Coherent ∧ m.ClosesInstance) ∧
    (∀ (M : Vulkan.MemoryLibrary) (host : Vulkan.Host) (rules : Vulkan.Rules)
      (os : List Vulkan.Operation) (name : String) (m : Manager (Vulkan.driverOn M)),
      (Vulkan.run os (Vulkan.start (M := M) host rules)).managers.lookup name = some m →
        m.Coherent ∧ m.ClosesInstance) ∧
    ∀ (d : Driver) (inner : d.State) (os : List Operation) (name : String) (m : Manager d.recorded)
      (x : Ownership d.recorded.Device), (recordedRun inner os).managers.lookup name = some m →
      m.device = some x → ∀ p : Pool d.recorded, ∃ inst T, m.inst = some inst ∧
        (m.destroy p).2.env.driver.trace =
          p.env.driver.trace ++ (T ++ farewells x inst m.callbacks) := by
  refine ⟨fun d driver os name m found => ?_, fun _ host rules os name m found => ?_,
    fun d inner os name m x found hd p => ?_⟩
  · have coherent := coherent_steps driver os name m found
    exact ⟨coherent, coherent.closesInstance⟩
  · have coherent : m.Coherent :=
      coherent_of_lasts (fun h => Vulkan.allManagers_run (AllManagers.start _ _) h os) name m found
    exact ⟨coherent, coherent.closesInstance⟩
  · exact (coherent_steps _ os name m found).trace_destroy hd p

/-- A manager with diagnostics, on which a tensor was made. -/
def diagnosed : List Operation :=
  [.createManager "manager" { diagnostics := true } {},
    .tensorOfBytes "manager" "tensor" [1, 2, 3, 4] 1 4 .int]

theorem managers_coherent_diagnosed :
    let s := recordedRun diagnosing diagnosed
    ∃ m x, s.managers.lookup "manager" = some m ∧ m.device = some x ∧ m.Coherent ∧
      m.callbacks.isSome ∧ ∀ p, ∃ T, (m.destroy p).2.env.driver.trace =
        p.env.driver.trace ++ (T ++ [⟨.releaseDevice 9, true⟩, ⟨.destroyDevice 9, true⟩,
          ⟨.unregisterCallbacks 2 3, true⟩, ⟨.destroyInstance 2, true⟩]) := by
  intro s
  obtain ⟨m, x, i, c, found, hx, hi, hc, ids⟩ : ∃ m x i c, s.managers.lookup "manager" = some m ∧
      m.device = some (.owned x) ∧ m.inst = some (.owned i) ∧ m.callbacks = some c ∧
      x.id = 9 ∧ i.id = 2 ∧ c.id = 3 := ⟨_, _, _, _, rfl, rfl, rfl, rfl, rfl, rfl, rfl⟩
  have coherent := (managers_coherent.1 InMemory.driver.recorded _ diagnosed "manager" m found).1
  refine ⟨m, _, found, hx, coherent, hc ▸ rfl, fun p => ?_⟩
  obtain ⟨inst, T, hinst, trace⟩ :=
    managers_coherent.2.2 InMemory.driver diagnosing diagnosed "manager" m _ found hx p
  cases hi.symm.trans hinst
  rw [hc] at trace
  have calls : farewells (.owned x) (.owned i) (some c) = [⟨.releaseDevice 9, true⟩,
      ⟨.destroyDevice 9, true⟩, ⟨.unregisterCallbacks 2 3, true⟩, ⟨.destroyInstance 2, true⟩] := by
    rw [← ids.1, ← ids.2.1, ← ids.2.2]
    rfl
  exact ⟨T, calls ▸ trace⟩

end Session

end GpuCompute
