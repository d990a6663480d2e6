import GpuCompute.Proofs.Effects

/-!
# What is true of all managers

A property that new managers have, and that a manager keeps when it makes a resource, forgets resources
or is torn down, is true of all managers of a session at any time (`Session.AllManagers.steps`). One such
property is that a manager has its parts together and that nothing is left of it after it was torn
down (`Manager.Orderly`), another that a manager that borrows its instance or its device owns nothing
(`Manager.Paired`).
-/

namespace GpuCompute

variable {d : Driver}

namespace Manager

variable {m m' : Manager d}

/-! ## Properties that last -/

/-- A property that new managers have and that managers keep. -/
structure Lasts (I : Manager d → Prop) : Prop where
  new : ∀ {m}, m.New → I m
  registers : ∀ {m m' r} {x : Ownership d.Device}, m.device = some x →
    Session.Registers m r m' → I m → I m'
  clear : ∀ {m} (p : Pool d), I m → I (m.clear p).1
  destroy : ∀ {m} (p : Pool d), I m → I (m.destroy p).1

end Manager

namespace Session

open Manager

variable {I : Manager d → Prop} {s s' : Session d} {name : String} {m : Manager d}

/-- All managers have a property. -/
def AllManagers (I : Manager d → Prop) (s : Session d) : Prop :=
  ∀ name m, s.managers.lookup name = some m → I m

theorem AllManagers.of_untouched (all : s.AllManagers I) (h : Untouched s s') : s'.AllManagers I :=
  fun _ _ found => all _ _ (h.managers ▸ found)

theorem AllManagers.of_store (all : s.AllManagers I) (hm : I m) (name : String) :
    (storeManager name m s).AllManagers I := by
  intro n m' found
  rw [managers_storeManager] at found
  by_cases hn : n = name
  · rw [hn, lookup_store_self] at found
    cases found
    exact hm
  · rw [lookup_store_of_ne hn] at found
    exact all _ _ found

theorem AllManagers.of_update (all : s.AllManagers I) {old : Manager d}
    (known : s.managers.lookup name = some old) (hm : I m)
    (h : s'.managers = update name m s.managers) : s'.AllManagers I := by
  intro n m' found
  rw [h] at found
  by_cases hn : n = name
  · rw [hn, lookup_update_self known] at found
    cases found
    exact hm
  · rw [lookup_update_of_ne hn] at found
    exact all _ _ found

theorem AllManagers.of_without (all : s.AllManagers I)
    (h : s'.managers = without name s.managers) : s'.AllManagers I := by
  intro n m found
  rw [h] at found
  by_cases hn : n = name
  · rw [hn, lookup_without_self] at found
    cases found
  · rw [lookup_without_of_ne hn] at found
    exact all _ _ found

theorem AllManagers.step (all : s.AllManagers I) (h : Lasts I) (o : Operation) :
    ((step o).after s).AllManagers I := by
  intro name m found
  have fares := fares_step o s [] found
  generalize createdAfter name o s [] = mine at fares
  cases fares with
  | stays hm => exact all _ _ hm
  | comes new => exact h.new new
  | makes hm hd _ _ _ registers => exact h.registers hd registers (all _ _ hm)
  | prunes hm => exact h.clear s.pool (all _ _ hm)
  | closes hm => exact h.destroy s.pool (all _ _ hm)

theorem AllManagers.start (I : Manager d → Prop) (driver : d.State) :
    (start driver).AllManagers I := nofun

theorem AllManagers.steps (all : s.AllManagers I) (h : Lasts I) (os : List Operation) :
    (steps os s).AllManagers I := by
  induction os generalizing s with
  | nil => exact all
  | cons o os ih => exact ih (all.step h o)

end Session

/-! ## Managers that were torn down -/

namespace Manager

variable {m : Manager d}

/-- A manager of which nothing is left. -/
structure Bare (m : Manager d) : Prop where
  inst : m.inst = none
  callbacks : m.callbacks = none
  device : m.device = none
  queues : m.queues = []
  sequences : m.sequences = {}
  algorithms : m.algorithms = {}
  tensors : m.tensors = {}

/-- A manager has a device together with an instance, or nothing at all. If it does not manage resources,
it tracks none. -/
structure Orderly (m : Manager d) : Prop where
  inst : m.device.isSome → m.inst.isSome
  passive : m.config.manageResources = false → ∀ kind, m.tracked kind = []
  bare : m.device = none → m.Bare

namespace Bare

variable (h : m.Bare) (p : Pool d)

include h

/-- There is nothing to forget. -/
theorem clear_eq : (m.clear p).1 = m := by
  unfold Manager.clear
  split
  · dsimp only
    rw [h.sequences, h.algorithms, h.tensors]
    cases m
    cases h.sequences
    cases h.algorithms
    cases h.tensors
    rfl
  · rfl

/-- There is nothing to tear down. -/
theorem destroy : (m.destroy p).1 = m := by
  unfold Manager.destroy
  rw [h.device]

theorem isDestroyed : m.isDestroyed = true := by
  rw [Manager.isDestroyed, h.device]
  rfl

omit p in
theorem tracked_eq (kind : Trace.Kind) : m.tracked kind = [] := by
  cases kind
  · rw [Manager.tracked, h.tensors]
    rfl
  · rw [Manager.tracked, h.algorithms]
    rfl
  · rw [Manager.tracked, h.sequences]
    rfl

end Bare

namespace Orderly

theorem of_new (h : m.New) : m.Orderly where
  inst := fun opened => by
    obtain ⟨inst, hinst, -⟩ := h.equipped opened
    rw [hinst]
    rfl
  passive _ := h.tracked
  bare closed := by
    have opened := h.opened
    rw [closed] at opened
    cases opened

theorem of_registers {m' : Manager d} {r : ResourceId} {x : Ownership d.Device} (h : m.Orderly)
    (hd : m.device = some x) (registers : Session.Registers m r m') : m'.Orderly where
  inst opened := by
    rw [registers.like.inst]
    exact h.inst (registers.like.device ▸ opened)
  passive := registers.tracked_of_passive h.passive
  bare closed := by
    rw [registers.like.device, hd] at closed
    cases closed

theorem clear (h : m.Orderly) (p : Pool d) : (m.clear p).1.Orderly := by
  by_cases closed : m.device = none
  · rw [(h.bare closed).clear_eq]
    exact h
  · unfold Manager.clear
    split
    next manages =>
      exact ⟨h.inst, fun passive => absurd manages (Bool.eq_false_iff.1 passive),
        fun none => absurd none closed⟩
    · exact h

/-- Nothing is left of a manager that was torn down. -/
theorem bare_destroy (h : m.Orderly) (p : Pool d) : (m.destroy p).1.Bare := by
  unfold Manager.destroy
  cases hd : m.device with
  | none => exact h.bare hd
  | some x =>
    obtain ⟨inst, hinst⟩ := Option.isSome_iff_exists.1 (h.inst (hd ▸ rfl))
    rw [hinst, detached_eq h.passive]
    exact ⟨rfl, rfl, rfl, rfl, rfl, rfl, rfl⟩

theorem destroy (h : m.Orderly) (p : Pool d) : (m.destroy p).1.Orderly := by
  have bare := h.bare_destroy p
  refine ⟨fun opened => ?_, fun _ => bare.tracked_eq, fun _ => bare⟩
  rw [bare.device] at opened
  cases opened

end Orderly

theorem lasts_orderly : Lasts (Orderly (d := d)) where
  new := .of_new
  registers hd registers h := h.of_registers hd registers
  clear p h := h.clear p
  destroy p h := h.destroy p

/-! ## Owners and borrowers -/

/-- A manager that was made on an instance or a device of someone else, and has it still. -/
def Borrower (m : Manager d) : Prop :=
  (∃ i, m.inst = some (.borrowed i)) ∨ ∃ x, m.device = some (.borrowed x)

/-- A manager owns both its instance and its device, or borrows both and has no callbacks. -/
structure Paired (m : Manager d) : Prop where
  alike : ∀ i x, m.inst = some i → m.device = some x → i.isOwned = x.isOwned
  callbacks : ∀ i, m.inst = some i → i.isOwned = false → m.callbacks = none

namespace Paired

theorem of_new (h : m.New) : m.Paired where
  alike := h.paired
  callbacks i hi borrowed := by
    obtain ⟨inst, hinst, callbacks⟩ := h.equipped h.opened
    cases hinst.symm.trans hi
    rw [borrowed] at callbacks
    exact Option.isNone_iff_eq_none.1 (Option.isSome_eq_false_iff.1 callbacks)

theorem of_like {m' : Manager d} (h : m.Paired) (like : m.Like m') : m'.Paired where
  alike := by
    rw [like.inst, like.device]
    exact h.alike
  callbacks := by
    rw [like.inst, like.callbacks]
    exact h.callbacks

theorem destroy (h : m.Paired) (p : Pool d) : (m.destroy p).1.Paired := by
  cases hd : m.device with
  | none =>
    unfold Manager.destroy
    rw [hd]
    exact h
  | some x =>
    obtain ⟨-, gone, -⟩ := Session.destroy_of_device hd p
    refine ⟨fun i x hi => ?_, fun i hi => ?_⟩ <;>
    · rw [gone] at hi
      cases hi

end Paired

theorem lasts_paired : Lasts (Paired (d := d)) where
  new := .of_new
  registers _ registers h := h.of_like registers.like
  clear {m} p h := by
    obtain same | ⟨m', record, same, like, -⟩ := Session.clear_cases m p <;> rw [same]
    · exact h
    · exact h.of_like like
  destroy p h := h.destroy p

end Manager

end GpuCompute
