import GpuCompute.Proofs.Settlement
import GpuCompute.Proofs.Vulkan.Effects

/-!
# Managers on the Vulkan driver

What is true of the managers of every session is true of those on the Vulkan driver, whichever way they
were made (`allManagers_run`). In particular a manager that was torn down absorbs whatever is asked of
it, here as in every session (`torn_down_absorbs`).
-/

namespace GpuCompute.Vulkan

open Session

variable {M : MemoryLibrary} {s s' : Session (driverOn M)} {o : Operation} {n : String}
  {m : Manager (driverOn M)}
  {I : Manager (driverOn M) → Prop}

/-! ## Operations -/

/-- What holds of sessions with a manager more, and of sessions in another environment, holds after an
attempt to make a manager. -/
theorem after_addManager_induct {C : Session (driverOn M) → Prop} {name : String}
    {make : Act (driverOn M).State (Manager (driverOn M))}
    (ok : ∀ m e, make s.pool.env = .ok m e → C (storeManager name m (s.withEnv e)))
    (error : ∀ error e, make s.pool.env = .error error e → C (s.withEnv e)) :
    C ((addManager name make).after s) := by
  rw [after_addManager]
  cases h : make s.pool.env with
  | ok m e => exact ok m e h
  | error failure e => exact error failure e h

theorem named_step (hs : s.Named) (o : Operation) : ((step o).after s).Named := by
  have added {name : String} {make : Act (driverOn M).State (Manager (driverOn M))} :
      ((addManager name make).after s).Named :=
    after_addManager_induct
      (fun m e _ => named_storeManager (s := s.withEnv e) ⟨hs.managers, hs.held⟩ name m)
      fun _ _ _ => ⟨hs.managers, hs.held⟩
  have effect := effect_step o s
  generalize (step o).after s = s' at effect
  cases effect with
  | common o => exact Session.named_step hs o
  | aside h => exact h.named hs
  | creates | borrows => exact added

theorem kept_step (hs : s.Named) (kept : s.pool.Kept) (o : Operation) :
    ((step o).after s).pool.Kept := by
  have added {name : String} {make : Act (driverOn M).State (Manager (driverOn M))} :
      ((addManager name make).after s).pool.Kept :=
    after_addManager_induct (C := fun s => s.pool.Kept)
      (fun m e _ => kept_storeManager (s := s.withEnv e) ⟨hs.managers, hs.held⟩ kept name m)
      fun _ _ _ => kept
  have effect := effect_step o s
  generalize (step o).after s = s' at effect
  cases effect with
  | common o => exact Session.kept_step hs kept o
  | aside h =>
    rw [h.pool]
    exact kept
  | creates | borrows => exact added

theorem allManagers_step (all : s.AllManagers I) (h : Manager.Lasts I) (o : Operation) :
    ((step o).after s).AllManagers I := by
  have added {name : String} {make : Act (driverOn M).State (Manager (driverOn M))}
      (new : ∀ {m e e'}, make e = .ok m e' → m.New) :
      ((addManager name make).after s).AllManagers I :=
    after_addManager_induct
      (fun m e made => AllManagers.of_store (s := s.withEnv e) all (h.new (new made)) name)
      fun _ _ _ => all
  have effect := effect_step o s
  generalize (step o).after s = s' at effect
  cases effect with
  | common o => exact all.step h o
  | aside same => exact all.of_untouched same
  | creates => exact added fun made => (Manager.create_ok made).new
  | borrows =>
    refine added fun made => ?_
    obtain ⟨x, e₁, -, borrows⟩ := borrowRaw_ok made
    exact borrows.new

/-! ## Runs -/

theorem named_run (hs : s.Named) (os : List Operation) : (run os s).Named := by
  induction os generalizing s with
  | nil => exact hs
  | cons o os ih => exact ih (named_step hs o)

theorem allManagers_run (all : s.AllManagers I) (h : Manager.Lasts I) (os : List Operation) :
    (run os s).AllManagers I := by
  induction os generalizing s with
  | nil => exact all
  | cons o os ih => exact ih (allManagers_step all h o)

/-- An operation that neither drops the manager under a name nor gives the name to another one. -/
def Spares (n : String) : Operation → Prop
  | .common o => Session.Spares n o
  | .createFromEnvironment m .. | .borrowRaw m .. => m ≠ n
  | _ => True

theorem lookup_of_bare (hs : s.Named) (hm : s.managers.lookup n = some m) (bare : m.Bare)
    (spares : Spares n o) : ((step o).after s).managers.lookup n = some m := by
  have apart (hne : manager? o ≠ some n) : ((step o).after s).managers.lookup n = some m :=
    (lookup_step hne).trans hm
  cases o with
  | common o =>
    rw [after_common]
    exact Session.lookup_of_bare hs hm bare spares
  | createFromEnvironment | borrowRaw => exact apart fun heq => spares (Option.some.inj heq)
  | _ => exact apart nofun

theorem absorbs_run (hs : s.Named) (hm : s.managers.lookup n = some m) (bare : m.Bare)
    {os : List Operation} (spares : ∀ o ∈ os, Spares n o) : Absorbs n m (run os s) := by
  induction os generalizing s with
  | nil => exact absorbs_of_bare hs hm bare
  | cons o os ih =>
    have stays := lookup_of_bare hs hm bare (spares o List.mem_cons_self)
    exact ih (named_step hs o) stays fun o ho => spares o (List.mem_cons_of_mem _ ho)

/-- **A manager that was torn down absorbs whatever is asked of it.** In every run, on every driver and
with all that the Vulkan driver can be asked besides, whichever library manages its memory: once a manager
was torn down nothing is left of it, and after any further operations, as long as it is not dropped and no
other manager gets its name, it is as it was, no operation on it has the driver called or changes anything
but the log, and whatever would need a device or an instance is refused. -/
theorem torn_down_absorbs :
    (∀ (d : Driver) (driver : d.State) (before after : List GpuCompute.Operation) (n : String)
      (m : Manager d), (steps before (Session.start driver)).managers.lookup n = some m →
      m.isDestroyed → (∀ o ∈ after, Session.Spares n o) →
      Absorbs n m (steps after (steps before (Session.start driver)))) ∧
    ∀ (M : MemoryLibrary) (host : Host) (rules : Rules) (before after : List Operation) (n : String)
      (m : Manager (driverOn M)), (run before (start host rules)).managers.lookup n = some m →
      m.isDestroyed → (∀ o ∈ after, Spares n o) →
      Absorbs n m (run after (run before (start host rules))) := by
  refine ⟨fun d driver before after n m found gone spares => ?_,
    fun M host rules before after n m found gone spares => ?_⟩
  · have named := named_steps (named_start driver) before
    have all := (AllManagers.start _ driver).steps Manager.lasts_orderly before
    have bare := (all n m found).bare (Option.isNone_iff_eq_none.1 gone)
    exact absorbs_steps named found bare spares
  · have named : (run before (start (M := M) host rules)).Named := named_run (named_start _) before
    have all : (run before (start (M := M) host rules)).AllManagers Manager.Orderly :=
      allManagers_run (AllManagers.start _ _) Manager.lasts_orderly before
    have bare := (all n m found).bare (Option.isNone_iff_eq_none.1 gone)
    exact absorbs_run named found bare spares

/-- A manager is torn down while a tensor of it is held. -/
def tornDown : List GpuCompute.Operation :=
  [.createManager "manager" {} {}, .tensorOfBytes "manager" "tensor" [1, 2, 3, 4] 1 4 .int,
    .destroyManager "manager"]

/-- It is asked for an algorithm and a sequence, cleared and torn down again. -/
def asked : List GpuCompute.Operation :=
  [.algorithm "manager" "algorithm" ["tensor"] [1], .sequence "manager" "sequence" 0 0,
    .clear "manager", .destroyManager "manager"]

theorem torn_down_absorbs_asked : ∃ m : Manager InMemory.driver,
    (steps tornDown (Session.start computing)).managers.lookup "manager" = some m ∧
    m.isDestroyed ∧ (∀ o ∈ asked, Session.Spares "manager" o) ∧
    Absorbs "manager" m (steps asked (steps tornDown (Session.start computing))) := by
  have spares : ∀ o ∈ asked, Session.Spares "manager" o := by
    simp [asked, Session.Spares, makes?]
  refine ⟨_, rfl, rfl, spares, ?_⟩
  exact torn_down_absorbs.1 InMemory.driver computing tornDown asked "manager" _ rfl rfl spares

end GpuCompute.Vulkan
