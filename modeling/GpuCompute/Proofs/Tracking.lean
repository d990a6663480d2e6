import GpuCompute.Registry.Shelf
import GpuCompute.Proofs.Closing
import Mathlib.Data.List.Nodup

/-!
# What a manager tracks

A manager that manages resources tracks each that it has made and that is alive and not destroyed, once
and in the order of creation (`Manager.Watches`); when it is cleared, it tracks nothing else
(`Session.clear_exact`). A manager that does not manage resources never tracks anything.
-/

namespace GpuCompute

open Trace

/-! ## Pruning -/

namespace Registry

variable {ι : Type} {r : Registry ι} {wanted : ι → Bool}

/-- What pruning does to a registry. -/
structure Prunes [BEq ι] (r : Registry ι) (unwanted : ι → Bool) (removed : Nat) (r' : Registry ι) :
    Prop where
  /-- The rest stands in the order in which it was registered. -/
  sublist : r'.entries.Sublist r.entries
  /-- An unwanted resource loses all its entries, any other one keeps all. -/
  count : ∀ i, r'.entries.count i = if unwanted i then 0 else r.entries.count i
  removed : removed = r.entries.countP unwanted

theorem prunes_prune [BEq ι] [LawfulBEq ι] (r : Registry ι) (wanted : ι → Bool) :
    r.Prunes (fun i => !wanted i) (r.prune wanted).1 (r.prune wanted).2 where
  sublist := List.filter_sublist
  count i := by
    show (r.entries.filter wanted).count i = _
    cases hi : wanted i with
    | true => simp [List.count_filter hi]
    | false =>
      have gone : i ∉ r.entries.filter wanted := by simp [hi]
      simpa using List.count_eq_zero.2 gone
  removed := by
    have total := List.length_eq_countP_add_countP wanted (l := r.entries)
    show r.entries.length - (r.entries.filter wanted).length = _
    rw [← List.countP_eq_length_filter]
    simp only [Bool.not_eq_true, Bool.decide_eq_false] at total
    omega

/-- Where all entries are wanted, pruning does nothing. -/
theorem prune_of_wanted (h : ∀ i ∈ r.entries, wanted i) : r.prune wanted = (0, r) := by
  have all : r.entries.filter wanted = r.entries := List.filter_eq_self.2 h
  simp [prune, all]

end Registry

theorem Shelf.prunes_step (s : Shelf) :
    ∃ removed registry, s.step .prune = (.count removed, { s with registry }) ∧
      s.registry.Prunes (fun i => !s.isUsable i) removed registry :=
  ⟨_, _, rfl, Registry.prunes_prune s.registry s.isUsable⟩

/-! ## Clearing -/

variable {d : Driver}

/-- How many resources of each kind are alive and not destroyed. -/
def Pool.usableCounts (p : Pool d) (mine : List ResourceId) : TrackedCounts :=
  ⟨(p.usable .batch mine).length, (p.usable .pipeline mine).length, (p.usable .buffer mine).length⟩

namespace Manager

variable {m : Manager d} {p : Pool d} {mine : List ResourceId}

/-- What a manager reports when it is cleared. -/
def pruning (n : Nat) : Log.Record :=
  { level := .debug, message := "pruned expired resources", fields := [("pruned", toString n)] }

/-- How many entries of a kind are dead or destroyed. -/
def expired (m : Manager d) (p : Pool d) (kind : Kind) : Nat :=
  (m.tracked kind).countP fun r => !p.isUsable r

theorem trackedCounts_eq (m : Manager d) : m.trackedCounts =
    ⟨(m.tracked .batch).length, (m.tracked .pipeline).length, (m.tracked .buffer).length⟩ := by
  simp [trackedCounts, tracked, Registry.size]

theorem tracked_clear_of_managing (manages : m.config.manageResources) (p : Pool d) (kind : Kind) :
    (m.clear p).1.tracked kind = (m.tracked kind).filter p.isUsable := by
  unfold clear
  rw [if_pos manages]
  cases kind <;> rw [tracked, tracked, List.filter_map] <;> rfl

theorem pool_clear_of_managing (manages : m.config.manageResources) (p : Pool d) :
    (m.clear p).2 = p.onEnv (.write
      (pruning (m.expired p .batch + m.expired p .pipeline + m.expired p .buffer))) := by
  have lost (r : Registry Nat) (identify : Nat → ResourceId) :
      (r.prune fun i => p.isUsable (identify i)).1 =
        (r.entries.map identify).countP fun r => !p.isUsable r := by
    rw [(Registry.prunes_prune r _).removed, List.countP_map]
    rfl
  unfold clear
  rw [if_pos manages]
  dsimp only
  rw [lost, lost, lost]
  rfl

/-- A manager that tracks nothing else than what is alive and not destroyed has nothing to forget. -/
theorem clear_of_usable (manages : m.config.manageResources)
    (h : ∀ kind, ∀ r ∈ m.tracked kind, p.isUsable r) :
    m.clear p = (m, p.onEnv (.write (pruning 0))) := by
  have all (kind : Kind) {r : Registry Nat} {identify : Nat → ResourceId}
      (entries : m.tracked kind = r.entries.map identify) :
      (r.prune fun i => p.isUsable (identify i)) = (0, r) :=
    Registry.prune_of_wanted fun i hi => h kind _ (entries ▸ List.mem_map_of_mem hi)
  unfold clear
  rw [if_pos manages, all .batch rfl, all .pipeline rfl, all .buffer rfl]
  rfl

/-- A manager tracks what it has made, in the order of creation, and all of it that is alive and not
destroyed. -/
structure Watches (m : Manager d) (p : Pool d) (mine : List ResourceId) : Prop where
  sublist : ∀ kind, (m.tracked kind).Sublist mine
  once : ∀ r ∈ mine, p.isUsable r → (m.tracked r.kind).count r = 1

theorem Roster.watches (h : m.Roster p mine) (manages : m.config.manageResources)
    (hd : m.device.isSome) : m.Watches p mine where
  sublist := h.listed
  once r hr usable := by
    have hinit : p.isInit r := (Bool.and_eq_true_iff.1 usable).2
    have tracks : r ∈ m.tracked r.kind := tracks_iff.1 (h.tracks manages hd r hr hinit)
    exact List.count_eq_one_of_mem (h.nodup.sublist (h.listed r.kind)) tracks

theorem Roster.tracked_clear (h : m.Roster p mine) (manages : m.config.manageResources)
    (hd : m.device.isSome) (kind : Kind) : (m.clear p).1.tracked kind = p.usable kind mine :=
  (tracked_clear_of_managing manages p kind).trans (h.usable_eq manages hd kind)

end Manager

/-! ## Runs -/

namespace Session

open Manager

variable {s : Session d} {name : String} {m : Manager d} {mine : List ResourceId}

theorem outcome_clear (hm : s.managers.lookup name = some m) : (step (.clear name)).outcome s =
    (.ok (.counts (m.clear s.pool).1.trackedCounts),
      { s with pool := (m.clear s.pool).2 }.setManager name (m.clear s.pool).1) := by
  have hstep : step (.clear name) s = .ok (.counts (m.clear s.pool).1.trackedCounts)
      ({ s with pool := (m.clear s.pool).2 }.setManager name (m.clear s.pool).1) := by
    show withManager name _ s = _
    unfold withManager
    rw [Attempt.get_bind, hm]
    rfl
  simp only [Attempt.outcome, hstep]

/-- One session becomes another when a manager is cleared that has made `mine`. -/
structure Clears (name : String) (m : Manager d) (mine : List ResourceId) (s s' : Session d) : Prop where
  /-- The counts are those of what is left. -/
  counts : (step (.clear name)).outcome s = (.ok (.counts (s.pool.usableCounts mine)), s')
  tracked : ∃ m', s'.managers.lookup name = some m' ∧ ∀ kind, m'.tracked kind = s.pool.usable kind mine
  /-- The pool is as before; what is no longer tracked was dead or destroyed. -/
  pool : s'.pool = s.pool.onEnv (.write
    (pruning (m.expired s.pool .batch + m.expired s.pool .pipeline + m.expired s.pool .buffer)))
  /-- A second time there is nothing to forget. -/
  again : (step (.clear name)).outcome s' =
    (.ok (.counts (s.pool.usableCounts mine)), s'.onEnv (.write (pruning 0)))

theorem Enrolled.clears (h : Enrolled name s mine) (hm : s.managers.lookup name = some m)
    (manages : m.config.manageResources) (hd : m.device.isSome) : ∃ s', Clears name m mine s s' := by
  have left := (h.roster hm).tracked_clear manages hd
  have counts : (m.clear s.pool).1.trackedCounts = s.pool.usableCounts mine := by
    rw [trackedCounts_eq, left, left, left]
    rfl
  have pool := pool_clear_of_managing manages s.pool
  have found : (update name (m.clear s.pool).1 s.managers).lookup name = some (m.clear s.pool).1 :=
    lookup_update_self hm _
  have manages' : (m.clear s.pool).1.config.manageResources := by
    unfold Manager.clear
    rw [if_pos manages]
    exact manages
  -- What is tracked now is usable, and the pool has only a record more.
  have usable (kind : Kind) (r : ResourceId) (hr : r ∈ (m.clear s.pool).1.tracked kind) :
      (m.clear s.pool).2.isUsable r := by
    rw [tracked_clear_of_managing manages] at hr
    rw [pool]
    exact (List.mem_filter.1 hr).2
  refine ⟨{ s with pool := (m.clear s.pool).2 }.setManager name (m.clear s.pool).1,
    ?_, ⟨_, found, left⟩, pool, ?_⟩
  · rw [outcome_clear hm, counts]
  · rw [outcome_clear found]
    have again := clear_of_usable manages' usable
    show (Except.ok (Reply.counts (Manager.clear _ (m.clear s.pool).2).1.trackedCounts), _) = _
    rw [again, counts]
    have names : (namesOf (update name (m.clear s.pool).1 s.managers)).Nodup := by
      rw [namesOf_update]
      exact h.named.managers
    simp only [setManager, onEnv, onPool, again, update_self names found]

/-- **A manager tracks what is left of what it has made.** In any state that a run can reach, a manager
that manages resources and was not torn down tracks each resource that it has made and that is alive and
not destroyed, once and in the order of creation; after it is cleared it tracks nothing else, and clearing
it again only says so in the log. A manager that does not manage resources tracks nothing. A registry that
is pruned loses the entries of what is dead or destroyed, and no others. -/
theorem clear_exact (driver : d.State) (ops : List Operation) :
    let s := steps ops (start driver)
    (∀ name m, s.managers.lookup name = some m →
      let mine := created name ops (start driver)
      (m.config.manageResources = true → m.isDestroyed = false →
        m.Watches s.pool mine ∧ ∃ s', Clears name m mine s s') ∧
      (m.config.manageResources = false → m.trackedCounts = ⟨0, 0, 0⟩)) ∧
    ∀ shelf : Shelf, ∃ removed registry,
      shelf.step .prune = (.count removed, { shelf with registry }) ∧
      shelf.registry.Prunes (fun i => !shelf.isUsable i) removed registry := by
  intro s
  refine ⟨fun name m hm => ?_, Shelf.prunes_step⟩
  have enrolled : Enrolled name s _ := enrolled_steps name driver ops
  have roster := enrolled.roster hm
  refine ⟨fun manages lasting => ?_, fun passive => ?_⟩
  · have open' : m.device.isSome := by simpa [isDestroyed] using lasting
    exact ⟨roster.watches manages open', enrolled.clears hm manages open'⟩
  · simp [trackedCounts_eq, roster.passive passive]

/-- A tensor that only an algorithm keeps alive is still tracked; a sequence that was destroyed is not. -/
theorem clear_exact_inUse :
    let s := steps inUse (start diagnosing)
    ∃ s', (step (.clear "manager")).outcome s = (.ok (.counts ⟨1, 1, 2⟩), s') ∧
      s'.pool = s.pool.onEnv (.write (pruning 1)) ∧
      (step (.clear "manager")).outcome s' =
        (.ok (.counts ⟨1, 1, 2⟩), s'.onEnv (.write (pruning 0))) := by
  intro s
  have hm : s.managers.lookup "manager" = some _ := rfl
  obtain ⟨-, s', h⟩ := ((clear_exact diagnosing inUse).1 "manager" _ hm).1 rfl rfl
  exact ⟨s', h.counts, h.pool, h.again⟩

end Session

end GpuCompute
