import GpuCompute.Proofs.Likeness

/-!
# What nobody looks at

If a driver does not look at what two environments differ in, then no session does: sessions that are the
same but for their environments go through the same operations with the same answers, and are still the
same but for this afterwards (`Session.respects_step`), also when they come to their end
(`Session.Related.finish`).
-/

namespace GpuCompute

variable {d : Driver} {R : Env d.State → Env d.State → Prop}

/-! ## Managers -/

namespace Pool.Related

variable {p q : Pool d} (h : p.Related R q)
include h

theorem isUsable : q.isUsable = p.isUsable := by
  funext r
  rw [Pool.isUsable, Pool.isUsable, h.isHeld, h.isInit]

section

variable (hd : d.Respects R)
include hd

/-- As many resources are reached in both pools. -/
theorem destroyRegistered (kind : String) (identify : Nat → ResourceId) (r : Registry Nat) :
    (Manager.destroyRegistered kind identify r p).Related R
      (Manager.destroyRegistered kind identify r q) := by
  unfold Manager.destroyRegistered Registry.destroyAll
  rw [h.isHeld]
  dsimp only
  generalize r.living (fun i => p.isHeld (identify i)) = living
  have destroyed := h.destroyEach hd (living.map identify)
  rw [Pool.destroyEach, Pool.destroyEach, List.foldl_map, List.foldl_map] at destroyed
  exact destroyed.onEnv (hd.write _)

theorem cleared (m : Manager d) : (Session.cleared m p).Related R (Session.cleared m q) := by
  have started := h.onEnv (hd.write { level := .debug, message := "manager destroy started" })
  have batches := started.destroyRegistered hd "sequences" .sequence m.sequences
  have pipelines := batches.destroyRegistered hd "algorithms" .algorithm m.algorithms
  have buffers := pipelines.destroyRegistered hd "tensors" .tensor m.tensors
  unfold Session.cleared
  split
  · exact buffers
  · exact started

/-- The same is forgotten in both pools. -/
theorem clear (m : Manager d) :
    (m.clear q).1 = (m.clear p).1 ∧ (m.clear p).2.Related R (m.clear q).2 := by
  unfold Manager.clear
  rw [h.isUsable]
  split
  · exact ⟨rfl, h.onEnv (hd.write _)⟩
  · exact ⟨rfl, h⟩

end

/-- The text of a manager does not depend on the environment. -/
theorem debug (m : Manager d) : m.debug q = m.debug p := by
  rw [Manager.debug_eq, Manager.debug_eq, h.isHeld]

end Pool.Related

theorem Manager.destroy_fst (m : Manager d) (p q : Pool d) : (m.destroy p).1 = (m.destroy q).1 := by
  unfold Manager.destroy
  cases m.device with
  | none => rfl
  | some device => cases m.inst <;> rfl

/-! ## Sessions -/

/-- Only the environments may differ. -/
def Likeness.environments (R : Env d.State → Env d.State → Prop) : Likeness d where
  Rel := R
  Kin _ := Eq
  Same := Eq
  kin {_ m _} h := h ▸ .intro m.config.manageResources m.sequences m.algorithms m.tensors
  grows h _ := h
  enroll h _ := h ▸ rfl
  refl _ := rfl
  destroy {p m _} h q := h ▸ m.destroy_fst p q
  counts h := h ▸ rfl
  managerState {_ _ m _} h pools := by
    subst h
    rw [pools.debug]

namespace Session

variable {s t : Session d} {n : String}

/-- Two sessions that are the same but for their environments, which are related. -/
abbrev Related (R : Env d.State → Env d.State → Prop) (s t : Session d) : Prop :=
  (Likeness.environments R).Agree s t

theorem related_start {driver driver' : d.State} (h : R { driver } { driver := driver' }) :
    Related R (start driver) (start driver') :=
  .intro (s := start driver) (.intro (p := (start driver).pool) h) .nil

section

variable (hd : d.Respects R)
include hd

theorem Related.clears (h : Related R s t) (n : String) :
    (Likeness.environments R).Clears n s t := by
  rintro m _ _ _ rfl
  exact (Likeness.Agree.pool h).cleared hd m

/-- A manager is made in both sessions. -/
theorem related_addManager {make : Act d.State (Manager d)} (hact : Act.Respects R make) :
    Attempt.Alike (Related R) Eq (addManager n make) (addManager n make) := by
  intro s t h
  refine Likeness.matches_addManager hd h ?_ fun _ _ _ _ related => Related.clears hd related n
  exact (hact _ _ (Likeness.Agree.pool h).env).mono (fun _ _ same _ => same) fun _ _ => id

/-- **No operation looks at what the driver does not look at.** -/
theorem respects_step (o : Operation) : Attempt.Alike (Related R) Eq (step o) (step o) := by
  intro s t h
  cases o with
  | createManager n config selection =>
    exact related_addManager hd (Manager.respects_create hd config selection) s t h
  | borrow n inst device adapter families config =>
    exact Likeness.matches_withInstance h fun i _ => Likeness.matches_withDevice h fun x _ =>
      related_addManager hd (Manager.respects_borrow hd config i adapter x families) s t h
  | clear n =>
    refine Likeness.matches_withManager h fun m _ _ _ same => ?_
    subst same
    obtain ⟨same, pools⟩ := (Likeness.Agree.pool h).clear hd m
    have kin : (Likeness.environments R).Kin (m.clear s.pool).2 (m.clear s.pool).1
      (m.clear t.pool).1 := same.symm
    have next := (Likeness.Agree.setPool h pools (Manager.grows_clear m s.pool)).setManager n kin
    exact .ok (congrArg (fun m : Manager d => Reply.counts m.trackedCounts) kin) next
  | destroyManager n => exact Likeness.matches_destroyManager hd h (Related.clears hd h n)
  | dropManager n => exact Likeness.matches_dropManager hd h (Related.clears hd h n)
  | _ => exact Likeness.matches_ordinary hd h rfl

theorem Related.finish (h : Related R s t) : Related R s.finish t.finish :=
  Likeness.Agree.finish hd h (fun _ => True) trivial (fun _ _ _ => trivial)
    fun _ _ n _ related => Related.clears hd related n

end

end Session

end GpuCompute
