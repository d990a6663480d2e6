import GpuCompute.Proofs.Bookkeeping

/-!
# Clearing is not noticed

A manager that is cleared forgets resources that are destroyed or that nobody holds, and these are of no
importance for anything that comes later. So two runs that are the same but for such operations go the
same way (`Session.indistinct_steps`): in all states that they pass the driver is in the same state, the
same resources are destroyed, and all other operations are answered in the same way, as far as they do
not ask how much is tracked.
-/

namespace GpuCompute

open Attempt (Ends)

variable {d : Driver}

namespace Session

variable {s t : Session d} {name : String}

/-- Two sessions that differ at most in what managers track of resources that are destroyed, and in
counts in the log. -/
abbrev Agree (s t : Session d) : Prop := (Likeness.bookkeeping d).Agree s t

theorem Agree.symm (h : s.Agree t) : t.Agree s :=
  Likeness.Agree.symm h Env.Agree.symm Manager.Akin.symm

/-- An operation ends alike in two sessions. -/
abbrev Matches (s t : Session d) (x y : Attempt (Session d) (Reply d)) : Prop :=
  (Likeness.bookkeeping d).Matches s t x y

/-! ## Managers -/

section

variable (hd : d.Oblivious)
include hd

theorem Agree.clears (h : s.Agree t) (n : String) : (Likeness.bookkeeping d).Clears n s t :=
  fun _ _ _ _ akin => akin.related_cleared hd.respects h.pool

theorem Agree.finish (h : s.Agree t) : s.finish.Agree t.finish :=
  Likeness.Agree.finish hd.respects h (fun _ => True) trivial (fun _ _ _ => trivial)
    fun _ _ n _ agree => Agree.clears hd agree n

/-- A new manager is stored. -/
theorem matches_addManager (h : s.Agree t) {make : Act d.State (Manager d)}
    (hact : make.Respects (Env.Agree Log.Record.uncounted))
    (new : ∀ {m e e'}, make e = .ok m e' → m.New) :
    Matches s t (addManager name make) (addManager name make) := by
  refine Likeness.matches_addManager hd.respects h ?_ fun _ _ _ _ agree => Agree.clears hd agree name
  have ends := hact _ _ h.pool.env
  generalize hs : make s.pool.env = r, make t.pool.env = r' at ends
  cases ends with
  | error env => exact .error env
  | @ok m _ _ _ same env =>
    subst same
    exact .ok (fun _ => .of_bare (new hs).tracked) env

/-! ## Operations -/

/-- Whether an operation does anything but to clear a manager. -/
def seen : Operation → Bool
  | .clear _ => false
  | _ => true

/-- **All other operations end alike in sessions that agree.** -/
theorem matches_step (h : s.Agree t) {o : Operation} (ho : seen o) :
    Matches s t (step o) (step o) := by
  cases o with
  | createManager n config selection =>
    exact matches_addManager hd h (Manager.respects_create hd.respects config selection)
      fun made => (Manager.create_ok made).new
  | borrow n inst device adapter families config =>
    exact Likeness.matches_withInstance h fun i _ => Likeness.matches_withDevice h fun x _ =>
      matches_addManager hd h (Manager.respects_borrow hd.respects config i adapter x families)
        fun made => (Manager.borrow_ok made).new
  | clear => cases ho
  | destroyManager n => exact Likeness.matches_destroyManager hd.respects h (h.clears hd n)
  | dropManager n => exact Likeness.matches_dropManager hd.respects h (h.clears hd n)
  | _ => exact Likeness.matches_ordinary hd.respects h rfl

end

/-! ## Clearing -/

/-- What a manager forgets is of no importance. -/
theorem Agree.clear (h : s.Agree t) (hs : s.Named) (kept : s.pool.Kept) (n : String) :
    ((step (.clear n)).after s).Agree t := by
  unfold step
  rw [after_withManager]
  cases hm : s.managers.lookup n with
  | none => exact h
  | some m =>
    refine h.withPool (Manager.related_clear m h.pool) ?_
    exact (h.managers.update_left hs.managers hm fun m' akin => akin.clear kept).mono
      fun _ _ akin => akin.of_grows (Manager.grows_clear m s.pool)

/-- No two managers have the same name and no two holders either, and what has its object is held. -/
structure Sound (s : Session d) : Prop where
  named : s.Named
  kept : s.pool.Kept

theorem sound_start (driver : d.State) : (start driver).Sound := ⟨named_start _, kept_start _⟩

theorem agree_start (driver : d.State) : (start driver).Agree (start driver) :=
  .intro (s := start driver) (.refl (.refl _)) .nil

theorem unseen_clear (hd : d.Oblivious) :
    Attempt.Unseen (step (d := d)) seen Sound Agree Reply.Same where
  lasts o _ hs := ⟨named_step hs.named o, kept_step hs.named hs.kept o⟩
  alike _ ho _ _ h := matches_step hd h ho
  left o s t ho hs h := by
    cases o with
    | clear n => exact h.clear hs.named hs.kept n
    | _ => cases ho
  right o s t ho ht h := by
    cases o with
    | clear n => exact (h.symm.clear ht.named ht.kept n).symm
    | _ => cases ho

/-- What two sessions have in common that differ in their bookkeeping only: the state of the driver with
all that it was asked to do, which resources are destroyed, and the log up to counts. -/
structure Indistinct (s t : Session d) : Prop where
  driver : t.pool.env.driver = s.pool.env.driver
  isInit : ∀ r, t.pool.isInit r = s.pool.isInit r
  log : Log.uncounted t.pool.env.log = Log.uncounted s.pool.env.log

theorem Agree.indistinct (h : s.Agree t) : s.Indistinct t where
  driver := h.pool.env.driver
  isInit r := congrFun h.pool.isInit r
  log := h.pool.env.log

/-- What the operations of a run answer that do not clear a manager. -/
def answers (ops : List Operation) (s : Session d) : List (Except Error (Reply d)) :=
  Attempt.answers step seen ops s

/-- **Runs that only differ in clearing managers cannot be told apart.** -/
theorem indistinct_steps (hd : d.Oblivious) (driver : d.State) {ops ops' : List Operation}
    (same : ops.filter seen = ops'.filter seen) :
    (steps ops (start driver)).Indistinct (steps ops' (start driver)) ∧
      (steps ops (start driver)).finish.Indistinct (steps ops' (start driver)).finish ∧
      List.Forall₂ (Attempt.Answers Reply.Same) (answers ops (start driver))
        (answers ops' (start driver)) := by
  obtain ⟨agree, answers⟩ :=
    (unseen_clear hd).runs_answers (sound_start driver) (sound_start driver) (agree_start driver) same
  exact ⟨agree.indistinct, (agree.finish hd).indistinct, answers⟩

end Session

end GpuCompute
