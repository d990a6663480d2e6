import GpuCompute.Proofs.Likeness
import GpuCompute.Proofs.Views

/-!
# States that differ in their bookkeeping

Which resources a manager tracks is of no importance as far as these are destroyed: a teardown would
pass over them (`Pool.destroyEach_filter`). So two states of a manager are akin if they track the same
resources that are not destroyed, and sessions may differ in such managers and in counts in the log
(`Likeness.bookkeeping`).
-/

namespace GpuCompute

variable {d : Driver}

/-! ## The log -/

namespace Log

/-- What the records say that tell how many tracked resources a teardown has reached. -/
def tallies : List String :=
  ["destroyed tracked sequences", "destroyed tracked algorithms", "destroyed tracked tensors"]

/-- A record without the number of tracked resources. What clearing reports is nothing but such a
number. -/
def Record.uncounted (r : Record) : Option Record :=
  if r.message = "pruned expired resources" then none
  else if r.message ∈ tallies then some { r with fields := [] }
  else some r

theorem Record.uncounted_tally {r : Record} (h : r.message ∈ tallies) :
    r.uncounted = some { r with fields := [] } := by
  have ne : r.message ≠ "pruned expired resources" := by
    intro heq
    rw [heq] at h
    revert h
    decide
  rw [uncounted, if_neg ne, if_pos h]

/-- A log without the numbers of tracked resources. -/
def uncounted (l : List Record) : List Record := l.filterMap Record.uncounted

end Log

open Log

/-! ## Managers -/

namespace Manager

variable {p q : Pool d} {m m' : Manager d}

/-- Two states of a manager that only track different resources, and the same of those that are not
destroyed. -/
structure Akin (p : Pool d) (m m' : Manager d) : Prop where
  rest : ∃ s a t, m' = { m with sequences := s, algorithms := a, tensors := t }
  useful : ∀ kind, (m'.tracked kind).filter p.isInit = (m.tracked kind).filter p.isInit
  /-- What is tracked was made. -/
  made : ∀ r, m.Tracks r ∨ m'.Tracks r → (p.slot? r).isSome

namespace Akin

theorem kin (h : Akin p m m') : m.Kin m' := by
  obtain ⟨s, a, t, rfl⟩ := h.rest
  exact .intro m.config.manageResources s a t

theorem symm (h : Akin p m m') : Akin p m' m where
  rest := by
    obtain ⟨s, a, t, rfl⟩ := h.rest
    exact ⟨m.sequences, m.algorithms, m.tensors, rfl⟩
  useful kind := (h.useful kind).symm
  made r hr := h.made r hr.symm

/-- Resources of which some have been destroyed since, and others made. -/
theorem of_grows (h : Akin p m m') (grows : p.Grows q) : Akin q m m' where
  rest := h.rest
  useful kind := by
    have filter {l : List ResourceId} (made : ∀ r ∈ l, (p.slot? r).isSome) :
        l.filter q.isInit = (l.filter p.isInit).filter q.isInit := by
      rw [List.filter_filter]
      refine List.filter_congr fun r hr => ?_
      obtain ⟨slot, hs⟩ := Option.isSome_iff_exists.1 (made r hr)
      cases hq : q.isInit r with
      | false => rfl
      | true => rw [grows.isInit hs hq]; rfl
    have tracks {n : Manager d} {r : ResourceId} (hr : r ∈ n.tracked kind) : n.Tracks r :=
      tracks_iff.2 (kind_of_tracked hr ▸ hr)
    rw [filter fun r hr => h.made r (.inr (tracks hr)), filter fun r hr => h.made r (.inl (tracks hr)),
      h.useful]
  made r hr := by
    obtain ⟨slot, hs⟩ := Option.isSome_iff_exists.1 (h.made r hr)
    obtain ⟨slot', hs', -⟩ := grows r slot hs
    exact Option.isSome_of_eq_some hs'

theorem of_bare (tracked : ∀ kind, m.tracked kind = []) : Akin p m m where
  rest := ⟨m.sequences, m.algorithms, m.tensors, rfl⟩
  useful _ := rfl
  made r hr := by
    have hr := tracks_iff.1 ((or_self_iff).1 hr)
    rw [tracked] at hr
    cases hr


theorem enroll (h : Akin p m m') {r : ResourceId} (made : (p.slot? r).isSome) :
    Akin p (m.enroll r) (m'.enroll r) where
  rest := by
    obtain ⟨s, a, t, rfl⟩ := h.rest
    unfold Manager.enroll
    split
    · cases r <;> exact ⟨_, _, _, rfl⟩
    · exact ⟨_, _, _, rfl⟩
  useful kind := by
    have config : m'.config = m.config := by
      obtain ⟨s, a, t, rfl⟩ := h.rest
      rfl
    rw [tracked_enroll, tracked_enroll, List.filter_append, List.filter_append, h.useful, config]
  made r' hr' := by
    have old {n : Manager d} (hr' : (n.enroll r).Tracks r') (hn : n.Tracks r' → (p.slot? r').isSome) :
        (p.slot? r').isSome := by
      rw [tracks_iff, tracked_enroll, List.mem_append] at hr'
      rcases hr' with hr' | hr'
      · exact hn (tracks_iff.2 hr')
      · split at hr'
        · rw [List.mem_singleton.1 hr']
          exact made
        · cases hr'
    exact hr'.elim (old · fun h' => h.made r' (.inl h')) (old · fun h' => h.made r' (.inr h'))

end Akin

/-! ### Tearing down -/

section

variable (hd : d.Respects (Env.Agree Record.uncounted))
include hd

/-- What a teardown destroys does not depend on what it finds destroyed. -/
theorem related_destroyRegistered (h : p.Related (Env.Agree Record.uncounted) q) (kind : String)
    (hkind : "destroyed tracked " ++ kind ∈ Log.tallies) {identify : Nat → ResourceId}
    {r r' : Registry Nat}
    (same : (r'.entries.map identify).filter p.isInit = (r.entries.map identify).filter p.isInit) :
    (destroyRegistered kind identify r p).Related (Env.Agree Record.uncounted)
      (destroyRegistered kind identify r' q) := by
  obtain ⟨count, heq⟩ := Pool.destroyRegistered_eq kind identify r p
  obtain ⟨count', heq'⟩ := Pool.destroyRegistered_eq kind identify r' q
  have living : ((r'.entries.map identify).filter p.isHeld).filter p.isInit =
      ((r.entries.map identify).filter p.isHeld).filter p.isInit := by
    rw [List.filter_comm, same, List.filter_comm]
  have destroyed := h.destroyEach_of_filter hd living
  rw [heq, heq', h.isHeld]
  refine destroyed.setEnv (destroyed.env.write ?_)
  rw [Log.Record.uncounted_tally hkind, Log.Record.uncounted_tally hkind]

theorem related_destroyTracked (h : p.Related (Env.Agree Record.uncounted) q) (hm : Akin p m m') :
    (m.destroyTracked p).Related (Env.Agree Record.uncounted) (m'.destroyTracked q) := by
  have grows (kind : String) (identify : Nat → ResourceId) (r : Registry Nat) (p : Pool d) :
      p.Grows (destroyRegistered kind identify r p) :=
    .of_destroys (Session.destroys_registered kind identify r p).1
  have batches := related_destroyRegistered hd h "sequences" (by decide) (hm.useful .batch)
  have hm₁ := hm.of_grows (grows "sequences" .sequence m.sequences p)
  have pipelines := related_destroyRegistered hd batches "algorithms" (by decide) (hm₁.useful .pipeline)
  have hm₂ := hm₁.of_grows (grows "algorithms" .algorithm m.algorithms _)
  exact related_destroyRegistered hd pipelines "tensors" (by decide) (hm₂.useful .buffer)

/-- What akin managers track is destroyed alike. -/
theorem Akin.related_cleared (h : p.Related (Env.Agree Record.uncounted) q) (hm : Akin p m m') :
    (Session.cleared m p).Related (Env.Agree Record.uncounted) (Session.cleared m' q) := by
  have started := h.onEnv <| hd.write { level := .debug, message := "manager destroy started" }
  have tracked := related_destroyTracked hd started (hm.of_grows (.of_eq rfl))
  obtain ⟨s, a, t, rfl⟩ := hm.rest
  unfold Session.cleared
  split
  · exact tracked
  · exact started

end

/-- A manager without its handles. -/
theorem Akin.detached (h : Akin p m m') : Akin p m.detached m'.detached := by
  have useful := h.useful
  have made := h.made
  obtain ⟨s, a, t, rfl⟩ := h.rest
  unfold Manager.detached
  dsimp only
  split
  · exact .of_bare fun kind => by cases kind <;> rfl
  · exact ⟨⟨s, a, t, rfl⟩, useful, made⟩

/-- A manager without its instance. -/
theorem Akin.withoutInstance (h : Akin p m m') :
    Akin p { m with inst := none, callbacks := none } { m' with inst := none, callbacks := none } := by
  have useful := h.useful
  have made := h.made
  obtain ⟨s, a, t, rfl⟩ := h.rest
  exact ⟨⟨s, a, t, rfl⟩, useful, made⟩

theorem Akin.destroy (h : Akin p m m') (q : Pool d) :
    Akin (m.destroy p).2 (m.destroy p).1 (m'.destroy q).1 := by
  refine .of_grows ?_ (grows_destroy m p)
  unfold Manager.destroy
  rw [h.kin.device_eq, h.kin.inst_eq]
  cases m.device with
  | none => exact h
  | some device =>
    cases m.inst with
    | none => exact h.detached
    | some inst => exact h.detached.withoutInstance

/-! ### Forgetting -/

/-- What clearing reports is a number of tracked resources. -/
theorem related_clear (m : Manager d) (h : p.Related (Env.Agree Record.uncounted) q) :
    (m.clear p).2.Related (Env.Agree Record.uncounted) q := by
  unfold Manager.clear
  split
  · exact h.write_unseen (if_pos rfl)
  · exact h

/-- A manager that has forgotten what is of no use. -/
theorem Akin.clear (h : Akin p m m') (kept : p.Kept) : Akin p (m.clear p).1 m' where
  rest := by
    obtain ⟨s, a, t, rfl⟩ := h.rest
    unfold Manager.clear
    split <;> exact ⟨_, _, _, rfl⟩
  useful kind := by
    rw [h.useful]
    rcases tracked_clear m p kind with heq | heq
    · rw [heq]
    · rw [heq, List.filter_filter]
      refine List.filter_congr fun r _ => ?_
      cases hr : p.isInit r with
      | false => rfl
      | true => rw [kept.isUsable hr]; rfl
  made r hr := by
    refine h.made r (hr.imp_left fun tracks => ?_)
    rw [tracks_iff] at tracks ⊢
    rcases tracked_clear m p r.kind with heq | heq
    · exact heq ▸ tracks
    · exact (List.mem_filter.1 (heq ▸ tracks)).1

end Manager

/-! ## Sessions -/

/-- Two answers that differ at most in what managers track: in their number, in the registries of a
manager and in the texts of these. -/
inductive Reply.Same : Reply d → Reply d → Prop
  | refl (r : Reply d) : Same r r
  | counts (c c' : TrackedCounts) : Same (.counts c) (.counts c')
  | managerState (m : Manager d) (s a t : Registry Nat) (x y z x' y' z' : String) :
    Same (.managerState m (m.portrait x y z))
      (.managerState { m with sequences := s, algorithms := a, tensors := t } (m.portrait x' y' z'))

/-- Managers that are akin, and counts in the log. -/
def Likeness.bookkeeping (d : Driver) : Likeness d where
  Rel := Env.Agree Record.uncounted
  Kin := Manager.Akin
  Same := Reply.Same
  kin h := h.kin
  grows h := h.of_grows
  enroll h := h.enroll
  destroy h := h.destroy
  refl := .refl
  counts _ := .counts _ _
  managerState {_ _ m _} h _ := by
    obtain ⟨s, a, t, rfl⟩ := h.rest
    rw [Manager.debug_eq, Manager.debug_eq]
    exact .managerState m s a t ..

end GpuCompute
