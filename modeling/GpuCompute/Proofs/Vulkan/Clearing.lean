import GpuCompute.Proofs.Clearing
import GpuCompute.Proofs.Vulkan.Managers
import GpuCompute.Proofs.Vulkan.Obliviousness

/-!
# Clearing is not noticed on the Vulkan driver

What else can be asked of the Vulkan driver does not notice that managers were cleared either, so here,
too, runs that only differ in this make the same calls of the API (`Vulkan.clear_unseen`).
-/

namespace GpuCompute.Vulkan

open Attempt (Alike)
open Session (Agree Indistinct recordedStart recordedRun)

variable {M : MemoryLibrary} {s t : Session (driverOn M)} {o : Operation}

/-- Two answers that differ at most in what managers track. -/
inductive Reply.Same : Reply M → Reply M → Prop
  | common {r r' : GpuCompute.Reply (driverOn M)} (h : GpuCompute.Reply.Same r r') :
    Same (.common r) (.common r')
  | refl (r : Reply M) : Same r r

/-- Whether an operation does anything but to clear a manager. -/
def seen : Operation → Bool
  | .common o => Session.seen o
  | _ => true

/-! ## Operations -/

theorem ends_common {act : Attempt (Session (driverOn M)) (GpuCompute.Reply (driverOn M))}
    (h : Session.Matches s t act act) :
    Attempt.Ends Agree Reply.Same ((Reply.common <$> act) s) ((Reply.common <$> act) t) := by
  unfold Session.Matches Likeness.Matches at h
  simp only [Functor.map, EStateM.map]
  generalize act s = r, act t = r' at h
  cases h with
  | ok value state => exact .ok (.common value) state
  | error state => exact .error state

theorem oblivious_fire (c : Diagnostics.CallbackCall) : Act.Oblivious (fire (M := M) c) := by
  refine .get_bind (fun e => ?_) fun _ _ h => by rw [h]
  cases e.driver.api.callback? c.mechanism with
  | none => exact .pure _
  | some _ =>
    exact .bind (.ofState (fun _ _ _ => rfl) (Env.oblivious_write c.record)) fun _ => .pure _

theorem alike_step (ho : seen o) : Alike Agree Reply.Same (step (M := M) o) (step o) := by
  intro s t h
  cases o with
  | common o => exact ends_common (Session.matches_step oblivious h ho)
  | setScript rules => exact .ok (.refl _) (h.onEnv (Env.oblivious_onDriver _).respects)
  | createFromEnvironment n environment selection =>
    exact ends_common (Session.matches_addManager oblivious h
      (Manager.respects_create oblivious.respects _ selection) fun made => (Manager.create_ok made).new)
  | borrowRaw n inst device adapter families config =>
    refine ends_common <| Likeness.matches_withInstance h fun i _ =>
      Likeness.matches_withDevice h fun x _ =>
        Session.matches_addManager oblivious h (respects_borrowRaw oblivious.respects
          (fun i a x => (oblivious_wrapDevice i a x).respects) config i adapter _ families)
          fun made => ?_
    obtain ⟨x, e₁, -, borrows⟩ := borrowRaw_ok made
    exact borrows.new
  | fire c =>
    exact (Likeness.ends_run h (oblivious_fire c).respects).mono (fun _ _ same => same ▸ .refl _)
      fun _ _ => id
  | describeObject name =>
    have same : describeObject name t = describeObject name s := by
      obtain ⟨-, -⟩ := h
      rfl
    change Attempt.Ends _ _ (.ok (describeObject name s) s) (.ok (describeObject name t) t)
    rw [same]
    exact .ok (.refl _) h
  | describeDriver => exact .ok (.refl _) h

/-! ## Runs -/

theorem unseen_clear : Attempt.Unseen (step (M := M)) seen Session.Sound Agree Reply.Same where
  lasts o _ hs := ⟨named_step hs.named o, kept_step hs.named hs.kept o⟩
  alike _ ho := alike_step ho
  left o s t ho hs h := by
    match o, ho with
    | .common (.clear n), _ =>
      rw [after_common]
      exact h.clear hs.named hs.kept n
  right o s t ho ht h := by
    match o, ho with
    | .common (.clear n), _ =>
      rw [after_common]
      exact (h.symm.clear ht.named ht.kept n).symm

/-- What the operations of a run answer that do not clear a manager. -/
def answers (ops : List Operation) (s : Session (driverOn M)) : List (Except Error (Reply M)) :=
  Attempt.answers step seen ops s

/-- **Clearing is not noticed.** Let two runs be the same but for operations that clear managers, on any
driver that does not look at the log. Then the driver is asked for the same, and the same resources are
destroyed; all other operations are answered in the same way, up to what managers track; and the logs are
the same up to numbers of tracked resources. It stays so when the session comes to its end. On the Vulkan
driver the same is true of all that it can be asked besides, and of the calls of the API. -/
theorem clear_unseen :
    (∀ (d : Driver), d.Oblivious → ∀ (driver : d.State) (ops ops' : List GpuCompute.Operation),
      ops.filter Session.seen = ops'.filter Session.seen →
      let s := recordedRun driver ops
      let s' := recordedRun driver ops'
      s'.trace = s.trace ∧ s'.finish.trace = s.finish.trace ∧
      s.Indistinct s' ∧ s.finish.Indistinct s'.finish ∧
      List.Forall₂ (Attempt.Answers GpuCompute.Reply.Same)
        (Session.answers ops (recordedStart driver)) (Session.answers ops' (recordedStart driver))) ∧
    ∀ (M : MemoryLibrary) (host : Host) (rules : Rules) (ops ops' : List Operation),
      ops.filter seen = ops'.filter seen →
      let s := run ops (start (M := M) host rules)
      let s' := run ops' (start (M := M) host rules)
      trace s' = trace s ∧ trace s'.finish = trace s.finish ∧
      s.Indistinct s' ∧ s.finish.Indistinct s'.finish ∧
      List.Forall₂ (Attempt.Answers Reply.Same)
        (answers ops (start (M := M) host rules)) (answers ops' (start host rules)) := by
  refine ⟨fun d hd driver ops ops' same => ?_, fun M host rules ops ops' same => ?_⟩
  · obtain ⟨now, last, answers⟩ := Session.indistinct_steps hd.recorded ⟨driver, [], []⟩ same
    exact ⟨congrArg Recorder.trace now.driver, congrArg Recorder.trace last.driver, now, last, answers⟩
  · have sound : (start (M := M) host rules).Sound := Session.sound_start _
    obtain ⟨agree, answers⟩ := unseen_clear.runs_answers sound sound (Session.agree_start _) same
    have now := agree.indistinct
    have last := (agree.finish oblivious).indistinct
    exact ⟨congrArg (fun x : State => x.api.trace) now.driver,
      congrArg (fun x : State => x.api.trace) last.driver, now, last, answers⟩

/-- A manager makes two tensors, of which one is let go of. -/
def untidied : List GpuCompute.Operation :=
  [.createManager "manager" {} {}, .tensorOfBytes "manager" "kept" [1, 2, 3, 4] 1 4 .int,
    .tensorOfBytes "manager" "gone" [1, 2, 3, 4] 1 4 .int, .drop "gone"]

/-- The same with the manager cleared in between and at last. -/
def tidied : List GpuCompute.Operation :=
  [.createManager "manager" {} {}, .tensorOfBytes "manager" "kept" [1, 2, 3, 4] 1 4 .int,
    .clear "manager", .tensorOfBytes "manager" "gone" [1, 2, 3, 4] 1 4 .int, .drop "gone",
    .clear "manager"]

/-- The manager then tracks one tensor or two, but at the end the same calls have been made. -/
theorem clear_unseen_tidied :
    untidied.filter Session.seen = tidied.filter Session.seen ∧
    ((recordedRun Session.computing untidied).managers.lookup "manager").map (·.trackedCounts) =
      some ⟨0, 0, 2⟩ ∧
    ((recordedRun Session.computing tidied).managers.lookup "manager").map (·.trackedCounts) =
      some ⟨0, 0, 1⟩ ∧
    (recordedRun Session.computing tidied).finish.trace =
      (recordedRun Session.computing untidied).finish.trace :=
  ⟨rfl, rfl, rfl,
    (clear_unseen.1 InMemory.driver InMemory.oblivious Session.computing untidied tidied rfl).2.1⟩

end GpuCompute.Vulkan
