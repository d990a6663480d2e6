import GpuCompute.Proofs.Requests
import GpuCompute.Proofs.Roster
import GpuCompute.Proofs.Settlement

/-!
# What pipelines bind

A pipeline binds one buffer for each tensor of its algorithm, and these are there: they were made, on the
devices of their tensors, and are not destroyed (`Session.pipeline_bindings`). If one of them is not, the
operation is refused before the driver is asked. Whether the device of a tensor is that of the pipeline
is not checked: it is, for the tensors that the same manager has made, but a manager that is given the
tensors of another one binds them all the same.
-/

namespace GpuCompute

open Trace Recorder

variable {d : Driver} {life : d.Lifetimes}

/-! ## Bindings of a request -/

namespace Manager

variable {m : Manager d} {p : Pool d} {tensors : List Nat}

/-- What a manager asks for to bind some tensors: it refuses, or asks for a pipeline on its own device
that binds the buffers of the tensors. -/
inductive Binds (m : Manager d) (p : Pool d) (tensors : List Nat) :
    Except Error (d.Device × Order d) → Prop
  | refused (fault : StateFault) : Binds m p tensors (.error (.invalidState fault))
  | asked {device : Ownership d.Device} {what : PipelineDescriptor d.Buffer}
    (hd : m.device = some device)
    (bindings : List.Forall₂ (fun i b => (p.tensors[i]?).bind Tensor.binding? = some b) tensors
      what.bindings) : Binds m p tensors (.ok (device.handle, .pipeline what))

theorem binds_algorithmRequest (m : Manager d) (p : Pool d) (tensors : List Nat) (code : List UInt32)
    (workgroup : Extent) (pushConstants : List UInt8) :
    m.Binds p tensors (m.algorithmRequest p tensors code workgroup pushConstants) := by
  unfold algorithmRequest liveDevice
  cases hd : m.device with
  | none => exact .refused _
  | some device =>
    cases h : Algorithm.request (fun i => p.tensors[i]?) tensors code workgroup pushConstants with
    | error fault => exact .refused fault
    | ok what => exact .asked hd (Pool.forall₂_request h)

theorem binds_defaultRequest (m : Manager d) (p : Pool d) (tensors : List Nat) (code : List UInt32) :
    m.Binds p tensors (m.defaultRequest p tensors code) := by
  unfold defaultRequest Algorithm.defaultWorkgroup
  split
  · exact m.binds_algorithmRequest p tensors code _ _
  · exact .refused _

end Manager

namespace Session

open Manager

variable {o : Operation} {n : String} {names : List String} {numbers : List Nat}

theorem binds_request {s : Session d} {m : Manager d} (ho : binding? o = some (n, names))
    (hm : s.managers.lookup n = some m) (hnumbers : s.tensorNumbers names = .ok numbers) :
    ∃ v, s.request? o = some v ∧ m.Binds s.pool numbers v := by
  cases o with
  | algorithm _ name tensors code =>
    cases ho
    have request : s.request? (.algorithm n name names code) =
        some (m.defaultRequest s.pool numbers code) := by
      simp [request?, hm, hnumbers, Except.toOption]
    exact ⟨_, request, m.binds_defaultRequest ..⟩
  | algorithmWith _ name tensors code workgroup pushConstants =>
    cases ho
    have request : s.request? (.algorithmWith n name names code workgroup pushConstants) =
        some (m.algorithmRequest s.pool numbers code workgroup pushConstants) := by
      simp [request?, hm, hnumbers, Except.toOption]
    exact ⟨_, request, m.binds_algorithmRequest ..⟩
  | _ => cases ho

/-! ## Bindings of a run -/

/-- A buffer of a tensor is there: it was made, on the device of the tensor, and not destroyed. -/
structure Present (s : Session d.recorded) (i buffer : Nat)
    (slot : Slot d.recorded (Object d.recorded)) : Prop where
  found : s.pool.slot? (.tensor i) = some slot
  object : ∃ x, slot.object = some x ∧ x.id = buffer
  made : Made s.trace .buffer slot.device.id buffer
  kept : ¬ Destroyed s.trace .buffer buffer

theorem present_of_binding {s : Session d.recorded} (account : s.pool.Accounted life) {i : Nat}
    {b : Binding d.recorded.Buffer} (h : (s.pool.tensors[i]?).bind Tensor.binding? = some b) :
    ∃ slot, s.Present i b.buffer.id slot := by
  obtain ⟨t, ht, hb⟩ := Option.bind_eq_some_iff.1 h
  obtain ⟨buffer, hbuffer, rfl⟩ := Option.map_eq_some_iff.1 hb
  have hslot : s.pool.slot? (.tensor i) = some (t.buffer.as .buffer) := by simp [Pool.slot?, ht]
  have hobject : (t.buffer.as .buffer).object = some (.buffer buffer) := by simp [hbuffer]
  exact ⟨_, hslot, ⟨_, hobject, rfl⟩, account.made hslot hobject, account.present hslot hobject⟩

/-- **Pipelines bind buffers that are there.** After any run, an operation that is to make an algorithm of
tensors is refused without a call, or it asks once for a pipeline on the device of its manager. This binds
one buffer for each of the tensors, in order, which was made on the device of the tensor and was not
destroyed; if the manager has made the tensor, its device is that of the pipeline. -/
theorem pipeline_bindings (life : d.Lifetimes) {inner : d.State} (sound : life.Sound inner)
    {ops : List Operation} (hplain : ∀ c, .call c ∈ ops → plain c) :
    let s := recordedRun inner ops
    ∀ o n names m numbers, binding? o = some (n, names) → s.managers.lookup n = some m →
      s.tensorNumbers names = .ok numbers →
      (∃ fault s', step o s = .error (.invalidState fault) s' ∧ s'.trace = s.trace) ∨
      ∃ device what succeeded T, m.device = some device ∧ Discards T ∧
        ((step o).after s).trace =
          s.trace ++ ⟨.create device.handle.id (.pipeline what), succeeded⟩ :: T ∧
        List.Forall₂ (fun i b => ∃ slot, s.Present i b.buffer slot ∧
          (.tensor i ∈ created n ops (recordedStart inner) → slot.device = device.handle))
          numbers what.bindings := by
  intro s o n names m numbers ho hm hnumbers
  have account : s.Accounted life := accounted_recordedRun sound hplain
  have roster := (enrolled_steps n _ ops).roster hm
  obtain ⟨v, hv, binds⟩ := binds_request ho hm hnumbers
  cases binds with
  | refused fault =>
    obtain ⟨s', hstep, hdriver⟩ := step_of_refused hv
    exact .inl ⟨fault, s', hstep, congrArg (·.trace) hdriver⟩
  | @asked device what hd bindings =>
    have present : List.Forall₂ (fun i b => ∃ slot, s.Present i b.buffer slot ∧
        (.tensor i ∈ created n ops (recordedStart inner) → slot.device = device.handle))
        numbers (Recorder.numbers what).bindings := by
      refine List.forall₂_map_right_iff.2 (bindings.imp fun i b hb => ?_)
      obtain ⟨slot, present⟩ := present_of_binding account.pool hb
      refine ⟨slot, present, fun mine => ?_⟩
      obtain ⟨slot', hslot, on⟩ := roster.placed _ mine
      cases present.found.symm.trans hslot
      exact on device hd
    right
    rcases step_of_request hv with ⟨s', T, hstep, discards, trace⟩ | ⟨error, s', hstep, trace⟩
    · exact ⟨device, _, true, T, hd, discards, Attempt.after_of_ok hstep ▸ trace, present⟩
    · exact ⟨device, _, false, [], hd, nofun, Attempt.after_of_error hstep ▸ trace, present⟩

/-- Two managers with a device each, and a tensor on each of the devices. -/
def twoDevices : List Operation :=
  [.createManager "first" {} {}, .createManager "second" {} {},
    .tensorOfBytes "first" "foreign" [1, 2, 3, 4] 1 4 .int,
    .tensorOfBytes "second" "own" [1, 2, 3, 4] 1 4 .int]

/-- The second manager is given both tensors. -/
def bindBoth : Operation := .algorithm "second" "algorithm" ["foreign", "own"] [1]

theorem pipeline_bindings_twoDevices :
    let s := recordedRun computing twoDevices
    ∃ foreign own,
      ((step bindBoth).after s).trace = s.trace ++ [⟨.create 14 (.pipeline
        ⟨[1], [⟨foreign, .storageBuffer, 4⟩, ⟨own, .storageBuffer, 4⟩], 0⟩), true⟩] ∧
      (∃ device, Made s.trace .buffer device foreign ∧ ¬ Destroyed s.trace .buffer foreign) ∧
      Made s.trace .buffer 14 own ∧ ¬ Destroyed s.trace .buffer own := by
  intro s
  have sound : InMemory.lifetimes.Sound computing := nofun
  have hplain : ∀ c, .call c ∈ twoDevices → plain c := by
    intro c hc
    simp [twoDevices] at hc
  obtain ⟨m, device, hm, hd, id⟩ : ∃ m device, s.managers.lookup "second" = some m ∧
    m.device = some device ∧ device.handle.id = 14 := ⟨_, _, rfl, rfl, rfl⟩
  have mine : created "second" twoDevices (recordedStart computing) = [.tensor 1] := rfl
  have calls : ((step bindBoth).after s).trace = s.trace ++ [⟨.create 14 (.pipeline
    ⟨[1], [⟨16, .storageBuffer, 4⟩, ⟨17, .storageBuffer, 4⟩], 0⟩), true⟩] := rfl
  rcases pipeline_bindings InMemory.lifetimes sound hplain bindBoth "second" ["foreign", "own"] m
    [0, 1] rfl hm rfl with ⟨fault, s', hstep, same⟩ | ⟨device', what, succeeded, T, hd', -, trace, all⟩
  · rw [Attempt.after_of_error hstep, same] at calls
    cases List.self_eq_append_right.1 calls
  · cases hd.symm.trans hd'
    have event := List.append_cancel_left (calls.symm.trans trace)
    simp only [List.cons.injEq, Event.mk.injEq, Request.create.injEq, Creation.pipeline.injEq] at event
    obtain ⟨⟨⟨-, rfl⟩, -⟩, -⟩ := event
    obtain ⟨⟨_, there, -⟩, rest⟩ := List.forall₂_cons.1 all
    obtain ⟨⟨slot, there', on⟩, -⟩ := List.forall₂_cons.1 rest
    have place : slot.device.id = 14 := by rw [on (mine ▸ List.mem_singleton.2 rfl), id]
    exact ⟨16, 17, calls, ⟨_, there.made, there.kept⟩, place ▸ there'.made, there'.kept⟩

/-- A buffer may be on another device than the pipeline that binds it: this is not refused. -/
theorem foreign_binding :
    let s := recordedRun computing twoDevices
    ∃ s', step (.algorithm "second" "algorithm" ["foreign"] [1]) s = .ok .created s' ∧
      s'.trace = s.trace ++
        [⟨.create 14 (.pipeline ⟨[1], [⟨16, .storageBuffer, 4⟩], 0⟩), true⟩] ∧
      Made s.trace .buffer 6 16 ∧ ¬ Made s.trace .buffer 14 16 := by
  intro s
  have made : Made s.trace .buffer 6 16 := ⟨.buffer 4 0x33, rfl, rfl⟩
  exact ⟨_, rfl, rfl, made, fun other => absurd (made.unique other).2 (by decide)⟩

end Session

end GpuCompute
