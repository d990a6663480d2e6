import GpuCompute.Proofs.Backing
import GpuCompute.Proofs.Settlement

/-!
# Which algorithms are made

A manager has the driver make a pipeline for tensors exactly if there is a module, there are tensors, no
tensor stands among them twice, the workgroup has no zero and every tensor has its buffer
(`Algorithm.Allowed`). Then the pipeline has one binding for each tensor, in the order of the tensors, by the
buffer, the descriptor type and the size that the tensor has at that time, and since tensors do not share
buffers, no buffer is bound twice. Nothing is left out on the way, although the bindings are gathered
from what the slots hold (`Session.algorithms_accepted`).
-/

namespace GpuCompute

variable {d : Driver}

/-! ## Requests -/

/-- There is no first repetition where nothing is repeated. -/
theorem firstRepeat?_eq_none {l : List Nat} : firstRepeat? l = none ↔ l.Nodup := by
  rw [firstRepeat?, Option.map_eq_none_iff, List.find?_eq_none, List.Nodup, List.pairwise_iff_getElem]
  constructor
  · intro fresh i j hi hj hij same
    refine fresh (l[j], j) (List.mk_mem_zipIdx_iff_getElem?.2 (List.getElem?_eq_getElem hj)) ?_
    rw [List.contains_iff_mem, List.mem_take_iff_getElem]
    exact ⟨i, by omega, same⟩
  · rintro apart ⟨a, j⟩ hmem again
    obtain ⟨hj, rfl⟩ := List.getElem?_eq_some_iff.1 (List.mk_mem_zipIdx_iff_getElem?.1 hmem)
    rw [List.contains_iff_mem, List.mem_take_iff_getElem] at again
    obtain ⟨i, hi, same⟩ := again
    exact apart i j (by omega) hj (by omega) same

namespace Algorithm

variable {find? : Nat → Option (Tensor d)} {tensors : List Nat} {code : List UInt32}
  {workgroup : Extent} {pushConstants : List UInt8}

theorem exists_guards (h : ∀ i ∈ tensors, ∃ t, find? i = some t ∧ t.isInit) (position : Nat) :
    ∃ guards, Algorithm.guards find? position tensors = .ok guards := by
  induction tensors generalizing position with
  | nil => exact ⟨[], rfl⟩
  | cons i tensors ih =>
    obtain ⟨t, ht, hinit⟩ := h i List.mem_cons_self
    obtain ⟨buffer, hbuffer⟩ := Option.isSome_iff_exists.1 hinit
    obtain ⟨guards, hguards⟩ := ih (fun j hj => h j (List.mem_cons_of_mem _ hj)) (position + 1)
    refine ⟨some buffer :: guards, ?_⟩
    unfold Algorithm.guards
    simp only [ht, Option.bind_some, hbuffer, hguards]
    rfl

theorem isInit_of_guards {position : Nat} {guards : List (Option d.Buffer)}
    (h : Algorithm.guards find? position tensors = .ok guards) :
    ∀ i ∈ tensors, ∃ t, find? i = some t ∧ t.isInit := by
  intro i hi
  obtain ⟨k, hk, rfl⟩ := List.getElem_of_mem hi
  have all := Pool.forall₂_guards h
  obtain ⟨t, buffer, ht, hbuffer, -⟩ := all.get hk (all.length_eq ▸ hk)
  exact ⟨t, ht, Option.isSome_iff_exists.2 ⟨buffer, hbuffer⟩⟩

/-- What a pipeline can be made for. -/
structure Allowed (find? : Nat → Option (Tensor d)) (tensors : List Nat) (code : List UInt32)
    (workgroup : Extent) : Prop where
  code_ne : code ≠ []
  tensors_ne : tensors ≠ []
  nodup : tensors.Nodup
  sizes_ne : ∀ n ∈ workgroup.toList, n ≠ 0
  isInit : ∀ i ∈ tensors, ∃ t, find? i = some t ∧ t.isInit

theorem request_of_allowed (h : Allowed find? tensors code workgroup) (pushConstants : List UInt8) :
    ∃ guards, Algorithm.request find? tensors code workgroup pushConstants =
      .ok ⟨code, Algorithm.bindings find? guards tensors, .ofNat pushConstants.length⟩ := by
  obtain ⟨guards, hguards⟩ := exists_guards h.isInit 0
  have sizes : workgroup.toList.contains 0 = false := by
    simpa using fun zero => h.sizes_ne 0 zero rfl
  refine ⟨guards, ?_⟩
  rw [request, if_neg (by simpa using h.code_ne), if_neg (by simpa using h.tensors_ne),
    firstRepeat?_eq_none.2 h.nodup]
  simp only [sizes, Bool.false_eq_true, if_false, hguards]
  rfl

theorem allowed_of_request {what : PipelineDescriptor d.Buffer}
    (h : Algorithm.request find? tensors code workgroup pushConstants = .ok what) :
    Allowed find? tensors code workgroup := by
  unfold request at h
  split at h
  · cases h
  · next hcode =>
    split at h
    · cases h
    · next htensors =>
      split at h
      · cases h
      · next fresh =>
        split at h
        · cases h
        · next sizes =>
          cases hguards : Algorithm.guards find? 0 tensors with
          | error fault => simp [hguards, Except.map] at h
          | ok guards =>
            refine ⟨by simpa using hcode, by simpa using htensors, firstRepeat?_eq_none.1 fresh, ?_,
              isInit_of_guards hguards⟩
            rintro n hn rfl
            exact sizes (List.contains_iff_mem.2 hn)

/-- A request that is not allowed is refused for one of the faults. -/
theorem request_of_not_allowed (h : ¬ Allowed find? tensors code workgroup)
    (pushConstants : List UInt8) :
    ∃ fault, Algorithm.request find? tensors code workgroup pushConstants = .error fault := by
  cases hr : request find? tensors code workgroup pushConstants with
  | error fault => exact ⟨fault, rfl⟩
  | ok what => exact absurd (allowed_of_request hr) h

/-- An algorithm keeps what it was asked for. -/
theorem create_ok {device : d.Device} {e e' : Env d.State} {a : Algorithm d}
    (h : Algorithm.create device find? tensors code workgroup pushConstants e = .ok a e') :
    ∃ pipeline, a = { tensors, workgroup, pushConstants, pipeline } := by
  obtain ⟨what, e₁, -, h⟩ := Attempt.bind_eq_ok.1 h
  obtain ⟨pipeline, e₂, -, h⟩ := Attempt.bind_eq_ok.1 h
  obtain ⟨_, e₃, -, h⟩ := Attempt.bind_eq_ok.1 h
  cases h
  exact ⟨_, rfl⟩

end Algorithm

namespace Manager

theorem algorithmWith_ok {m m' : Manager d} {p p' : Pool d} {tensors : List Nat} {code : List UInt32}
    {workgroup : Extent} {pushConstants : List UInt8} {i : Nat}
    (h : m.algorithmWith tensors code workgroup pushConstants p = .ok (i, m') p') :
    ∃ pipeline, p'.algorithms[i]? = some { tensors, workgroup, pushConstants, pipeline } := by
  obtain ⟨device, p₁, live, h₁⟩ := Attempt.bind_eq_ok.1 h
  obtain ⟨_, p₂, added, h₂⟩ := Attempt.bind_eq_ok.1 h₁
  obtain ⟨-, rfl⟩ := Attempt.ofExcept_eq_ok.1 live
  cases h₂
  rw [Pool.addAlgorithm, Attempt.get_bind] at added
  obtain ⟨a, p₃, h₃, h⟩ := Attempt.bind_eq_ok.1 added
  obtain ⟨e, made, rfl⟩ := Attempt.within_eq_ok.1 h₃
  obtain ⟨pipeline, rfl⟩ := Algorithm.create_ok made
  cases h
  exact ⟨pipeline, List.getElem?_concat_length⟩

end Manager

/-! ## Operations -/

namespace Session

open Trace Recorder

variable {s : Session d.recorded} {numbers : List Nat} {code : List UInt32} {workgroup : Extent}
  {pushConstants : List UInt8}

/-- A pipeline for tensors: one binding for each of them, in order, no buffer twice, and room for the
push constants. -/
structure Lays (s : Session d.recorded) (numbers : List Nat) (code : List UInt32)
    (pushConstants : List UInt8) (what : PipelineDescriptor Nat) : Prop where
  code : what.code = code
  bindings : List.Forall₂ (fun i b => ∃ t buffer, s.pool.tensors[i]? = some t ∧
    t.buffer.object = some buffer ∧ b = ⟨buffer.id, t.descriptorType, t.memorySize⟩) numbers what.bindings
  apart : (what.bindings.map (·.buffer)).Nodup
  pushConstantSize : what.pushConstantSize.toNat = pushConstants.length

/-- Different tensors are bound by different buffers. -/
theorem nodup_buffers {births : List Nat} (backed : s.Backed births) (once : numbers.Nodup)
    {bindings : List (Binding Nat)}
    (h : List.Forall₂ (fun i b => ∃ t buffer, s.pool.tensors[i]? = some t ∧
      t.buffer.object = some buffer ∧ b = ⟨buffer.id, t.descriptorType, t.memorySize⟩) numbers bindings) :
    (bindings.map (·.buffer)).Nodup := by
  refine List.pairwise_iff_getElem.2 fun k l hk hl hkl same => ?_
  rw [List.length_map] at hk hl
  rw [List.getElem_map, List.getElem_map] at same
  obtain ⟨t, b, ht, hb, hk'⟩ := h.get (h.length_eq ▸ hk) hk
  obtain ⟨t', b', ht', hb', hl'⟩ := h.get (h.length_eq ▸ hl) hl
  rw [List.get_eq_getElem] at hk' hl'
  rw [hk', hl'] at same
  exact List.pairwise_iff_getElem.1 once k l _ _ hkl (backed.eq_of_id_eq ht ht' hb hb' same)

theorem lays_of_request {births : List Nat} (backed : s.Backed births)
    (short : pushConstants.length < UInt32.size) {what : PipelineDescriptor d.recorded.Buffer}
    (h : Algorithm.request (fun i => s.pool.tensors[i]?) numbers code workgroup pushConstants = .ok what) :
    s.Lays numbers code pushConstants (Recorder.numbers what) := by
  have allowed := Algorithm.allowed_of_request h
  have bound := Pool.forall₂_request h
  obtain ⟨guards, hwhat⟩ := Algorithm.request_of_allowed allowed pushConstants
  have all : List.Forall₂ (fun i b => ∃ t buffer, s.pool.tensors[i]? = some t ∧
      t.buffer.object = some buffer ∧ b = ⟨buffer.id, t.descriptorType, t.memorySize⟩) numbers
      (Recorder.numbers what).bindings := by
    refine List.forall₂_map_right_iff.2 (bound.imp fun i b hb => ?_)
    obtain ⟨t, ht, hbinding⟩ := Option.bind_eq_some_iff.1 hb
    obtain ⟨buffer, hbuffer, rfl⟩ := Option.map_eq_some_iff.1 hbinding
    exact ⟨t, buffer, ht, hbuffer, rfl⟩
  cases h.symm.trans hwhat
  refine ⟨rfl, all, nodup_buffers backed allowed.nodup all, ?_⟩
  exact UInt32.toNat_ofNat_of_lt short

/-- What is held under the name after an algorithm was made. -/
theorem holds_algorithm {s s' : Session d} {n name : String} {names : List String} {m : Manager d}
    {reply : Reply d} (hm : s.managers.lookup n = some m) (hnumbers : s.tensorNumbers names = .ok numbers)
    (h : step (.algorithmWith n name names code workgroup pushConstants) s = .ok reply s') :
    ∃ i pipeline, s'.pool.find? name = some (.algorithm i) ∧
      s'.pool.algorithms[i]? = some { tensors := numbers, workgroup, pushConstants, pipeline } := by
  have hfactory : s.factory? (.algorithmWith n name names code workgroup pushConstants) =
      some (n, name, .algorithmWith numbers code workgroup pushConstants) := by
    simp [factory?, hnumbers, Except.toOption]
  rw [step_of_factory? hfactory] at h
  cases made : m.algorithmWith numbers code workgroup pushConstants s.pool with
  | error error p =>
    rw [addResource_error hm made] at h
    cases h
  | ok result p =>
    obtain ⟨i, m'⟩ := result
    obtain ⟨pipeline, hi⟩ := Manager.algorithmWith_ok made
    rw [addResource_ok hm made] at h
    cases h
    obtain ⟨⟨_, _, _, pipeline'⟩, hi', same⟩ := (Pool.lasts_hold name (.algorithm i) p).algorithm hi
    obtain ⟨rfl, rfl, rfl⟩ := same
    exact ⟨i, pipeline', find?_hold name _ p, hi'⟩

/-- **An algorithm is made exactly if the request is allowed**, with all its tensors bound in order. After
any run a manager that is not torn down either refuses without a call, or asks once for the pipeline. If the
driver makes it, a name holds an algorithm of these tensors, with the workgroup and the push constants. -/
theorem algorithms_accepted (inner : d.State) (ops : List Operation) {n name : String}
    {names : List String} {m : Manager d.recorded} {device : Ownership d.recorded.Device}
    {numbers : List Nat} {pushConstants : List UInt8}
    (hm : (recordedRun inner ops).managers.lookup n = some m) (hd : m.device = some device)
    (hnumbers : (recordedRun inner ops).tensorNumbers names = .ok numbers)
    (short : pushConstants.length < UInt32.size) (code : List UInt32) (workgroup : Extent) :
    let s := recordedRun inner ops
    let o := .algorithmWith n name names code workgroup pushConstants
    (¬ Algorithm.Allowed (fun i => s.pool.tensors[i]?) numbers code workgroup →
      ∃ fault s', step o s = .error (.invalidState fault) s' ∧ s'.trace = s.trace) ∧
    (Algorithm.Allowed (fun i => s.pool.tensors[i]?) numbers code workgroup →
      ∃ what, s.Lays numbers code pushConstants what ∧
        ((∃ s' T i pipeline, step o s = .ok .created s' ∧ Discards T ∧
          s'.trace = s.trace ++ ⟨.create device.handle.id (.pipeline what), true⟩ :: T ∧
          s'.pool.find? name = some (.algorithm i) ∧
          s'.pool.algorithms[i]? = some { tensors := numbers, workgroup, pushConstants, pipeline }) ∨
        ∃ error s', step o s = .error error s' ∧
          s'.trace = s.trace ++ [⟨.create device.handle.id (.pipeline what), false⟩])) := by
  intro s o
  have hrequest : s.request? o = some (m.algorithmRequest s.pool numbers code workgroup pushConstants) := by
    simp [o, request?, s, hm, hnumbers, Except.toOption]
  have live : m.liveDevice = .ok device.handle := by
    unfold Manager.liveDevice
    rw [hd]
  constructor
  · intro refused
    obtain ⟨fault, h⟩ := Algorithm.request_of_not_allowed refused pushConstants
    have asked : m.algorithmRequest s.pool numbers code workgroup pushConstants =
        .error (.invalidState fault) := by
      rw [Manager.algorithmRequest, live, h]
      rfl
    obtain ⟨s', hstep, same⟩ := step_of_refused (hrequest.trans (congrArg some asked))
    exact ⟨fault, s', hstep, congrArg (·.trace) same⟩
  · intro allowed
    obtain ⟨guards, h⟩ := Algorithm.request_of_allowed allowed pushConstants
    obtain ⟨births, backed⟩ := backed_recordedRun inner ops
    have asked := hrequest
    rw [Manager.algorithmRequest, live, h] at asked
    refine ⟨_, lays_of_request backed short h, ?_⟩
    rcases step_of_request asked with ⟨s', T, hstep, discards, trace⟩ | failed
    · obtain ⟨i, pipeline, hname, hi⟩ := holds_algorithm hm hnumbers hstep
      exact .inl ⟨s', T, i, pipeline, hstep, discards, trace, hname, hi⟩
    · exact .inr failed

/-- Two tensors, one of which has two names. -/
def sharedTensors : List Operation :=
  [.createManager "m" {} {}, .tensorOfBytes "m" "a" [1, 2, 3, 4] 1 4 .int,
    .tensorOfBytes "m" "b" [5, 6] 2 1 .bool, .setDescriptorType "a" 6, .share "c" "a"]

theorem algorithms_accepted_sharedTensors :
    let s := recordedRun computing sharedTensors
    (∃ s' i pipeline, step (.algorithmWith "m" "x" ["b", "a"] [1] ⟨4, 2, 1⟩ [7]) s = .ok .created s' ∧
      s'.trace = s.trace ++
        [⟨.create 6 (.pipeline ⟨[1], [⟨9, .storageBuffer, 2⟩, ⟨8, 6, 4⟩], 1⟩), true⟩] ∧
      s'.pool.find? "x" = some (.algorithm i) ∧
      s'.pool.algorithms[i]? = some ⟨[1, 0], ⟨4, 2, 1⟩, [7], pipeline⟩) ∧
    ∃ fault s', step (.algorithmWith "m" "x" ["a", "b", "c"] [1] ⟨4, 2, 1⟩ [7]) s =
      .error (.invalidState fault) s' ∧ s'.trace = s.trace := by
  intro s
  obtain ⟨m, device, hm, hd⟩ : ∃ m device, s.managers.lookup "m" = some m ∧ m.device = some device :=
    ⟨_, _, rfl, rfl⟩
  have accepted := (@algorithms_accepted _ computing sharedTensors "m" "x" ["b", "a"] m device [1, 0] [7]
    hm hd rfl (by decide) [1] ⟨4, 2, 1⟩).2
  have refused := (@algorithms_accepted _ computing sharedTensors "m" "x" ["a", "b", "c"] m device
    [0, 1, 0] [7] hm hd rfl (by decide) [1] ⟨4, 2, 1⟩).1
  have init : ∀ i ∈ [1, 0], ∃ t, s.pool.tensors[i]? = some t ∧ t.isInit :=
    List.forall_mem_cons.2 ⟨⟨_, rfl, rfl⟩, List.forall_mem_singleton.2 ⟨_, rfl, rfl⟩⟩
  have calls : ((step (.algorithmWith "m" "x" ["b", "a"] [1] ⟨4, 2, 1⟩ [7])).after s).trace = s.trace ++
    [⟨.create 6 (.pipeline ⟨[1], [⟨9, .storageBuffer, 2⟩, ⟨8, 6, 4⟩], 1⟩), true⟩] := rfl
  refine ⟨?_, refused fun allowed => absurd allowed.nodup (by decide)⟩
  obtain ⟨what, -, ⟨s', _, i, pipeline, hstep, -, -, hname, hi⟩ | ⟨error, s', hstep, trace⟩⟩ :=
    accepted ⟨by simp, by simp, by decide, by simp [Extent.toList], init⟩
  · rw [Attempt.after_of_ok hstep] at calls
    exact ⟨s', i, pipeline, hstep, calls, hname, hi⟩
  · rw [Attempt.after_of_error hstep, trace] at calls
    simp at calls

end Session

end GpuCompute
