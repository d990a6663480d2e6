import GpuCompute.Proofs.Acceptance
import GpuCompute.Proofs.Vulkan.Descriptors
import GpuCompute.Proofs.Vulkan.Owners

/-!
# Sizes of buffers

The size of a tensor is counted three times: when its bytes are checked, in 64 bits when it is bound, and
by the API, for which a buffer has at least one byte. All counts agree, whatever the numbers are, and stay
so when elements are stored: a buffer is made with as many bytes as its tensor has, and where it is bound
it is bound as a whole (`sizes_exact`).
-/

namespace GpuCompute.Vulkan

open Session

variable {M : MemoryLibrary} {s s' : Session (driverOn M)} {e e' : Env State} {x : Device}
  {tr tr' : List Event}

/-! ## Calls -/

theorem prefix_of_issues [M.Lawful] (h : (complete M).Issues e e') :
    e.driver.api.trace <+: e'.driver.api.trace := by
  obtain ⟨-, events, trace, -, -⟩ := h
  exact ⟨events, trace.symm⟩

theorem made_reading (position : Nat) (l : List Event) :
    reading.made position l = l.filterMap Event.made? := by
  conv_rhs => rw [← List.zipIdx_map_fst position l, List.filterMap_map]
  rfl

/-- No two calls of a run have made the same. -/
theorem eq_of_made [M.Lawful] {host : Host} {rules : Rules} {ops : List Operation}
    {event event' : Event}
    (h : event ∈ trace (run ops (start (M := M) host rules)))
    (h' : event' ∈ trace (run ops (start (M := M) host rules)))
    {t : Thing} (ht : event.made? = some t) (ht' : event'.made? = some t) : event = event' := by
  have issues : (complete M).Issues (start (M := M) host rules).pool.env
      (run ops (start (M := M) host rules)).pool.env := lawful.issues_run (regular_start _) ops
  obtain ⟨-, events, same, nodup, -⟩ := issues
  obtain rfl : trace (run ops (start (M := M) host rules)) = events := same
  replace nodup : ((trace (run ops (start (M := M) host rules))).filterMap Event.made?).Nodup :=
    made_reading 0 _ ▸ nodup
  let Apart (event later : Event) : Prop := event.made? = some t → later.made? ≠ some t
  have : Std.Symm Apart := ⟨fun event later apart ht ht' => apart ht' ht⟩
  have apart : (trace (run ops (start (M := M) host rules))).Pairwise Apart :=
    (List.pairwise_filterMap.1 nodup).imp fun apart ht ht' => apart t ht t ht' rfl
  by_contra different
  exact apart.forall h h' different ht ht'

/-- A request is passed on, and then something may be destroyed. -/
theorem after_request [M.Lawful] {o : GpuCompute.Operation} {order : Order (driverOn M)}
    (h : s.request? o = some (.ok (x, order))) : ∃ e₁ : Env (driverOn M).State,
      e₁.driver = s.pool.env.driver ∧
      CallsApi Request.Discards (((driverOn M).make x order).after e₁)
        ((Session.step o).after s).pool.env := by
  obtain ⟨n, name, identify, make, m, hm, hstep, heeds⟩ := heeds_step h
  cases heeds with
  | @made _ _ e₁ e₂ object made p quiet hmake hact after =>
    obtain ⟨i, m'⟩ := made
    obtain ⟨q, destroys, env⟩ := destroys_hold name (identify i) p
    refine ⟨e₁, quiet, ?_⟩
    rw [Attempt.after_of_ok hmake, Attempt.after_of_ok (hstep.trans (addResource_ok hm hact))]
    have first : CallsApi Request.Discards e₂ p.env := .of_driver after
    change CallsApi Request.Discards e₂ (p.hold name (identify i)).env
    exact first.trans _ _ _ (env ▸ discards_of_destroys destroys)
  | @failed _ _ e₁ e₂ error p quiet hmake hact after =>
    refine ⟨e₁, quiet, ?_⟩
    rw [Attempt.after_of_error hmake, Attempt.after_of_error (hstep.trans (addResource_error hm hact))]
    exact .of_driver after

/-- Making a buffer is a call that asks for its size. -/
theorem createBuffer_ok [M.Lawful] {size : UInt64} {usage : UInt32} {b : Buffer}
    (h : createBuffer M x size usage e = .ok b e') :
    ⟨.create x.handle (.buffer (max size 1) usage 0), .made b.handle⟩ ∈ e'.driver.api.trace := by
  unfold createBuffer at h
  rw [Attempt.get_bind] at h
  split at h
  · cases h
  obtain ⟨handle, e₁, made, h⟩ := Attempt.bind_eq_ok.1 h
  rw [Attempt.modify_bind, Attempt.get_bind] at h
  obtain ⟨allocation, e₂, allocated, h⟩ := Attempt.bind_eq_ok.1 h
  obtain ⟨_, e₃, bound, h⟩ := Attempt.bind_eq_ok.1 h
  cases h
  obtain ⟨a, hmake, rfl⟩ := withApi_eq_ok.1 made
  have asks : Api.Calls (fun _ => True) a (a.call (.bufferRequirements x.handle handle)) :=
    .of_call trivial _
  have allocates := (callsApi_allocate x _).of_ok (Attempt.undoing_eq_ok.1 allocated)
  have binds : CallsApi (fun _ => True) e₂ e' :=
    (callsApi_withApi (Api.calls_check trivial _)).of_ok (Attempt.undoing_eq_ok.1 bound)
  have grows := (asks.prefix_trace.trans allocates.prefix_trace).trans binds.prefix_trace
  refine grows.subset ?_
  rw [(Api.make_ok hmake).trace]
  exact List.mem_append_right _ (List.mem_singleton.2 rfl)

/-! ## Tensors -/

/-- The buffer of a tensor was made with as many bytes as the tensor has, or with one if it has none. -/
def Roomy (tr : List Event) (t : Tensor (driverOn M)) : Prop :=
  ∀ b : Buffer, t.buffer.object = some b →
    ⟨.create (Device.handle t.buffer.device) (.buffer (max t.memorySize 1) Tensor.bufferUsage 0),
      .made b.handle⟩ ∈ tr

namespace Roomy

variable {t t' : Tensor (driverOn M)}

theorem mono (h : Roomy tr t) (grows : tr <+: tr') : Roomy tr' t := fun b hb => grows.subset (h b hb)

theorem of_lasts (h : Roomy tr t) (lasts : t.Lasts t') : Roomy tr t' := by
  intro b hb
  rw [Tensor.memorySize, lasts.elementCount, lasts.elementSize, lasts.device]
  exact h b (lasts.object b hb)

theorem setElements (h : Roomy tr t) {data : Elements} (set : t.setElements data = .ok t') :
    Roomy tr t' := by
  obtain ⟨-, -, rfl⟩ := Tensor.setElements_ok set
  exact h

theorem of_create [M.Lawful] {device : (driverOn M).Device} {bytes : List UInt8} {count size : UInt64}
    {dataType : DataType}
    {e e' : Env (driverOn M).State} (h : Tensor.create device bytes count size dataType e = .ok t e') :
    Roomy (State.api e'.driver).trace t := by
  have size := (Tensor.whole_create h).memorySize_eq
  obtain ⟨-, buffer, e₁, made, same, rfl⟩ := Tensor.create_ok h
  intro b hb
  cases hb
  rw [same, size]
  exact createBuffer_ok made

end Roomy

/-- All tensors of a session have as many bytes as their elements take, and as their buffers were made
with. -/
structure Sized (s : Session (driverOn M)) : Prop where
  whole : ∀ t ∈ s.pool.tensors, t.Whole
  roomy : ∀ t ∈ s.pool.tensors, Roomy (trace s) t

theorem origin_step (o : Operation) (s : Session (driverOn M)) {i : Nat} {t' : Tensor (driverOn M)}
    (ht' : ((step o).after s).pool.tensors[i]? = some t') : s.Origin ((step o).after s) i t' := by
  have effect := effect_step o s
  generalize (step o).after s = s' at effect ht' ⊢
  have lasting (h : s.pool.Lasts s'.pool) : s.Origin s' i t' := by
    obtain ⟨t, ht, lasts⟩ := h.exists_earlier ht'
    exact .lasts ht lasts
  cases effect with
  | common o => exact (alters_step o s).origin ht'
  | aside h =>
    refine lasting ?_
    rw [h.pool]
    exact .of_eq rfl rfl
  | creates | borrows => exact lasting lasts_addManager

theorem sized_step [M.Lawful] (hs : s.Named) (sized : Sized s) (o : Operation) :
    Sized ((step o).after s) := by
  have grows := prefix_of_issues (issues_step hs o)
  suffices h : ∀ t' ∈ ((step o).after s).pool.tensors, t'.Whole ∧ Roomy (trace ((step o).after s)) t' from
    ⟨fun t ht => (h t ht).1, fun t ht => (h t ht).2⟩
  intro t' hmem
  obtain ⟨i, ht'⟩ := List.mem_iff_getElem?.1 hmem
  cases origin_step o s ht' with
  | lasts ht lasts =>
    have mem := List.mem_of_getElem? ht
    exact ⟨(sized.whole _ mem).of_lasts lasts, ((sized.roomy _ mem).mono grows).of_lasts lasts⟩
  | stores ht set =>
    have mem := List.mem_of_getElem? ht
    exact ⟨(sized.whole _ mem).setElements set, ((sized.roomy _ mem).mono grows).setElements set⟩
  | adds _ made lasts drives =>
    have later := prefix_of_issues ((complete M).issues drives)
    exact ⟨(Tensor.whole_create made).of_lasts lasts, ((Roomy.of_create made).mono later).of_lasts lasts⟩

theorem sized_run [M.Lawful] (hs : s.Named) (sized : Sized s) (os : List Operation) :
    Sized (run os s) := by
  induction os generalizing s with
  | nil => exact sized
  | cons o os ih => exact ih (named_step hs o) (sized_step hs sized o)

/-! ## Bindings -/

theorem StopsShort.quiet {device : Nat} {what : PipelineDescriptor Nat} {error : Error}
    {l : List Event}
    (h : StopsShort device what error l) : Quiet l := by
  obtain ⟨layout, sizes, writes, shader, setLayout, pool, set, i, hi, request, code, rest, called, rfl,
    quiet, -⟩ := h
  -- The call that writes is the last of those that set up; the failed one is among those before it.
  have before : Quiet
      ((setup device what.code layout sizes writes shader setLayout pool set).take 4) := by
    simp [setup, Quiet, Request.Writes]
  have failed : ¬ request.Writes := by
    obtain ⟨event, entry, rfl⟩ := Option.map_eq_some_iff.1 called
    rw [← List.getElem?_take_of_lt hi] at entry
    exact before _ (List.mem_of_getElem? entry)
  have first : Quiet
      ((setup device what.code layout sizes writes shader setLayout pool set).take i) :=
    fun event hevent => before event ((List.take_prefix_take_left hi.le).subset hevent)
  exact List.forall_mem_append.2 ⟨first, List.forall_mem_cons.2 ⟨failed, quiet⟩⟩

theorem Pipeline.Describes.buffers_eq {bindings : List (Binding Nat)} {layout : List LayoutBinding}
    {sizes : List PoolSize} {set : Nat} {writes : List DescriptorWrite}
    (h : Describes bindings layout sizes set writes) {w : DescriptorWrite} (hw : w ∈ writes) :
    ∃ b ∈ bindings, w.buffers = [⟨b.buffer, 0, max b.size 1⟩] := by
  obtain ⟨i, hi, rfl⟩ := List.getElem_of_mem hw
  have short : i < bindings.length := h.writes_length ▸ hi
  refine ⟨bindings[i], List.getElem_mem short, ?_⟩
  rw [(List.getElem_eq_iff hi).2 (h.write i _ (List.getElem?_eq_getElem short))]

/-- Whether descriptor sets are written into with buffers of bindings, as wholes. -/
def WritesWholes (bindings : List (Binding Nat)) (l : List Event) : Prop :=
  ∀ device writes outcome, ⟨.updateDescriptorSets device writes, outcome⟩ ∈ l →
    ∀ w ∈ writes, ∃ b ∈ bindings, w.buffers = [⟨b.buffer, 0, max b.size 1⟩]

theorem Quiet.writesWholes {l : List Event} (h : Quiet l) (bindings : List (Binding Nat)) :
    WritesWholes bindings l := fun _ _ _ hmem => (h _ hmem trivial).elim

theorem SetsUp.writesWholes {device : Nat} {what : PipelineDescriptor Nat} {l : List Event}
    (h : SetsUp device what l) : WritesWholes what.bindings l := by
  obtain ⟨layout, sizes, writes, shader, setLayout, pool, set, rest, rfl, quiet, describes, -⟩ := h
  intro device' writes' outcome hmem w hw
  rcases List.mem_append.1 hmem with hmem | hmem
  · simp only [setup, List.mem_cons, Event.mk.injEq, reduceCtorEq, false_and, false_or,
      Request.updateDescriptorSets.injEq, List.not_mem_nil, or_false] at hmem
    exact describes.buffers_eq (hmem.1.2 ▸ hw)
  · exact (quiet _ hmem trivial).elim

theorem api_createPipeline (x : Device) (what : PipelineDescriptor Buffer) (e : Env State) :
    ((createPipeline x what).after e).driver.api =
      (Pipeline.create x.handle (onHandles what)).after e.driver.api := by
  rw [← api_after_withApi]
  cases h : withApi (Pipeline.create x.handle (onHandles what)) e with
  | ok pipeline e₁ =>
    rw [Attempt.after_of_ok h]
    exact congrArg (·.driver.api) (Attempt.after_bind_of_ok h)
  | error error e₁ =>
    rw [Attempt.after_of_error h]
    exact congrArg (·.driver.api) (Attempt.after_bind_of_error h)

theorem writesWholes_createPipeline (x : Device) (what : PipelineDescriptor Buffer) (e : Env State) :
    ∃ l, ((createPipeline x what).after e).driver.api.trace = e.driver.api.trace ++ l ∧
      WritesWholes (onHandles what).bindings l := by
  obtain ⟨l, trace, wholes⟩ := (Pipeline.logs_create x.handle (onHandles what)).after e.driver.api
    (P := WritesWholes (onHandles what).bindings) (fun _ => SetsUp.writesWholes) fun _ _ failed =>
      failed.elim (fun short => short.quiet.writesWholes _) SetsUp.writesWholes
  exact ⟨l, (congrArg Api.trace (api_createPipeline x what e)).trans trace, wholes⟩

/-- When an algorithm is made, descriptor sets are written into with the buffers of tensors, as wholes. -/
theorem buffers_of_binding [M.Lawful] {o : GpuCompute.Operation} {n : String} {names : List String}
    (ho : binding? o = some (n, names)) {T : List Event}
    (hT : trace ((Session.step o).after s) = trace s ++ T) {device : Nat} {writes : List DescriptorWrite}
    {outcome : Outcome} (hmem : ⟨.updateDescriptorSets device writes, outcome⟩ ∈ T)
    {w : DescriptorWrite} (hw : w ∈ writes) :
    ∃ t ∈ s.pool.tensors, ∃ buffer : Buffer, t.buffer.object = some buffer ∧
      w.buffers = [⟨buffer.handle, 0, max t.memorySize 1⟩] := by
  have quiet (same : trace ((Session.step o).after s) = trace s) : False := by
    rw [same, List.self_eq_append_right] at hT
    rw [hT] at hmem
    cases hmem
  cases hr : s.request? o with
  | none => exact (quiet (congrArg trace (after_of_unasked ho hr))).elim
  | some asked =>
    cases asked with
    | error error =>
      obtain ⟨s', hstep, same⟩ := step_of_refused hr
      refine (quiet ?_).elim
      rw [Attempt.after_of_error hstep, trace, same]
    | ok asked =>
      obtain ⟨x, order⟩ := asked
      obtain ⟨numbers, code, workgroup, pushConstants, what, rfl, request⟩ := pipeline_of_request ho hr
      obtain ⟨e₁, same, discards⟩ := after_request hr
      obtain ⟨T', hT', later⟩ := discards.exists_events
      obtain ⟨l, hl, wholes⟩ := writesWholes_createPipeline x what e₁
      have made : (State.api (((driverOn M).make x (.pipeline what)).after e₁).driver).trace =
          trace s ++ l := by
        rw [Driver.make, Attempt.after_map, trace, ← same]
        exact hl
      have added : T = l ++ T' := by
        have both := hT.symm.trans hT'
        rwa [made, List.append_assoc, List.append_right_inj] at both
      rw [added] at hmem
      rcases List.mem_append.1 hmem with hmem | hmem
      · obtain ⟨b, hb, whole⟩ := wholes _ _ _ hmem w hw
        obtain ⟨b', hb', rfl⟩ := List.mem_map.1 hb
        obtain ⟨k, hk, rfl⟩ := List.getElem_of_mem hb'
        have all := Pool.forall₂_request request
        have bound := all.get (all.length_eq ▸ hk) hk
        obtain ⟨t, ht, hbinding⟩ := Option.bind_eq_some_iff.1 bound
        obtain ⟨buffer, hbuffer, hb⟩ := Option.map_eq_some_iff.1 hbinding
        have bound : t.binding buffer = what.bindings[k] := hb
        refine ⟨t, List.mem_of_getElem? ht, buffer, hbuffer, whole.trans ?_⟩
        exact congrArg (fun b : Binding Buffer => [(⟨b.buffer.handle, 0, max b.size 1⟩ : BufferRange)])
          bound.symm
      · exact (later _ hmem).elim

/-- A descriptor is written with the whole buffer of a tensor: with the only size that such a buffer was
made with. -/
def BoundWhole (s : Session (driverOn M)) (tr : List Event) (w : DescriptorWrite) : Prop :=
  ∃ t ∈ s.pool.tensors, ∃ b : Buffer, t.buffer.object = some b ∧
    w.buffers = [⟨b.handle, 0, max t.memorySize 1⟩] ∧
    ⟨.create (Device.handle t.buffer.device) (.buffer (max t.memorySize 1) Tensor.bufferUsage 0),
      .made b.handle⟩ ∈ trace s ∧
    ∀ device size usage sharing,
      ⟨.create device (.buffer size usage sharing), .made b.handle⟩ ∈ tr → size = max t.memorySize 1

theorem boundWhole_of_binding [M.Lawful] (host : Host) (rules : Rules) (ops : List Operation)
    {o : GpuCompute.Operation} {n : String} {names : List String} (ho : binding? o = some (n, names)) :
    let s := run ops (start (M := M) host rules)
    let s' := (step (.common o)).after s
    ∃ T, trace s' = trace s ++ T ∧ ∀ device writes outcome,
      ⟨.updateDescriptorSets device writes, outcome⟩ ∈ T → ∀ w ∈ writes, BoundWhole s (trace s') w := by
  intro s s'
  have named : s.Named := named_run (named_start _) ops
  have sized : Sized s := sized_run (named_start _) ⟨nofun, nofun⟩ ops
  have after : run (ops ++ [.common o]) (start (M := M) host rules) = s' := List.foldl_append
  obtain ⟨T, hT⟩ := prefix_of_issues (issues_step named (.common o))
  refine ⟨T, hT.symm, fun device writes outcome hmem w hw => ?_⟩
  have hT' := hT.symm
  rw [after_common] at hT'
  obtain ⟨t, ht, buffer, hbuffer, bound⟩ := buffers_of_binding ho hT' hmem hw
  have made := sized.roomy t ht buffer hbuffer
  refine ⟨t, ht, buffer, hbuffer, bound, made, fun device' size' usage sharing hmade => ?_⟩
  have made' : _ ∈ trace s' := hT ▸ List.mem_append_left T made
  rw [← after] at hmade made'
  cases eq_of_made hmade made' rfl rfl
  rfl

/-! ## All counts -/

/-- A tensor is asked for exactly if its bytes are as many as its elements take. -/
theorem tensorOfBytes_exact {d : Driver} {s : Session d.recorded} {n : String}
    {m : Manager d.recorded}
    {device : Ownership d.recorded.Device} {bytes : List UInt8} (hm : s.managers.lookup n = some m)
    (hd : m.device = some device) (short : bytes.length < UInt64.size) (name : String)
    (count size : UInt64) (dataType : DataType) :
    let o := .tensorOfBytes n name bytes count size dataType
    (size ≠ 0 ∧ count.toNat * size.toNat = bytes.length → ∃ succeeded T,
      ((Session.step o).after s).trace = s.trace ++
        ⟨.create device.handle.id (.buffer (.ofNat bytes.length) Tensor.bufferUsage), succeeded⟩ :: T ∧
      Trace.Discards T) ∧
    (¬ (size ≠ 0 ∧ count.toNat * size.toNat = bytes.length) → ∃ fault s',
      Session.step o s = .error (.invalidState fault) s' ∧ s'.trace = s.trace) := by
  intro o
  have live : m.liveDevice = .ok device.handle := by
    unfold Manager.liveDevice
    rw [hd]
  have hrequest : s.request? o = some (m.tensorRequest bytes count size) := by
    simp [o, request?, hm]
  rw [Manager.tensorRequest, live] at hrequest
  constructor
  · rintro ⟨nonzero, exactly⟩
    have fit : Tensor.fits bytes.length count size = true :=
      Tensor.fits_iff.2 ⟨nonzero, exactly ▸ short, exactly.symm⟩
    have asked : s.request? o =
        some (.ok (device.handle, .buffer (.ofNat bytes.length) Tensor.bufferUsage)) := by
      rw [hrequest, fit]
      rfl
    rcases step_of_request asked with ⟨s', T, hstep, discards, trace⟩ | ⟨error, s', hstep, trace⟩
    · exact ⟨true, T, Attempt.after_of_ok hstep ▸ trace, discards⟩
    · exact ⟨false, [], Attempt.after_of_error hstep ▸ trace, List.forall_mem_nil _⟩
  · intro different
    have unfit : Tensor.fits bytes.length count size = false := by
      refine Bool.eq_false_iff.2 fun fit => ?_
      obtain ⟨nonzero, -, exactly⟩ := Tensor.fits_iff.1 fit
      exact different ⟨nonzero, exactly.symm⟩
    have refused : s.request? o =
        some (.error (.invalidState (.dataLength bytes.length count size))) := by
      rw [hrequest, unfit]
      rfl
    obtain ⟨s', hstep, same⟩ := step_of_refused refused
    exact ⟨_, s', hstep, congrArg (·.trace) same⟩

/-- **All counts of the bytes of a tensor agree.** A manager that is not torn down asks for the buffer of
a tensor if its elements, in numbers that do not wrap around, take as many bytes as there are, and refuses
otherwise. After any run every tensor has as many bytes as it says, and its buffer was asked for with this
number. On the Vulkan driver an algorithm binds the buffers of its tensors as wholes. -/
theorem sizes_exact :
    (∀ (d : Driver) (s : Session d.recorded) {n : String} {m : Manager d.recorded}
      {device : Ownership d.recorded.Device} {bytes : List UInt8}, s.managers.lookup n = some m →
      m.device = some device → bytes.length < UInt64.size →
      ∀ (name : String) (count size : UInt64) (dataType : DataType),
      let o := .tensorOfBytes n name bytes count size dataType
      (size ≠ 0 ∧ count.toNat * size.toNat = bytes.length → ∃ succeeded T,
        ((Session.step o).after s).trace = s.trace ++
          ⟨.create device.handle.id (.buffer (.ofNat bytes.length) Tensor.bufferUsage), succeeded⟩ ::
            T ∧ Trace.Discards T) ∧
      (¬ (size ≠ 0 ∧ count.toNat * size.toNat = bytes.length) → ∃ fault s',
        Session.step o s = .error (.invalidState fault) s' ∧ s'.trace = s.trace)) ∧
    (∀ (d : Driver) (inner : d.State) (ops : List GpuCompute.Operation),
      let s := recordedRun inner ops
      ∃ births : List Nat, births.Pairwise (· < ·) ∧ ∀ {i : Nat} {t : Tensor d.recorded},
        s.pool.tensors[i]? = some t →
          t.bytes.length = t.memorySize.toNat ∧
          t.bytes.length = t.elementCount.toNat * t.elementSize.toNat ∧
          ∃ id, births[i]? = some id ∧ t.Backed s.trace id) ∧
    ∀ (M : MemoryLibrary) [M.Lawful] (host : Host) (rules : Rules) (ops : List Operation),
      let s := run ops (start (M := M) host rules)
      (∀ t ∈ s.pool.tensors, t.bytes.length = t.memorySize.toNat ∧
        t.bytes.length = t.elementCount.toNat * t.elementSize.toNat ∧ Roomy (trace s) t) ∧
      ∀ {o : GpuCompute.Operation} {n : String} {names : List String}, binding? o = some (n, names) →
        let s' := (step (.common o)).after s
        ∃ T, trace s' = trace s ++ T ∧ ∀ device writes outcome,
          ⟨.updateDescriptorSets device writes, outcome⟩ ∈ T →
            ∀ w ∈ writes, BoundWhole s (trace s') w := by
  refine ⟨fun d s _ _ _ _ hm hd short => tensorOfBytes_exact hm hd short, fun d inner ops => ?_,
    fun M _ host rules ops => ⟨fun t ht => ?_, fun ho => boundWhole_of_binding host rules ops ho⟩⟩
  · intro s
    obtain ⟨births, backed⟩ := backed_recordedRun inner ops
    have whole : ∀ t ∈ s.pool.tensors, t.Whole := whole_steps (s := recordedStart inner) nofun ops
    refine ⟨births, backed.sorted, fun {i t} ht => ?_⟩
    have fits := whole t (List.mem_of_getElem? ht)
    exact ⟨fits.toNat_memorySize.symm, fits.length, backed.tensor ht⟩
  · have sized : Sized (run ops (start (M := M) host rules)) :=
      sized_run (named_start _) ⟨nofun, nofun⟩ ops
    have fits := sized.whole t ht
    exact ⟨fits.toNat_memorySize.symm, fits.length, sized.roomy t ht⟩

/-- A tensor without elements on a device that is lent. -/
def elementless : List Operation :=
  [.common (.call (.createInstance "instance" ⟨"vkrt", 1, 1, [], [], false⟩)),
    .common (.call (.createDevice "device" "instance" 1 ⟨[], [], []⟩)),
    .common (.borrow "manager" "instance" "device" 1 [0] {}),
    .common (.tensorOfBytes "manager" "tensor" [] 0 4 .int)]

theorem sizes_exact_elementless :
    let s := recordedRun computing [.createManager "m" {} {}]
    let s' := run elementless (start (M := .own) {} [])
    (∃ fault t, Session.step (.tensorOfBytes "m" "x" [] 0x8000000000000000 2 .int) s =
      .error (.invalidState fault) t ∧ t.trace = s.trace) ∧
    (∃ succeeded T, ((Session.step (.tensorOfBytes "m" "x" [1, 2, 3, 4] 2 2 .int)).after s).trace =
      s.trace ++ ⟨.create 6 (.buffer 4 0x33), succeeded⟩ :: T) ∧
    ∃ w, BoundWhole s' (trace ((step (.common (.algorithm "manager" "x" ["tensor"] [1]))).after s')) w ∧
      w.buffers = [⟨3, 0, 1⟩] := by
  intro s s'
  obtain ⟨asked, -, bound⟩ := sizes_exact
  obtain ⟨m, device, hm, hd, id⟩ : ∃ m device, s.managers.lookup "m" = some m ∧
    m.device = some device ∧ device.handle.id = 6 := ⟨_, _, rfl, rfl, rfl⟩
  have short : ([] : List UInt8).length < UInt64.size := by decide
  have short' : ([1, 2, 3, 4] : List UInt8).length < UInt64.size := by decide
  have wraps := (asked _ s hm hd short "x" 0x8000000000000000 2 .int).2 (by decide)
  obtain ⟨succeeded, T, hT, -⟩ := (asked _ s hm hd short' "x" 2 2 .int).1 (by decide)
  refine ⟨wraps, ⟨succeeded, T, id ▸ hT⟩, ?_⟩
  obtain ⟨T', hT', whole⟩ := (bound .own {} [] elementless).2
    (o := .algorithm "manager" "x" ["tensor"] [1]) rfl
  have same : s' = run elementless.tail ((step (.common (.call (.createInstance "instance"
    ⟨"vkrt", 1, 1, [], [], false⟩)))).after (start (M := .own) {} [])) := rfl
  rw [after_createInstance] at same
  let w : DescriptorWrite := ⟨7, 0, .storageBuffer, [⟨3, 0, 1⟩]⟩
  have before : ⟨.updateDescriptorSets 2 [w], .done⟩ ∉ trace s' := by
    rw [same]
    decide +kernel
  have written : ⟨.updateDescriptorSets 2 [w], .done⟩ ∈
      trace ((step (.common (.algorithm "manager" "x" ["tensor"] [1]))).after s') := by
    rw [same]
    decide +kernel
  have added := (List.mem_append.1 (hT' ▸ written)).resolve_left before
  exact ⟨w, whole 2 [w] .done added w (List.mem_singleton.2 rfl), rfl⟩

end GpuCompute.Vulkan
