import GpuCompute.Proofs.Disposal

/-!
# What is asked of a driver

To make a tensor, an algorithm or a sequence a manager checks what it is given and then asks the driver
for one object. `Session.request?` says which object this is and on which device, or why the operation
is refused. `Session.heeds_step` relates it to the operation: one that is refused makes no call, and any
other makes this one call and fails only if the call fails.
-/

namespace GpuCompute

variable {d : Driver}

/-! ## Attempts with one call -/

/-- How an attempt to make something ends: it is refused and the driver stays as it is, or the driver is
asked once for an object on a device, and the attempt succeeds if the driver does. -/
inductive Heeds {σ α : Type} (env : σ → Env d.State) (act : Attempt σ α) (s : σ) :
    Except Error (d.Device × Order d) → Prop
  | refused {error : Error} {s' : σ} (h : act s = .error error s')
    (quiet : (env s').driver = (env s).driver) : Heeds env act s (.error error)
  | made {device : d.Device} {order : Order d} {e₁ e₂ : Env d.State} {x : Object d} {a : α} {s' : σ}
    (quiet : e₁.driver = (env s).driver) (made : d.make device order e₁ = .ok x e₂)
    (h : act s = .ok a s') (after : (env s').driver = e₂.driver) : Heeds env act s (.ok (device, order))
  | failed {device : d.Device} {order : Order d} {e₁ e₂ : Env d.State} {error : Error} {s' : σ}
    (quiet : e₁.driver = (env s).driver) (failed : d.make device order e₁ = .error error e₂)
    (h : act s = .error error s') (after : (env s').driver = e₂.driver) :
    Heeds env act s (.ok (device, order))

namespace Heeds

variable {σ α β : Type} {env : σ → Env d.State} {act : Attempt σ α} {s s' : σ}
  {f : α → Attempt σ β} {v : Except Error (d.Device × Order d)}

/-- What comes after the call cannot fail and makes no calls. -/
theorem bind (h : Heeds env act s v)
    (rest : ∀ a s', ∃ b s'', f a s' = .ok b s'' ∧ (env s'').driver = (env s').driver) :
    Heeds env (act >>= f) s v := by
  cases h with
  | refused h quiet => exact .refused (Attempt.bind_of_error h) quiet
  | @made _ _ _ _ _ a s' quiet made h after =>
    obtain ⟨b, s'', hf, same⟩ := rest a s'
    exact .made quiet made ((Attempt.bind_of_ok h).trans hf) (same.trans after)
  | failed quiet failed h after => exact .failed quiet failed (Attempt.bind_of_error h) after

/-- What comes before the call makes no calls. -/
theorem after {a : α} (h : act s = .ok a s') (quiet : (env s').driver = (env s).driver)
    (rest : Heeds env (f a) s' v) : Heeds env (act >>= f) s v := by
  cases rest with
  | refused h' quiet' => exact .refused ((Attempt.bind_of_ok h).trans h') (quiet'.trans quiet)
  | made quiet' made h' after =>
    exact .made (quiet'.trans quiet) made ((Attempt.bind_of_ok h).trans h') after
  | failed quiet' failed h' after =>
    exact .failed (quiet'.trans quiet) failed ((Attempt.bind_of_ok h).trans h') after

/-- A check comes before the call. -/
theorem check {y : Except Error α} {g : α → Except Error (d.Device × Order d)}
    (rest : ∀ a, y = .ok a → Heeds env (f a) s (g a)) :
    Heeds env (Attempt.ofExcept y >>= f) s (y >>= g) := by
  cases y with
  | error error => exact .refused rfl rfl
  | ok a => exact after (Attempt.ofExcept_ok a s) rfl (rest a rfl)

theorem within {e : Pool d → Env d.State} {put : Pool d → σ → Pool d} {get : Pool d → σ} {p : Pool d}
    (he : ∀ p s, e (put p s) = env s) (hget : env (get p) = e p) (h : Heeds env act (get p) v) :
    Heeds e (Attempt.within get put act) p v := by
  cases h with
  | @refused error s' h quiet =>
    exact .refused (Attempt.within_eq_error.2 ⟨s', h, rfl⟩) (by rw [he, quiet, hget])
  | @made _ _ _ _ _ _ s' quiet made h after =>
    exact .made (hget ▸ quiet) made (Attempt.within_eq_ok.2 ⟨s', h, rfl⟩) (by rw [he, after])
  | @failed _ _ _ _ _ s' quiet failed h after =>
    exact .failed (hget ▸ quiet) failed (Attempt.within_eq_error.2 ⟨s', h, rfl⟩) (by rw [he, after])

/-- The call itself. -/
theorem call {device : d.Device} {order : Order d} {kind : α → Object d} {act : Act d.State α}
    (h : d.make device order = kind <$> act) (e : Env d.State) :
    Heeds id act e (.ok (device, order)) := by
  cases hact : act e with
  | ok a e' => exact .made rfl (h ▸ Attempt.map_eq_ok.2 ⟨a, hact, rfl⟩) hact rfl
  | error error e' => exact .failed rfl (h ▸ Attempt.map_eq_error.2 hact) hact rfl

end Heeds

/-! ## Methods of managers -/

namespace Pool

variable {p : Pool d} {device : d.Device}

/-- What comes after an object was made only puts it into its slot. -/
theorem heeds_run {α : Type} {act : Act d.State α} {v : Except Error (d.Device × Order d)}
    {put : α → Pool d → Nat × Pool d} (h : Heeds id act p.env v)
    (hput : ∀ a p, (put a p).2.env = p.env) :
    Heeds env (run act >>= fun a => modifyGet (put a)) p v :=
  .bind (.within (fun _ _ => rfl) rfl h) fun a p => ⟨_, _, rfl, congrArg (·.driver) (hput a p)⟩

theorem heeds_addTensor (bytes : List UInt8) (count size : UInt64) (dataType : DataType) :
    Heeds env (addTensor device bytes count size dataType) p
      (if Tensor.fits bytes.length count size then
        .ok (device, .buffer (.ofNat bytes.length) Tensor.bufferUsage)
      else .error (.invalidState (.dataLength bytes.length count size))) := by
  refine heeds_run ?_ fun _ _ => rfl
  unfold Tensor.create
  cases Tensor.fits bytes.length count size with
  | false => exact .refused rfl rfl
  | true => exact (Heeds.call rfl _).bind fun _ _ => ⟨_, _, rfl, rfl⟩

theorem heeds_addAlgorithm (tensors : List Nat) (code : List UInt32) (workgroup : Extent)
    (pushConstants : List UInt8) :
    Heeds env (addAlgorithm device tensors code workgroup pushConstants) p
      ((Algorithm.request (fun i => p.tensors[i]?) tensors code workgroup pushConstants).mapError
        .invalidState >>= fun what => .ok (device, .pipeline what)) := by
  have look : (get : Attempt (Pool d) (Pool d)) p = .ok p p := rfl
  refine .after look rfl (heeds_run ?_ fun _ _ => rfl)
  exact .check fun what _ => (Heeds.call rfl _).bind fun _ _ => ⟨_, _, rfl, rfl⟩

theorem heeds_addSequence (adapter : AdapterHandle) (queue : Queue.Handle)
    (family timestamps : UInt32) :
    Heeds env (addSequence device adapter queue family timestamps) p
      (.ok (device, .batch family timestamps)) :=
  heeds_run ((Heeds.call rfl _).bind fun _ _ => ⟨_, _, rfl, rfl⟩) fun _ _ => rfl

end Pool

namespace Manager

variable (m : Manager d) {p : Pool d}

/-- What a manager asks for when it is to make a tensor. -/
def tensorRequest (bytes : List UInt8) (count size : UInt64) : Except Error (d.Device × Order d) := do
  let device ← m.liveDevice
  if Tensor.fits bytes.length count size then
    .ok (device, .buffer (.ofNat bytes.length) Tensor.bufferUsage)
  else .error (.invalidState (.dataLength bytes.length count size))

/-- What a manager asks for when it is to make an algorithm for a given workgroup. -/
def algorithmRequest (p : Pool d) (tensors : List Nat) (code : List UInt32) (workgroup : Extent)
    (pushConstants : List UInt8) : Except Error (d.Device × Order d) := do
  let device ← m.liveDevice
  let what ← (Algorithm.request (fun i => p.tensors[i]?) tensors code workgroup
    pushConstants).mapError .invalidState
  .ok (device, .pipeline what)

variable {m} in
theorem algorithmRequest_ok {tensors : List Nat} {code : List UInt32} {workgroup : Extent}
    {pushConstants : List UInt8} {device : d.Device} {order : Order d}
    (h : m.algorithmRequest p tensors code workgroup pushConstants = .ok (device, order)) :
    ∃ what, order = .pipeline what ∧
      Algorithm.request (fun i => p.tensors[i]?) tensors code workgroup pushConstants = .ok what := by
  unfold algorithmRequest at h
  cases hlive : m.liveDevice with
  | error error => simp [hlive, bind, Except.bind] at h
  | ok live =>
    cases hwhat : Algorithm.request (fun i => p.tensors[i]?) tensors code workgroup pushConstants with
    | error fault => simp [hlive, hwhat, bind, Except.bind, Except.mapError] at h
    | ok what =>
      simp only [hlive, hwhat, bind, Except.bind, Except.mapError, Except.ok.injEq,
        Prod.mk.injEq] at h
      exact ⟨what, h.2.symm, rfl⟩

/-- What a manager asks for when it is to make an algorithm. -/
def defaultRequest (p : Pool d) (tensors : List Nat) (code : List UInt32) :
    Except Error (d.Device × Order d) := do
  let workgroup ← Algorithm.defaultWorkgroup (leadingCount p tensors)
  m.algorithmRequest p tensors code workgroup []

/-- What a manager asks for when it is to make a sequence. -/
def sequenceRequest (index : UInt64) (timestamps : UInt32) : Except Error (d.Device × Order d) := do
  let device ← m.liveDevice
  let queue ← m.queueAt index
  .ok (device, .batch queue.2 timestamps)

theorem heeds_tensorOfBytes (bytes : List UInt8) (count size : UInt64) (dataType : DataType) :
    Heeds Pool.env (m.tensorOfBytes bytes count size dataType) p
      (m.tensorRequest bytes count size) :=
  .check fun _ _ => (Pool.heeds_addTensor ..).bind fun _ _ => ⟨_, _, rfl, rfl⟩

theorem heeds_algorithmWith (tensors : List Nat) (code : List UInt32) (workgroup : Extent)
    (pushConstants : List UInt8) :
    Heeds Pool.env (m.algorithmWith tensors code workgroup pushConstants) p
      (m.algorithmRequest p tensors code workgroup pushConstants) :=
  .check fun _ _ => (Pool.heeds_addAlgorithm ..).bind fun _ _ => ⟨_, _, rfl, rfl⟩

theorem heeds_algorithm (tensors : List Nat) (code : List UInt32) :
    Heeds Pool.env (m.algorithm tensors code) p (m.defaultRequest p tensors code) := by
  have look : (get : Attempt (Pool d) (Pool d)) p = .ok p p := rfl
  exact .after look rfl (.check fun workgroup _ => m.heeds_algorithmWith tensors code workgroup [])

theorem heeds_sequence (index : UInt64) (timestamps : UInt32) :
    Heeds Pool.env (m.sequence index timestamps) p (m.sequenceRequest index timestamps) :=
  .after rfl rfl (.check fun _ _ => .check fun _ _ =>
    (Pool.heeds_addSequence ..).bind fun _ _ => ⟨_, _, rfl, rfl⟩)

end Manager

/-! ## Operations -/

namespace Session

/-- What an operation asks the driver for, or why it is refused; `none` if it makes no resource or names
something unknown. -/
def request? (s : Session d) : Operation → Option (Except Error (d.Device × Order d))
  | .tensor n _ data => (s.managers.lookup n).map fun m =>
    m.tensorRequest data.bytes (.ofNat data.words.length) (.ofNat data.type.size)
  | .tensorOfBytes n _ bytes count size _ =>
    (s.managers.lookup n).map fun m => m.tensorRequest bytes count size
  | .algorithm n _ tensors code => (s.tensorNumbers tensors).toOption.bind fun numbers =>
    (s.managers.lookup n).map fun m => m.defaultRequest s.pool numbers code
  | .algorithmWith n _ tensors code workgroup pushConstants =>
    (s.tensorNumbers tensors).toOption.bind fun numbers => (s.managers.lookup n).map fun m =>
      m.algorithmRequest s.pool numbers code workgroup pushConstants
  | .sequence n _ queue timestamps =>
    (s.managers.lookup n).map fun m => m.sequenceRequest queue timestamps
  | _ => none

variable {s : Session d} {o : Operation} {v : Except Error (d.Device × Order d)} {error : Error}

/-- An operation that asks for something is a manager's method that makes a resource. -/
theorem heeds_step (h : s.request? o = some v) : ∃ n name identify make m,
    s.managers.lookup n = some m ∧ step o s = addResource n name identify make s ∧
      Heeds Pool.env (make m) s.pool v := by
  have algorithms {n name : String} {names : List String}
      {make : List Nat → Manager d → Attempt (Pool d) (Nat × Manager d)}
      {request : List Nat → Manager d → Except Error (d.Device × Order d)}
      (hstep : step o s = addAlgorithm n name names make s)
      (heeds : ∀ numbers m, Heeds Pool.env (make numbers m) s.pool (request numbers m))
      (h : ((s.tensorNumbers names).toOption.bind fun numbers =>
        (s.managers.lookup n).map fun m => request numbers m) = some v) :
      ∃ n name identify make m, s.managers.lookup n = some m ∧
        step o s = addResource n name identify make s ∧ Heeds Pool.env (make m) s.pool v := by
    obtain ⟨numbers, hnumbers, h⟩ := Option.bind_eq_some_iff.1 h
    obtain ⟨m, hm, rfl⟩ := Option.map_eq_some_iff.1 h
    refine ⟨n, name, .algorithm, make numbers, m, hm, hstep.trans ?_, heeds numbers m⟩
    unfold addAlgorithm
    rw [Attempt.get_bind]
    cases hn : s.tensorNumbers names with
    | error tensor => simp [hn, Except.toOption] at hnumbers
    | ok numbers' =>
      simp only [hn, Except.toOption, Option.some.injEq] at hnumbers
      rw [hnumbers]
  cases o with
  | tensor | tensorOfBytes =>
    obtain ⟨m, hm, rfl⟩ := Option.map_eq_some_iff.1 h
    exact ⟨_, _, _, _, m, hm, rfl, m.heeds_tensorOfBytes ..⟩
  | sequence =>
    obtain ⟨m, hm, rfl⟩ := Option.map_eq_some_iff.1 h
    exact ⟨_, _, _, _, m, hm, rfl, m.heeds_sequence ..⟩
  | algorithm => exact algorithms rfl (fun numbers m => m.heeds_algorithm numbers _) h
  | algorithmWith => exact algorithms rfl (fun numbers m => m.heeds_algorithmWith numbers _ _ _) h
  | _ => cases h

theorem addResource_unknown {n name : String} {identify : Nat → ResourceId}
    {make : Manager d → Attempt (Pool d) (Nat × Manager d)} (hm : s.managers.lookup n = none) :
    addResource n name identify make s = .ok (.unknown n) s := by
  unfold addResource withManager
  rw [Attempt.get_bind, hm]
  rfl

theorem addResource_ok {n name : String} {identify : Nat → ResourceId}
    {make : Manager d → Attempt (Pool d) (Nat × Manager d)} {m m' : Manager d} {i : Nat} {p : Pool d}
    (hm : s.managers.lookup n = some m) (h : make m s.pool = .ok (i, m') p) :
    addResource n name identify make s =
      .ok .created (({ s with pool := p }.setManager n m').onPool (.hold name (identify i))) := by
  unfold addResource withManager
  rw [Attempt.get_bind, hm]
  exact Attempt.bind_of_ok (runPool_ok h)

theorem addResource_error {n name : String} {identify : Nat → ResourceId}
    {make : Manager d → Attempt (Pool d) (Nat × Manager d)} {m : Manager d} {p : Pool d}
    (hm : s.managers.lookup n = some m) (h : make m s.pool = .error error p) :
    addResource n name identify make s = .error error { s with pool := p } := by
  unfold addResource withManager
  rw [Attempt.get_bind, hm]
  exact Attempt.bind_of_error (runPool_error h)

/-- An operation that is to make an algorithm and asks for nothing names something unknown. -/
theorem after_of_unasked {n : String} {names : List String} (ho : binding? o = some (n, names))
    (h : s.request? o = none) : (step o).after s = s := by
  cases o with
  | algorithm | algorithmWith =>
    change (addAlgorithm _ _ _ _).after s = s
    unfold addAlgorithm
    rw [Attempt.after_get_bind]
    cases hnumbers : s.tensorNumbers _ with
    | error tensor => rfl
    | ok numbers =>
      refine Attempt.after_of_ok (addResource_unknown ?_)
      simpa [request?, hnumbers, Except.toOption] using h
  | _ => cases ho

/-- What is asked for to make an algorithm is a pipeline. -/
theorem pipeline_of_request {n : String} {names : List String} {device : d.Device} {order : Order d}
    (ho : binding? o = some (n, names)) (h : s.request? o = some (.ok (device, order))) :
    ∃ numbers code workgroup pushConstants what, order = .pipeline what ∧
      Algorithm.request (fun i => s.pool.tensors[i]?) numbers code workgroup pushConstants = .ok what := by
  cases o with
  | algorithm n name names code =>
    obtain ⟨numbers, -, h⟩ := Option.bind_eq_some_iff.1 h
    obtain ⟨m, -, h⟩ := Option.map_eq_some_iff.1 h
    unfold Manager.defaultRequest at h
    cases hsize : Algorithm.defaultWorkgroup (Manager.leadingCount s.pool numbers) with
    | error error => simp [hsize, bind, Except.bind] at h
    | ok workgroup =>
      simp only [hsize, bind, Except.bind] at h
      exact ⟨numbers, code, workgroup, [], Manager.algorithmRequest_ok h⟩
  | algorithmWith n name names code workgroup pushConstants =>
    obtain ⟨numbers, -, h⟩ := Option.bind_eq_some_iff.1 h
    obtain ⟨m, -, h⟩ := Option.map_eq_some_iff.1 h
    exact ⟨numbers, code, workgroup, pushConstants, Manager.algorithmRequest_ok h⟩
  | _ => cases ho

/-- An operation that is refused makes no call. -/
theorem step_of_refused (h : s.request? o = some (.error error)) :
    ∃ s', step o s = .error error s' ∧ s'.pool.env.driver = s.pool.env.driver := by
  obtain ⟨n, name, identify, make, m, hm, hstep, heeds⟩ := heeds_step h
  cases heeds with
  | refused h quiet => exact ⟨_, hstep.trans (addResource_error hm h), quiet⟩

end Session

/-! ## Recorded operations -/

open Trace Recorder

/-- Only calls that destroy objects. -/
def Trace.Discards (T : Trace) : Prop :=
  ∀ event ∈ T, ∃ device kind object, event = ⟨.destroy device kind object, true⟩

namespace Pool

variable {p q : Pool d.recorded}

theorem Destroys.discards (h : p.Destroys q) :
    ∃ T, q.env.driver.trace = p.env.driver.trace ++ T ∧ Discards T := by
  refine h.driver (P := fun s : Recorder d => ∃ T, s.trace = p.env.driver.trace ++ T ∧ Discards T)
    ⟨[], (List.append_nil _).symm, nofun⟩ fun device x e ⟨T, hT, discards⟩ => ?_
  refine ⟨T ++ [⟨.destroy device.id x.kind x.id, true⟩], ?_, fun event hmem => ?_⟩
  · rw [unmake_eq, trace_note, hT, List.append_assoc]
  · rcases List.mem_append.1 hmem with hmem | hmem
    · exact discards event hmem
    · exact ⟨_, _, _, List.mem_singleton.1 hmem⟩

/-- When a name takes hold of a resource, what it held before may be destroyed. -/
theorem discards_hold (name : String) (r : ResourceId) (p : Pool d.recorded) :
    ∃ T, (p.hold name r).env.driver.trace = p.env.driver.trace ++ T ∧ Discards T := by
  unfold hold
  cases p.find? name with
  | none => exact ⟨[], (List.append_nil _).symm, nofun⟩
  | some old =>
    obtain ⟨q, hq, destroys, -⟩ := reap_cases old (Session.without name p.held ++ [(name, r)]) p
    obtain ⟨T, hT, discards⟩ := destroys.discards
    exact ⟨T, (congrArg (·.env.driver.trace) hq).trans hT, discards⟩

end Pool

namespace Session

variable {s : Session d.recorded} {o : Operation} {device : d.recorded.Device}
  {order : Order d.recorded}

/-- **An operation that is not refused asks for one object.** Whether it is made is up to the driver. What
is destroyed then was held by the name that is to hold the new resource. -/
theorem step_of_request (h : s.request? o = some (.ok (device, order))) :
    (∃ s' T, step o s = .ok .created s' ∧ Discards T ∧
      s'.trace = s.trace ++ ⟨.create device.id order.creation, true⟩ :: T) ∨
    ∃ error s', step o s = .error error s' ∧
      s'.trace = s.trace ++ [⟨.create device.id order.creation, false⟩] := by
  obtain ⟨n, name, identify, make, m, hm, hstep, heeds⟩ := heeds_step h
  cases heeds with
  | @made _ _ e₁ e₂ x made p quiet hmake hact after =>
    obtain ⟨i, m'⟩ := made
    obtain ⟨-, -, inner, -, rfl⟩ := make_ok hmake
    obtain ⟨T, hT, discards⟩ := Pool.discards_hold name (identify i) p
    refine .inl ⟨_, T, hstep.trans (addResource_ok hm hact), discards, hT.trans ?_⟩
    rw [after, trace_note, quiet, List.append_assoc]
    rfl
  | @failed _ _ e₁ e₂ error p quiet hmake hact after =>
    obtain ⟨inner, -, rfl⟩ := make_error hmake
    refine .inr ⟨error, _, hstep.trans (addResource_error hm hact), ?_⟩
    change p.env.driver.trace = _
    rw [after, trace_note, quiet]

end Session

end GpuCompute
