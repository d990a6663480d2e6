import GpuCompute.Proofs.Vulkan.Chains
import GpuCompute.Proofs.Vulkan.Runs

/-!
# Devices that were released

A device that was released or destroyed once is not alive any more, whatever the driver is asked for
afterwards and whoever holds the device (`Device.Released.of_later`). No buffer is made on it, and the
API is not even asked. Pipelines and command batches are not refused (`released_orders`): a manager
that is set up on a device after another manager was torn down there gets command batches that nothing
will destroy (`stranded_batch`), and the owner of the device is left with tensors that it cannot destroy
(`stranded_owner`).
-/

namespace GpuCompute.Vulkan

variable {M : MemoryLibrary} {α : Type} {s : State} {e e' : Env State} {x y : Device}

/-! ## Places of allocators -/

/-- A call of the driver. One that makes a device ends well: if it fails, it passes. -/
inductive Follows : Env (driverOn M).State → Env (driverOn M).State → Prop
  | passes {e e' : Env (driverOn M).State} (h : (driverOn M).Passes e e') : Follows e e'
  | creates {inst : Nat} {adapter : AdapterHandle} {what : DeviceDescriptor} {x : Device}
    {e e' : Env (driverOn M).State} (h : createDevice M inst adapter what e = .ok x e') : Follows e e'
  | wraps {inst handle : Nat} {adapter : AdapterHandle} {x : Device} {e e' : Env (driverOn M).State}
    (h : wrapDevice M inst adapter handle e = .ok x e') : Follows e e'
  | ends {x : Device} {e e' : Env (driverOn M).State} (h : (driverOn M).Ends x e e') : Follows e e'

/-- Calls of the driver, whoever makes them. -/
abbrev Later : Env (driverOn M).State → Env (driverOn M).State → Prop := Relation.ReflTransGen Follows

theorem served_release (x : Device) (e : Env State) :
    (releaseDevice M x e).driver.served = e.driver.served ∨
      (releaseDevice M x e).driver.served = e.driver.served.set x.allocator none := by
  unfold releaseDevice
  split
  · have waits : (waitIdle x e).driver.served = e.driver.served := serves_waitIdle x e
    rw [← waits]
    exact (served_closeAllocator x (waitIdle x e).driver).imp_left And.left
  · exact .inl rfl

/-- A place stays with its device or is vacated. -/
theorem Follows.stays_or_vacates [M.Lawful] {e e' : Env (driverOn M).State} {i : Nat} {p : Option Nat}
    (h : Follows e e')
    (hi : (State.served e.driver)[i]? = some p) :
    (State.served e'.driver)[i]? = some p ∨ (State.served e'.driver)[i]? = some none := by
  have lt : i < (State.served e.driver).length := (List.getElem?_eq_some_iff.1 hi).1
  cases h with
  | passes h => exact .inl ((congrArg (·[i]?) (serves_passes h)).trans hi)
  | creates h =>
    rw [(served_createDevice h).1, List.getElem?_append_left lt]
    exact .inl hi
  | wraps h =>
    rw [(served_wrapDevice h).1, List.getElem?_append_left lt]
    exact .inl hi
  | @ends y _ _ h =>
    have ended : State.served e'.driver = State.served e.driver ∨
        State.served e'.driver = (State.served e.driver).set y.allocator none := by
      cases h <;> exact served_release y e
    rcases ended with same | vacated
    · exact .inl (same ▸ hi)
    · rw [vacated, List.getElem?_set]
      split
      next heq => exact .inr (if_pos (heq ▸ lt))
      · exact .inl hi

theorem Later.stays_or_vacates [M.Lawful] {e e' : Env (driverOn M).State} {i : Nat} {p : Option Nat}
    (h : Later e e')
    (hi : (State.served e.driver)[i]? = some p) :
    (State.served e'.driver)[i]? = some p ∨ (State.served e'.driver)[i]? = some none := by
  induction h with
  | refl => exact .inl hi
  | tail _ h ih =>
    rcases ih with ih | ih
    · exact h.stays_or_vacates ih
    · exact .inr ((h.stays_or_vacates ih).elim id id)

theorem Device.Known.of_later [M.Lawful] {e e' : Env (driverOn M).State} (known : x.Known e.driver)
    (h : Later e e') : x.Known e'.driver :=
  known.elim (fun vacant => .inl ((h.stays_or_vacates vacant).elim id id))
    fun serves => (h.stays_or_vacates serves).symm

/-! ## Being released -/

/-- The place of a device's allocator was vacated. -/
def Device.Released (x : Device) (s : State) : Prop := s.served[x.allocator]? = some none

namespace Device.Released

theorem isAlive_eq_false (h : x.Released s) : s.isAlive x = false := by
  refine Bool.eq_false_iff.2 fun alive => ?_
  obtain ⟨handle, serves⟩ := isAlive_iff.1 alive
  cases h.symm.trans serves

theorem of_ends {e e' : Env (driverOn M).State} (h : (driverOn M).Ends x e e')
    (known : x.Known e.driver) :
    x.Released e'.driver := by
  unfold Device.Released
  rw [served_ends h known, List.getElem?_set_self known.lt]

/-- Nothing is ever put into a place that was vacated. -/
theorem of_later [M.Lawful] {e e' : Env (driverOn M).State} (released : x.Released e.driver)
    (h : Later e e') :
    x.Released e'.driver := (h.stays_or_vacates released).elim id id

/-- No buffer is made on a device that was released, and the API is not asked. -/
theorem createBuffer (released : x.Released e.driver) (size : UInt64) (usage : UInt32) :
    createBuffer M x size usage e = .error (.invalidState .deviceDestroyed) e := by
  unfold Vulkan.createBuffer
  rw [Attempt.get_bind, released.isAlive_eq_false]
  rfl

end Device.Released

/-! ## Orders that are not refused -/

/-- What a pipeline or a command batch begins with; a buffer is refused before. -/
def opening? : Order (driverOn M) → Option Creation
  | .buffer .. => none
  | .pipeline what => some (.shaderModule what.code)
  | .batch family _ => some (.commandPool family CommandBatch.resettable)

theorem prefix_of_begins {P : Request → Prop} {request : Request} {act : Attempt Api α}
    (h : Api.Begins P request act) (e : Env State) : ∃ outcome,
      e.driver.api.trace ++ [⟨request, outcome⟩] <+: ((withApi act).after e).driver.api.trace := by
  rw [api_after_withApi]
  exact h.prefix_trace e.driver.api

/-- After the pipeline there is only a record in the log. -/
theorem prefix_createPipeline (x : Device) (what : PipelineDescriptor Buffer) (e : Env State) :
    ∃ outcome, e.driver.api.trace ++ [⟨.create x.handle (.shaderModule what.code), outcome⟩] <+:
      ((createPipeline x what).after e).driver.api.trace := by
  have first := prefix_of_begins (begins_createPipeline x.handle
    { what with bindings := what.bindings.map fun b => { b with buffer := b.buffer.handle } }) e
  unfold createPipeline
  dsimp only at first ⊢
  generalize withApi (Pipeline.create x.handle _) = act at first ⊢
  cases h : act e with
  | ok p e₁ =>
    rw [Attempt.after_of_ok h] at first
    rw [Attempt.after_bind_of_ok h]
    exact first
  | error error e₁ =>
    rw [Attempt.after_of_error h] at first
    rwa [Attempt.after_bind_of_error h]

/-- Whether a device is alive is not asked before a pipeline or a command batch is made on it. -/
theorem prefix_of_opening {x : (driverOn M).Device} {order : Order (driverOn M)} {what : Creation}
    (h : opening? order = some what) (e : Env (driverOn M).State) : ∃ outcome,
      (State.api e.driver).trace ++ [⟨.create (Device.handle x) what, outcome⟩] <+:
        (State.api (((driverOn M).make x order).after e).driver).trace := by
  cases order with
  | buffer => cases h
  | pipeline what =>
    cases h
    rw [Driver.make, Attempt.after_map]
    exact prefix_createPipeline x what e
  | batch family timestamps =>
    cases h
    rw [Driver.make, Attempt.after_map]
    exact prefix_of_begins (begins_createBatch (Device.handle x) family timestamps) e

/-- **A device that was released stays so, but only buffers are refused on it.** Whatever happens
between the wrapping of a device, its release or destruction, and now: the device is not alive, a
buffer is refused and the API not asked; a pipeline or a command batch is begun on the device as on
any other. -/
theorem released_orders [M.Lawful] {inst handle : Nat} {adapter : AdapterHandle} {x : Device}
    {e₀ e₁ e₂ e₃ e : Env (driverOn M).State} (wrapped : wrapDevice M inst adapter handle e₀ = .ok x e₁)
    (before : Later e₁ e₂) (ended : (driverOn M).Ends x e₂ e₃) (after : Later e₃ e) :
    State.isAlive x e.driver = false ∧ ∀ order : Order (driverOn M),
      (opening? order = none → (driverOn M).make x order e = .error (.invalidState .deviceDestroyed) e) ∧
      ∀ what ∈ opening? order, ∃ outcome,
        (State.api e.driver).trace ++ [⟨.create (Device.handle x) what, outcome⟩] <+:
          (State.api (((driverOn M).make x order).after e).driver).trace := by
  obtain ⟨served, new⟩ := served_wrapDevice wrapped
  obtain ⟨-, known, -⟩ := known_opened served new
  have released := (Device.Released.of_ends ended (known.of_later before)).of_later after
  refine ⟨released.isAlive_eq_false, fun order => ⟨fun h => ?_, fun what h => prefix_of_opening h e⟩⟩
  cases order with
  | buffer size usage => exact Attempt.map_eq_error.2 (released.createBuffer size usage)
  | pipeline | batch => cases h

/-- The driver after a device was wrapped for a manager. -/
def wrapped : Env driver.State := (wrapDevice .own 1 1 2).after { driver := { api := { host := {} } } }

/-- The device was released with the manager; then the same device of the API was wrapped again. -/
def rewrapped : Env driver.State := (wrapDevice .own 1 1 2).after (releaseDevice .own ⟨2, 0⟩ wrapped)

theorem released_orders_rewrapped : State.isAlive ⟨2, 1⟩ rewrapped.driver = true ∧
    State.isAlive ⟨2, 0⟩ rewrapped.driver = false ∧
    driver.make (Device.mk 2 0) (.buffer 4 0) rewrapped =
      .error (.invalidState .deviceDestroyed) rewrapped ∧
    ∃ outcome, (State.api rewrapped.driver).trace ++
        [⟨.create 2 (.commandPool 0 CommandBatch.resettable), outcome⟩] <+:
      (State.api ((driver.make (Device.mk 2 0) (.batch 0 0)).after rewrapped).driver).trace := by
  have first : wrapDevice .own 1 1 2 { driver := { api := { host := {} } } } = .ok ⟨2, 0⟩ wrapped := rfl
  have again : wrapDevice .own 1 1 2 (releaseDevice .own ⟨2, 0⟩ wrapped) = .ok ⟨2, 1⟩ rewrapped := rfl
  obtain ⟨dead, orders⟩ :=
    released_orders first .refl (.release wrapped) (.single (.wraps again))
  exact ⟨rfl, dead, (orders (.buffer 4 0)).1 rfl, (orders (.batch 0 0)).2 _ rfl⟩

/-! ## Managers that come later -/

/-- A manager on a device is destroyed, which releases the device, and another manager is set up
there. -/
def returning : List Operation :=
  [.common (.call (.createInstance "instance" ⟨"vkrt", 1, 1, [], [], false⟩)),
    .common (.call (.createDevice "device" "instance" 1 ⟨[], [], []⟩)),
    .common (.borrow "first" "instance" "device" 1 [0] {}),
    .common (.destroyManager "first"),
    .common (.borrow "second" "instance" "device" 1 [0] {})]

/-- The second manager makes a sequence: three objects of a device that is not alive. -/
theorem stranded_batch :
    (run returning (start (M := .own) {} [])).devices.lookup "device" = some ⟨2, 0⟩ ∧
    State.isAlive ⟨2, 0⟩ (run returning (start (M := .own) {} [])).pool.env.driver = false ∧
    trace ((step (.common (.sequence "second" "sequence" 0 0))).after
        (run returning (start (M := .own) {} []))) =
      trace (run returning (start (M := .own) {} [])) ++
        [⟨.create 2 (.commandPool 0 2), .made 3⟩, ⟨.create 2 (.commandBuffers 3 0 1), .made 4⟩,
          ⟨.create 2 (.fence 0), .made 5⟩] := by
  rw [returning, run_cons, after_createInstance]
  exact ⟨rfl, rfl, rfl⟩

/-- A manager has a tensor, and lends its device to another manager. -/
def sharing : List Operation :=
  [.common (.createManager "owner" {} {}),
    .common (.tensorOfBytes "owner" "own" [1, 2, 3, 4] 1 4 .int),
    .common (.keepHandles "owner" "kept"), .common (.borrow "borrower" "kept" "kept" 1 [0] {})]

/-- A host with an adapter that computes. -/
def computer : Host := { adapters := [{ limits := .plain 1, families := [⟨2, 1, 0⟩] }] }

/-- The owner of a device makes a tensor, and one that it has is destroyed with it. Once a borrower was
torn down, the owner is refused its tensor, and what it has is left behind on the device. -/
theorem stranded_owner :
    let s := run sharing (start (M := .own) computer [])
    let s' := (step (.common (.destroyManager "borrower"))).after s
    let more := .common (.tensorOfBytes "owner" "more" [5, 6, 7, 8] 1 4 .int)
    let destroy := .common (.destroyManager "owner")
    s'.pool.isUsable (.tensor 0) = true ∧
      ((step more).outcome s).1 = .ok (.common .created) ∧
      ((step more).outcome s').1 = .error (.invalidState .deviceDestroyed) ∧
      trace ((step destroy).after s) = trace s ++
        [⟨.destroy 2 .buffer 3, .done⟩, ⟨.waitIdle 2, .done⟩, ⟨.unmapMemory 2, .done⟩,
          ⟨.freeMemory 2, .done⟩, ⟨.destroyDevice 2, .done⟩, ⟨.destroyInstance 1, .done⟩] ∧
      trace ((step destroy).after s') = trace s' ++
        [⟨.destroyDevice 2, .done⟩, ⟨.destroyInstance 1, .done⟩] := by
  rw [sharing, run_cons, after_common]
  -- Characters are looked for in lists of them, which the kernel can evaluate.
  simp only [Session.step, Session.addManager, Manager.create, Bootstrap.createInstance,
    Bootstrap.createDevice, driverOn, createInstance, checkNames, String.contains_char_eq]
  refine ⟨?_, ?_, ?_, ?_, ?_⟩
  · decide +kernel
  · rfl
  · rfl
  · decide +kernel
  · decide +kernel

end GpuCompute.Vulkan
