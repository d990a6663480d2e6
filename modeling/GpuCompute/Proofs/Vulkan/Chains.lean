import GpuCompute.Proofs.Holders
import GpuCompute.Proofs.Lifetimes
import GpuCompute.Proofs.Vulkan.Memory
import GpuCompute.Proofs.Vulkan.Stages

/-!
# Calls of the driver

Whatever the driver does to the API is a sequence of calls (`Api.Calls P`, where `P` says which
calls). The allocator of a device only handles memory, and what makes and destroys objects makes and ends
nothing else (`callsApi_make`, `callsApi_unmake`). Waiting for a device is left to those calls of the
driver that release one (`waitless_passes`).
-/

namespace GpuCompute.Vulkan

variable {α : Type} {P Q : Request → Prop} {request : Request} {a a' a'' : Api} {error : Error}
  {e e' : Env State} {x : Device} {device : Nat} {M : MemoryLibrary} [M.Lawful]

namespace Api

/-- An attempt that makes something by one call and goes on with others. -/
def Begins (P : Request → Prop) (request : Request) (act : Attempt Api α) : Prop :=
  ∃ rest : Nat → Attempt Api α, act = (make request >>= rest) ∧
    ∀ id, Attempt.Leaves (Calls P) (rest id)

namespace Begins

variable {act : Attempt Api α}

theorem calls (h : Begins P request act) (hP : P request) : Attempt.Leaves (Calls P) act := by
  obtain ⟨rest, rfl, h⟩ := h
  exact .bind Calls.trans (calls_make hP) h

/-- However the attempt ends, its first call is in the trace. -/
theorem prefix_trace (h : Begins P request act) (a : Api) :
    ∃ outcome, a.trace ++ [⟨request, outcome⟩] <+: (act.after a).trace := by
  obtain ⟨rest, rfl, h⟩ := h
  cases made : make request a with
  | ok id a₁ =>
    rw [Attempt.after_bind_of_ok made]
    exact ⟨_, (make_ok made).trace ▸ (h id a₁).prefix_trace⟩
  | error error a₁ =>
    rw [Attempt.after_bind_of_error made]
    obtain ⟨code, adds⟩ := make_error made
    rw [adds.trace]
    exact ⟨_, List.prefix_rfl⟩

end Begins

end Api

open Api

/-! ## Objects -/

/-- A call that makes and ends nothing but objects of devices. -/
def Request.OfObjects : Request → Prop
  | .create .. | .destroy .. | .freeCommandBuffers .. | .updateDescriptorSets ..
  | .bufferRequirements .. | .bindBuffer .. | .allocateMemory _ | .freeMemory _ | .mapMemory _
  | .unmapMemory _ => True
  | _ => False

theorem Request.OfMemory.ofObjects (h : Request.OfMemory device request) : request.OfObjects := by
  simp only [Request.OfMemory, List.mem_cons, List.not_mem_nil, or_false] at h
  obtain rfl | rfl | rfl | rfl := h <;> trivial

/-- A call that ends objects of devices or gives memory back, and makes nothing. -/
def Request.Discards : Request → Prop
  | .destroy .. | .freeCommandBuffers .. | .unmapMemory _ | .freeMemory _ => True
  | _ => False

theorem Request.Frees.discards (h : request.Frees device) : request.Discards := by
  simp only [Request.Frees, List.mem_cons, List.not_mem_nil, or_false] at h
  obtain rfl | rfl := h <;> trivial

theorem Request.Discards.ofObjects (h : request.Discards) : request.OfObjects := by
  cases request with
  | destroy | freeCommandBuffers | unmapMemory | freeMemory => trivial
  | _ => exact h.elim

theorem begins_createBatch (device : Nat) (family timestamps : UInt32) :
    Begins Request.OfObjects (.create device (.commandPool family CommandBatch.resettable))
      (CommandBatch.create device family timestamps) := by
  have made (what : Creation) : Attempt.Leaves (Calls Request.OfObjects)
      (make (.create device what)) := calls_make trivial
  refine ⟨_, CommandBatch.create_eq device family timestamps, fun pool => ?_⟩
  refine .undoing Calls.trans (.bind Calls.trans (made _) fun buffer => ?_) (Calls.of_call trivial)
  refine .undoing Calls.trans (.bind Calls.trans (made _) fun fence => ?_) (Calls.of_call trivial)
  refine .undoing Calls.trans (.bind Calls.trans ?_ fun queries => ?_) (Calls.of_call trivial)
  · unfold CommandBatch.createTimestampPool
    split
    · exact .pure Calls.refl _
    · exact .bind Calls.trans (made _) fun _ => .pure Calls.refl _
  · exact .pure Calls.refl _

theorem begins_createPipeline (device : Nat) (what : PipelineDescriptor Nat) :
    Begins Request.OfObjects (.create device (.shaderModule what.code))
      (Pipeline.create device what) := by
  have made (what : Creation) : Attempt.Leaves (Calls Request.OfObjects)
      (make (.create device what)) := calls_make trivial
  refine ⟨_, Pipeline.create_eq device what, fun shaderModule => ?_⟩
  refine .undoing Calls.trans (.bind Calls.trans (made _) fun setLayout => ?_) (Calls.of_call trivial)
  refine .undoing Calls.trans (.bind Calls.trans (made _) fun pool => ?_) (Calls.of_call trivial)
  refine .undoing Calls.trans (.bind Calls.trans (made _) fun set => ?_) (Calls.of_call trivial)
  refine .bind Calls.trans (calls_modify trivial) fun _ => ?_
  refine .bind Calls.trans (made _) fun layout => ?_
  refine .undoing Calls.trans ?_ (Calls.of_call trivial)
  exact .bind Calls.trans (calls_makePipeline trivial fun _ => trivial) fun _ => .pure Calls.refl _

theorem calls_destroyObject (kind : ObjectKind) (object : Nat) (a : Api) :
    Calls Request.Discards a (a.destroyObject device kind object) := by
  unfold destroyObject
  split
  · exact .refl a
  · exact .of_call trivial a

theorem calls_destroyPipeline (device : Nat) (p : Pipeline) (a : Api) :
    Calls Request.Discards a (p.destroy device a) := by
  unfold Pipeline.destroy
  generalize p.objects = objects
  induction objects generalizing a with
  | nil => exact .refl a
  | cons object objects ih => exact .trans _ _ _ (calls_destroyObject _ _ a) (ih _)

theorem calls_destroyBatch (device : Nat) (b : CommandBatch) (a : Api) :
    Calls Request.Discards a (b.destroy device a) := by
  have pool (a : Api) : Calls Request.Discards a (if b.pool = 0 then a
      else (if b.buffer = 0 then a else a.call (.freeCommandBuffers device b.pool [b.buffer])).call
        (.destroy device .commandPool b.pool)) := by
    split
    · exact .refl a
    split
    · exact .of_call trivial a
    · exact .trans _ _ _ (.of_call trivial a) (.of_call trivial _)
  have fence (a : Api) : Calls Request.Discards a (a.destroyObject device .fence b.fence) :=
    calls_destroyObject .fence b.fence a
  have last (a : Api) := Calls.trans _ _ _ (fence a) (pool _)
  unfold CommandBatch.destroy
  cases b.timestampPool with
  | none => exact last a
  | some queries => exact .trans _ _ _ (.of_call trivial a) (last _)

/-! ## The driver -/

/-- Calls of the API between two environments. -/
abbrev CallsApi (P : Request → Prop) (e e' : Env State) : Prop :=
  Calls P e.driver.api e'.driver.api

theorem CallsApi.trans (e e' e'' : Env State) (h : CallsApi P e e') (h' : CallsApi P e' e'') :
    CallsApi P e e'' := Calls.trans _ _ _ h h'

theorem CallsApi.of_driver (h : e'.driver = e.driver) : CallsApi P e e' := by
  rw [CallsApi, h]
  exact .refl _

theorem callsApi_withApi {act : Attempt Api α} (h : Attempt.Leaves (Calls P) act) :
    Attempt.Leaves (CallsApi P) (withApi act) := by
  intro e
  rw [CallsApi, api_after_withApi]
  exact h e.driver.api

theorem callsApi_wrapDevice {inst : Nat} {adapter : AdapterHandle}
    (memory : P (.adapterMemory inst adapter)) (properties : P (.adapterProperties inst adapter))
    (handle : Nat) : Attempt.Leaves (CallsApi P) (wrapDevice M inst adapter handle) := by
  refine .bind CallsApi.trans (callsApi_withApi fun a => ?_) fun m => fun e => .refl _
  refine (MemoryLibrary.Lawful.calls_newAllocator inst adapter handle a).mono fun request h => ?_
  simp only [Request.OfAdapter, List.mem_cons, List.not_mem_nil, or_false] at h
  obtain rfl | rfl := h
  · exact memory
  · exact properties

theorem callsApi_registerCallbacks {inst : Nat} (report : P (.createDebugReport inst reportFlags))
    (messenger : P (.createMessenger inst messengerSeverity messengerTypes))
    (undo : ∀ id, P (.destroyDebugReport inst id)) :
    Attempt.Leaves (CallsApi P) (registerCallbacks inst) := by
  refine callsApi_withApi (.bind Calls.trans (calls_make report) fun id => ?_)
  exact .undoing Calls.trans (.bind Calls.trans (calls_make messenger) fun _ => .pure Calls.refl _)
    (Calls.of_call (undo id))

theorem callsApi_allocate (x : Device) (r : Requirements) :
    Attempt.Leaves (CallsApi Request.OfObjects) (allocate M x r) := by
  intro e
  unfold Attempt.after Attempt.outcome allocate
  cases ha : e.driver.allocator? x with
  | none => exact .refl _
  | some m =>
    have calls := callsApi_withApi (MemoryLibrary.Lawful.calls_allocate (M := M) r m) e
    dsimp only
    cases h : withApi (M.allocate r m) e with
    | error error e' =>
      rw [Attempt.after_of_error h] at calls
      exact calls.mono fun _ => Request.OfMemory.ofObjects
    | ok allocated e' =>
      rw [Attempt.after_of_ok h] at calls
      exact calls.mono fun _ => Request.OfMemory.ofObjects

theorem callsApi_giveUpBuffer (x : Device) (b : Buffer) (e : Env State) :
    CallsApi Request.Discards e (giveUpBuffer M x b e).2 := by
  have first : CallsApi Request.Discards e (call (.destroy x.handle .buffer b.handle) e) :=
    .of_call trivial _
  unfold giveUpBuffer
  dsimp only
  generalize call (.destroy x.handle .buffer b.handle) e = called at first ⊢
  cases hfree : free M x b.allocation called.driver with
  | error fault => exact first
  | ok s =>
    refine CallsApi.trans _ called _ first ?_
    unfold free at hfree
    cases ha : called.driver.allocator? x with
    | none =>
      rw [ha] at hfree
      cases hfree
      exact .refl _
    | some m =>
      rw [ha] at hfree
      cases hf : M.free b.allocation m called.driver.api with
      | error fault => simp [hf, bind, Except.bind] at hfree
      | ok freed =>
        simp only [hf, bind, Except.bind, pure, Except.pure, Except.ok.injEq] at hfree
        rw [← hfree]
        exact (MemoryLibrary.Lawful.calls_free hf).mono fun _ => Request.Frees.discards

theorem callsApi_discardBuffer (x : Device) (b : Buffer) (e : Env State) :
    CallsApi Request.Discards e (discardBuffer M x b e) := by
  rw [CallsApi, driver_discardBuffer]
  exact callsApi_giveUpBuffer x b e

theorem callsApi_createBuffer (x : Device) (size : UInt64) (usage : UInt32) :
    Attempt.Leaves (CallsApi Request.OfObjects) (createBuffer M x size usage) := by
  have get : Attempt.Leaves (CallsApi Request.OfObjects) (get : Act State (Env State)) :=
    fun e => .refl _
  have bind {α β : Type} {x : Act State α} {f : α → Act State β}
      (hx : Attempt.Leaves (CallsApi Request.OfObjects) x)
      (hf : ∀ a, Attempt.Leaves (CallsApi Request.OfObjects) (f a)) :
      Attempt.Leaves (CallsApi Request.OfObjects) (x >>= f) := .bind CallsApi.trans hx hf
  unfold createBuffer
  refine bind get fun e => ?_
  dsimp only
  split
  · exact .throw (fun _ => .refl _) _
  refine bind (callsApi_withApi (calls_make trivial)) fun handle => ?_
  refine bind (.change fun _ => .of_call trivial _) fun _ => bind get fun e => ?_
  refine bind (.undoing CallsApi.trans (callsApi_allocate x _) fun _ => .of_call trivial _)
    fun allocation => ?_
  refine bind (.undoing CallsApi.trans (callsApi_withApi (calls_check trivial _)) fun e =>
    (callsApi_giveUpBuffer x _ e).mono fun _ => Request.Discards.ofObjects) fun _ => ?_
  exact .pure (fun _ => .refl _) _

theorem callsApi_createPipeline (x : Device) (what : PipelineDescriptor Buffer) :
    Attempt.Leaves (CallsApi Request.OfObjects) (createPipeline x what) :=
  .bind CallsApi.trans (callsApi_withApi ((begins_createPipeline _ _).calls trivial)) fun _ =>
    .bind CallsApi.trans (.change fun _ => .refl _) fun _ => .pure (fun _ => .refl _) _

/-- Making an object makes and ends nothing but objects. -/
theorem callsApi_make (x : (driverOn M).Device) (order : Order (driverOn M))
    (e : Env (driverOn M).State) :
    CallsApi Request.OfObjects e (((driverOn M).make x order).after e) := by
  cases order with
  | buffer size usage =>
    rw [Driver.make, Attempt.after_map]
    exact callsApi_createBuffer x size usage e
  | pipeline what =>
    rw [Driver.make, Attempt.after_map]
    exact callsApi_createPipeline x what e
  | batch family timestamps =>
    rw [Driver.make, Attempt.after_map]
    exact callsApi_withApi ((begins_createBatch (Device.handle x) family timestamps).calls trivial) e

/-- Destroying an object makes nothing. -/
theorem discards_unmake (x : Device) (object : Object (driverOn M)) (e : Env State) :
    CallsApi Request.Discards e ((driverOn M).unmake x object e) := by
  have skip {act : Env State → Env State} {skipped : String}
      (h : CallsApi Request.Discards e (act e)) :
      CallsApi Request.Discards e (ifAlive x skipped act e) := by
    unfold ifAlive
    split
    · exact h
    · exact .refl _
  cases object with
  | buffer b => exact skip (callsApi_discardBuffer x b e)
  | pipeline p => exact skip (calls_destroyPipeline _ p _)
  | batch b => exact skip (calls_destroyBatch _ b _)

/-- Destroying an object ends nothing but objects. -/
theorem callsApi_unmake (x : Device) (object : Object (driverOn M)) (e : Env State) :
    CallsApi Request.OfObjects e ((driverOn M).unmake x object e) :=
  (discards_unmake x object e).mono fun _ => Request.Discards.ofObjects

/-- Giving objects of resources up makes nothing. -/
theorem discards_of_destroys {p q : Pool (driverOn M)} (h : p.Destroys q) :
    CallsApi Request.Discards p.env q.env :=
  h.driver (P := fun s => Calls Request.Discards p.env.driver.api (State.api s)) (.refl _)
    fun x object e calls => calls.trans _ _ _ (discards_unmake x object e)

/-! ## Calls that wait -/

/-- The device for which a call waits. -/
def Request.waitsFor? : Request → Option Nat
  | .waitIdle device => some device
  | _ => none

/-- A call that waits for no device. -/
abbrev Request.Waitless (request : Request) : Prop := request.waitsFor? = none

theorem Request.OfObjects.waitless (h : request.OfObjects) : request.Waitless := by
  cases request with
  | waitIdle => exact h.elim
  | _ => rfl

theorem waitless_call (request : Request) (hr : request.Waitless) (e : Env State) :
    CallsApi Request.Waitless e (call request e) := Calls.of_call hr _

theorem waitless_make (request : Request) (hr : request.Waitless) :
    Attempt.Leaves (Calls Request.Waitless) (make request) := calls_make hr

theorem waitless_wrapDevice (inst : Nat) (adapter : AdapterHandle) (handle : Nat) :
    Attempt.Leaves (CallsApi Request.Waitless) (wrapDevice M inst adapter handle) :=
  callsApi_wrapDevice (P := Request.Waitless) rfl rfl handle

theorem waitless_createDevice (inst : Nat) (adapter : AdapterHandle) (what : DeviceDescriptor) :
    Attempt.Leaves (CallsApi Request.Waitless) (createDevice M inst adapter what) := by
  refine .bind CallsApi.trans (.ofExcept (fun _ => .refl _) _) fun _ => ?_
  refine .bind CallsApi.trans (.ofExcept (fun _ => .refl _) _) fun _ => ?_
  refine .bind CallsApi.trans (callsApi_withApi (waitless_make _ rfl)) fun handle => ?_
  exact .undoing CallsApi.trans (waitless_wrapDevice inst adapter handle)
    (waitless_call (.destroyDevice handle) rfl)

theorem waitless_createInstance (what : InstanceDescriptor) :
    Attempt.Leaves (CallsApi Request.Waitless) (createInstance what) := by
  intro e
  rcases createInstance_eq what e with ⟨error, h⟩ | ⟨info, h⟩
  · rw [Attempt.after_of_error h]
    exact .refl _
  · have made := callsApi_withApi (waitless_make (.createInstance info) rfl) e
    unfold Attempt.after Attempt.outcome at made ⊢
    rwa [h]

/-- Only a release of a device waits, and a destruction, which releases it. -/
theorem waitless_passes {e e' : Env (driverOn M).State} (h : (driverOn M).Passes e e') :
    CallsApi Request.Waitless e e' := by
  cases h with
  | asks h =>
    rcases asksApi_of_asks M (wrapDevice M) h with same | ⟨request, outcome, asks, -, adds, -⟩
    · exact .of_driver same
    · exact .of_adds adds (by cases request <;> first | rfl | exact asks.elim)
  | createInstance what => exact waitless_createInstance what e
  | registerCallbacks inst =>
    exact callsApi_registerCallbacks (P := Request.Waitless) rfl rfl (fun _ => rfl) e
  | unregisterCallbacks inst c => exact (waitless_call _ rfl e).trans _ _ _ (waitless_call _ rfl _)
  | destroyInstance inst => exact waitless_call _ rfl e
  | refusesDevice h => exact (waitless_createDevice _ _ _).of_error h
  | make x order => exact (callsApi_make x order e).mono fun _ => Request.OfObjects.waitless
  | unmake x object => exact (callsApi_unmake x object e).mono fun _ => Request.OfObjects.waitless

end GpuCompute.Vulkan
