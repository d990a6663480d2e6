import GpuCompute.Proofs.Views
import GpuCompute.Vulkan.Session

/-!
# The Vulkan driver does not depend on the log

What the driver does is calls of the API, which know nothing of the log, and changes of its allocators.
It writes to the log, but never looks at it.
-/

namespace GpuCompute.Vulkan

variable {α : Type} {M : MemoryLibrary}

/-! ## Calls of the API -/

theorem oblivious_withApi (act : Attempt Api α) : Act.Oblivious (withApi act) := by
  intro l l' e e' h
  unfold withApi Attempt.within
  dsimp only
  rw [h.1]
  cases act e.driver.api with
  | ok a api => exact .ok rfl (h.onDriver _)
  | error error api => exact .error (h.onDriver _)

theorem oblivious_call (request : Request) : Env.Oblivious (call request) := Env.oblivious_onDriver _

theorem oblivious_query (request : Request) (answer : Host → α) :
    Act.Oblivious (query request answer) :=
  .bind (oblivious_withApi _) fun _ => .get_bind (fun _ => .pure _) fun _ _ h => by rw [h]

theorem oblivious_look (request : Request) (answer : Host → α) :
    Act.Oblivious (Attempt.ofState (look request answer)) :=
  .ofState (fun _ _ h => congrArg (fun s : State => answer s.api.host) h) (oblivious_call request)

/-! ## Instances and devices -/

theorem oblivious_createInstance (what : InstanceDescriptor) :
    Act.Oblivious (createInstance what) := by
  refine .ite (.bind (.throw _) fun _ => ?_) ?_ <;>
    exact .bind (.ofExcept _) fun _ => .bind (.ofExcept _) fun _ => oblivious_withApi _

theorem oblivious_unregisterCallbacks (inst : Nat) (c : Callbacks) :
    Env.Oblivious (unregisterCallbacks inst c) := fun l l' _ _ h =>
  oblivious_call _ l l' _ _ (oblivious_call _ l l' _ _ h)

theorem oblivious_wrapDevice (inst : Nat) (adapter : AdapterHandle) (handle : Nat) :
    Act.Oblivious (wrapDevice M inst adapter handle) :=
  .bind (oblivious_withApi _) fun _ =>
    .modifyGet (fun _ _ h => congrArg (fun s : State => Device.mk handle s.allocators.length) h)
      (Env.oblivious_onDriver _)

theorem oblivious_createDevice (inst : Nat) (adapter : AdapterHandle) (what : DeviceDescriptor) :
    Act.Oblivious (createDevice M inst adapter what) :=
  .bind (.ofExcept _) fun _ => .bind (.ofExcept _) fun _ => .bind (oblivious_withApi _) fun handle =>
    .undoing (oblivious_wrapDevice inst adapter handle) (oblivious_call _)

theorem oblivious_waitIdle (device : Device) : Env.Oblivious (waitIdle device) := by
  intro l l' e e' h
  have ends := oblivious_withApi (Api.invoke (.waitIdle device.handle)) l l' e e' h
  unfold waitIdle Attempt.outcome
  generalize withApi (Api.invoke (.waitIdle device.handle)) e = r,
    withApi (Api.invoke (.waitIdle device.handle)) e' = r' at ends
  cases ends with
  | ok value state => exact state
  | @error error _ _ state =>
    cases error with
    | vulkan => exact state.write _
    | _ => exact state

theorem oblivious_releaseDevice (device : Device) : Env.Oblivious (releaseDevice M device) := by
  intro l l' e e' h
  unfold releaseDevice
  rw [h.1]
  split
  · exact (oblivious_waitIdle device l l' e e' h).onDriver _
  · exact h

/-! ## Objects -/

theorem oblivious_allocate (device : Device) (r : Requirements) :
    Act.Oblivious (allocate M device r) := by
  intro l l' e e' h
  unfold allocate
  rw [h.1]
  cases e.driver.allocator? device with
  | none => exact .error h
  | some a =>
    dsimp only
    have ends := oblivious_withApi (M.allocate r a) l l' e e' h
    generalize withApi (M.allocate r a) e = x, withApi (M.allocate r a) e' = x' at ends
    cases ends with
    | ok value state =>
      subst value
      exact .ok rfl (state.onDriver _)
    | error state => exact .error state

/-- Giving a buffer up does the same to the driver, whatever the log is, and the log stays as it was. -/
theorem oblivious_giveUpBuffer (device : Device) (b : Buffer) : Env.Oblivious fun e =>
    (giveUpBuffer M device b e).2 := by
  intro l l' e e' h
  have called := oblivious_call (.destroy device.handle .buffer b.handle) l l' e e' h
  unfold giveUpBuffer
  dsimp only
  rw [called.1]
  cases free M device b.allocation (call (.destroy device.handle .buffer b.handle) e).driver with
  | ok s => exact ⟨rfl, called.2⟩
  | error fault => exact called

theorem oblivious_discardBuffer (device : Device) (b : Buffer) :
    Env.Oblivious (discardBuffer M device b) := by
  intro l l' e e' h
  have called := oblivious_call (.destroy device.handle .buffer b.handle) l l' e e' h
  unfold discardBuffer giveUpBuffer
  dsimp only
  rw [called.1]
  cases free M device b.allocation (call (.destroy device.handle .buffer b.handle) e).driver with
  | ok s => exact ⟨rfl, called.2⟩
  | error fault => exact called.write _

theorem oblivious_createBuffer (device : Device) (size : UInt64) (usage : UInt32) :
    Act.Oblivious (createBuffer M device size usage) := by
  refine .get_bind (fun _ => .ite (.bind (.throw _) fun _ => ?_) ?_) (fun _ _ h => by rw [h]) <;>
  · refine .bind (oblivious_withApi _) fun handle => .bind (.change (oblivious_call _)) fun _ =>
      .get_bind (fun e => ?_) fun _ _ h => by rw [h]
    refine .bind (.undoing (oblivious_allocate device _) (oblivious_call _)) fun allocation => ?_
    exact .bind (.undoing (oblivious_withApi _) (oblivious_giveUpBuffer device _)) fun _ => .pure _

theorem oblivious_ifAlive (device : Device) (skipped : String) {act : Env State → Env State}
    (h : Env.Oblivious act) : Env.Oblivious (ifAlive device skipped act) := by
  intro l l' e e' hb
  unfold ifAlive
  rw [hb.1]
  split
  · exact h l l' e e' hb
  · exact hb.write _

theorem oblivious_createPipeline (device : Device) (what : PipelineDescriptor Buffer) :
    Act.Oblivious (createPipeline device what) :=
  .bind (oblivious_withApi _) fun _ => .bind (.write _) fun _ => .pure _

/-! ## The driver -/

theorem oblivious : (driverOn M).Oblivious where
  instanceExtensions :=
    oblivious_query .enumerateInstanceExtensions fun h => nameTexts h.instanceExtensions
  instanceLayers := oblivious_query .enumerateInstanceLayers fun h => nameTexts h.instanceLayers
  createInstance := oblivious_createInstance
  registerCallbacks _ := oblivious_withApi _
  unregisterCallbacks := oblivious_unregisterCallbacks
  destroyInstance _ := oblivious_call _
  adapters inst := oblivious_query (.enumerateAdapters inst) Host.adapterHandles
  properties inst adapter :=
    oblivious_look (.adapterProperties inst adapter) fun h => (h.adapter adapter).properties
  queueFamilies inst adapter :=
    oblivious_look (.adapterFamilies inst adapter) fun h => (h.adapter adapter).families
  deviceExtensions inst adapter :=
    oblivious_query (.enumerateDeviceExtensions inst adapter) fun h =>
      nameTexts (h.adapter adapter).extensions
  createDevice := oblivious_createDevice
  queue _ _ _ := .ofState (fun _ _ _ => rfl) (oblivious_call _)
  releaseDevice := oblivious_releaseDevice
  destroyDevice device l l' _ _ h :=
    oblivious_call _ l l' _ _ (oblivious_releaseDevice device l l' _ _ h)
  createBuffer := oblivious_createBuffer
  destroyBuffer device buffer := oblivious_ifAlive device _ (oblivious_discardBuffer device buffer)
  createPipeline := oblivious_createPipeline
  destroyPipeline device _ := oblivious_ifAlive device _ (Env.oblivious_onDriver _)
  createBatch device family timestamps :=
    oblivious_withApi (CommandBatch.create (Device.handle device) family timestamps)
  destroyBatch device _ := oblivious_ifAlive device _ (Env.oblivious_onDriver _)

/-- A manager on handles of the API is made in the same way in environments that the driver cannot tell
apart. -/
theorem respects_borrowRaw {R : Env State → Env State → Prop} (h : (driverOn M).Respects R)
    (hwrap : ∀ inst adapter handle, Act.Respects R (wrapDevice M inst adapter handle))
    (config : Config) (inst : Nat) (adapter : AdapterHandle) (device : Nat) (families : List UInt32) :
    Act.Respects R (borrowRaw (M := M) config inst adapter device families) :=
  (hwrap inst adapter device).bind_same fun _ =>
    Manager.respects_borrow h config inst adapter _ families

end GpuCompute.Vulkan
