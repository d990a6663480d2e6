import GpuCompute.Proofs.Ledger
import GpuCompute.Proofs.Vulkan.Memory

/-!
# The ledger of the Vulkan driver

The trace of the API is a ledger of the Vulkan driver (`ledger`). How a device gets its allocator is
left open: all that is used is that it only asks and that it keeps the handle of the device (`Wraps`).
With the ledger of recorded drivers this says what is left of a construction that fails
(`allOrNothing_create`).
-/

namespace GpuCompute.Vulkan

/-- Whatever comes of wrapping a device, nothing of the API is made or ended, and a wrapped device has
the handle that was given. -/
structure Wraps (wrap : Nat → AdapterHandle → Nat → Act State Device) : Prop where
  asks : ∀ inst adapter handle, Attempt.Leaves
    (fun e e' => reading.Enters [] [] e.driver.api.trace e'.driver.api.trace)
    (wrap inst adapter handle)
  handle : ∀ {inst adapter handle e x e'}, wrap inst adapter handle e = .ok x e' → x.handle = handle

section

variable {P : Request → Prop} {request : Request} {outcome : Outcome} {a a' : Api} {error : Error}
  {e e' : Env State}

/-- The entries of a call. -/
theorem Api.Adds.enters (h : Api.Adds request outcome a a') :
    reading.Enters (Event.made? ⟨request, outcome⟩).toList request.ends a.trace a'.trace := by
  rw [h.trace]
  exact Reading.Enters.of_append (r := reading) ⟨request, outcome⟩ a.trace

theorem Api.Adds.enters_failed {code : ResultCode} (h : Api.Adds request (.failed code) a a')
    (hr : request.ends = []) : reading.Enters [] [] a.trace a'.trace := by
  simpa [Event.made?, Outcome.handle?, hr] using h.enters

theorem Api.Adds.enters_done (h : Api.Adds request .done a a') :
    reading.Enters [] request.ends a.trace a'.trace := by
  simpa [Event.made?, Outcome.handle?] using h.enters

/-- Calls that neither make nor end anything. -/
theorem Api.Calls.enters_nothing (h : Api.Calls P a a')
    (idle : ∀ request, P request → request.ends = [] ∧ ∀ id, request.product? id = none) :
    reading.Enters [] [] a.trace a'.trace := by
  refine h.induct (R := fun a a' => reading.Enters [] [] a.trace a'.trace) (.refl _) ?_
  intro a₁ a₂ request outcome ih hP adds
  obtain ⟨ends, product⟩ := idle request hP
  refine ih.trans ?_
  have entered := adds.enters
  rwa [ends, show Event.made? ⟨request, outcome⟩ = none by
    cases h : outcome.handle? <;> simp [Event.made?, h, product]] at entered

theorem enters_call (request : Request) (e : Env State) :
    reading.Enters [] request.ends e.driver.api.trace (call request e).driver.api.trace :=
  (Api.adds_call request _).enters_done

theorem enters_asksApi {I D : Nat → Prop} {s s' : State} (h : AsksApi I D s s') :
    reading.Enters [] [] s.api.trace s'.api.trace := by
  rcases h with rfl | ⟨request, outcome, asks, handle, adds, -⟩
  · exact .refl _
  · have ends : request.ends = [] := by cases request <;> first | rfl | exact asks.elim
    simpa [Event.made?, handle, ends] using adds.enters

/-! ## Instances and devices -/

theorem enters_make_ok {id : Nat} (hr : request.ends = [])
    (h : withApi (Api.make request) e = .ok id e') :
    reading.Enters (request.product? id).toList [] e.driver.api.trace e'.driver.api.trace := by
  obtain ⟨a, ha, rfl⟩ := withApi_eq_ok.1 h
  simpa [Event.made?, Outcome.handle?, hr] using (Api.make_ok ha).enters

theorem enters_make_error (hr : request.ends = [])
    (h : withApi (Api.make request) e = .error error e') :
    reading.Enters [] [] e.driver.api.trace e'.driver.api.trace := by
  obtain ⟨a, ha, rfl⟩ := withApi_eq_error.1 h
  obtain ⟨code, adds⟩ := Api.make_error ha
  exact adds.enters_failed hr

theorem createInstance_ok {what : InstanceDescriptor} {i : Nat}
    (h : createInstance what e = .ok i e') :
    reading.Enters [.inst i] [] e.driver.api.trace e'.driver.api.trace := by
  obtain ⟨error, h'⟩ | ⟨info, h'⟩ := createInstance_eq what e <;> rw [h'] at h
  · cases h
  · exact enters_make_ok rfl h

theorem createInstance_error {what : InstanceDescriptor}
    (h : createInstance what e = .error error e') :
    reading.Enters [] [] e.driver.api.trace e'.driver.api.trace := by
  obtain ⟨error, h'⟩ | ⟨info, h'⟩ := createInstance_eq what e <;> rw [h'] at h
  · cases h
    exact .refl _
  · exact enters_make_error rfl h

theorem enters_unregisterCallbacks (inst : Nat) (c : Callbacks) (e : Env State) :
    reading.Enters [] [.report c.report, .messenger c.messenger] e.driver.api.trace
      (unregisterCallbacks inst c e).driver.api.trace :=
  (enters_call (.destroyDebugReport inst c.report) e).trans
    (enters_call (.destroyMessenger inst c.messenger) _)

theorem enters_registerCallbacks_ok {inst : Nat} {c : Callbacks}
    (h : registerCallbacks inst e = .ok c e') :
    reading.Enters [.report c.report, .messenger c.messenger] [] e.driver.api.trace
      e'.driver.api.trace := by
  obtain ⟨a₁, a₂, report, messenger, rfl⟩ := registerCallbacks_ok h
  exact report.enters.trans messenger.enters

theorem withdraws_registerCallbacks {inst : Nat} (h : registerCallbacks inst e = .error error e') :
    reading.Withdraws (Thing.role · = .callbacks) e.driver.api.trace e'.driver.api.trace := by
  obtain ⟨code, a, failed, rfl⟩ | ⟨report, code, a₁, a₂, made, failed, rfl⟩ :=
    registerCallbacks_error h
  · exact ⟨none, _, by simp, failed.enters_failed rfl, .refl _⟩
  · refine ⟨some (.report report), a₂.trace, by simp [Thing.role], ?_, ?_⟩
    · exact made.enters.trans (failed.enters_failed rfl)
    · exact (Api.adds_call (.destroyDebugReport inst report) a₂).enters_done

variable {wrap : Nat → AdapterHandle → Nat → Act State Device}

theorem enters_createDevice_ok (hw : Wraps wrap) {inst : Nat} {adapter : AdapterHandle}
    {what : DeviceDescriptor} {x : Device}
    (h : createDeviceWith wrap inst adapter what e = .ok x e') :
    reading.Enters [.device x.handle] [] e.driver.api.trace e'.driver.api.trace := by
  obtain ⟨error, h'⟩ | ⟨info, h'⟩ := createDeviceWith_eq wrap inst adapter what e <;> rw [h'] at h
  · cases h
  · obtain ⟨handle, e₁, made, h⟩ := Attempt.bind_eq_ok.1 h
    have wrapped := Attempt.undoing_eq_ok.1 h
    rw [hw.handle wrapped]
    exact (enters_make_ok rfl made).trans ((hw.asks _ _ _).of_ok wrapped)

theorem withdraws_createDevice (hw : Wraps wrap) {inst : Nat} {adapter : AdapterHandle}
    {what : DeviceDescriptor} (h : createDeviceWith wrap inst adapter what e = .error error e') :
    reading.Withdraws (Thing.role · = .device) e.driver.api.trace e'.driver.api.trace := by
  obtain ⟨error, h'⟩ | ⟨info, h'⟩ := createDeviceWith_eq wrap inst adapter what e <;> rw [h'] at h
  · cases h
    exact ⟨none, _, by simp, .refl _, .refl _⟩
  · rcases Attempt.bind_eq_error.1 h with failed | ⟨handle, e₁, made, h⟩
    · exact ⟨none, _, by simp, enters_make_error rfl failed, .refl _⟩
    · obtain ⟨e₂, failed, rfl⟩ := Attempt.undoing_eq_error.1 h
      refine ⟨some (.device handle), e₂.driver.api.trace, by simp [Thing.role], ?_, ?_⟩
      · exact (enters_make_ok rfl made).trans ((hw.asks _ _ _).of_error failed)
      · exact enters_call (.destroyDevice handle) e₂

end

/-- The ledger of the Vulkan driver: the trace of the API. -/
def ledger {M : MemoryLibrary} {wrap : Nat → AdapterHandle → Nat → Act State Device}
    (hw : Wraps wrap) :
    Ledger (driverWith M wrap) where
  Event := Event
  Thing := Thing
  role := Thing.role
  reading := reading
  trace s := (State.api s).trace
  inst := Thing.inst
  callbacks := fun c : Callbacks => [.report c.report, .messenger c.messenger]
  device := fun x : Device => .device x.handle
  role_inst _ := rfl
  role_callbacks _ := by simp [Thing.role]
  nodup_callbacks _ := by simp
  role_device _ := rfl
  asks h := enters_asksApi (asksApi_of_asks M wrap h)
  createInstance_ok h := createInstance_ok h
  createInstance_error h := createInstance_error h
  registerCallbacks_ok h := enters_registerCallbacks_ok h
  registerCallbacks_error h := withdraws_registerCallbacks h
  unregisterCallbacks i c e := enters_unregisterCallbacks i c e
  destroyInstance i e := enters_call (.destroyInstance i) e
  createDevice_ok h := enters_createDevice_ok hw h
  createDevice_error h := withdraws_createDevice hw h

theorem Request.OfAdapter.ends_products {inst : Nat} {adapter : AdapterHandle} {request : Request}
    (h : request.OfAdapter inst adapter) : request.ends = [] ∧ ∀ id, request.product? id = none := by
  simp only [Request.OfAdapter, List.mem_cons, List.not_mem_nil, or_false] at h
  obtain rfl | rfl := h <;> exact ⟨rfl, fun _ => rfl⟩

/-- Devices that get their allocator from a library are wrapped in the sense of `Wraps`. -/
theorem wraps_wrapDevice (M : MemoryLibrary) [M.Lawful] : Wraps (wrapDevice M) where
  asks inst adapter handle := by
    have asks : Attempt.Leaves (fun e e' => reading.Enters [] [] e.driver.api.trace
        e'.driver.api.trace) (withApi (M.newAllocator inst adapter handle)) := fun e => by
      dsimp only
      rw [api_after_withApi]
      exact (MemoryLibrary.Lawful.calls_newAllocator inst adapter handle e.driver.api).enters_nothing
        fun _ => Request.OfAdapter.ends_products
    exact .bind (fun _ _ _ h h' => h.trans h') asks fun _ => fun e => .refl _
  handle {inst adapter handle e x e'} h := by
    obtain ⟨m, e₁, -, h⟩ := Attempt.bind_eq_ok.1 h
    cases h
    rfl

/-- The ledger of the driver with a library. -/
abbrev MemoryLibrary.ledger (M : MemoryLibrary) [M.Lawful] : Ledger (driverOn M) :=
  Vulkan.ledger (M := M) (wraps_wrapDevice M)

/-- **Construction is all-or-nothing.** Whatever a driver answers, and whichever calls of the Vulkan
API fail: when a manager cannot be made, what was made for it has been destroyed, each thing once and
the instance last, and nothing else was destroyed; when it is made, nothing was destroyed, and what was
made is the instance, the callbacks and the device that it owns. -/
theorem create_all_or_nothing :
    (∀ (d : Driver) (config : Config) (selection : Selection) (e : Env d.recorded.State),
      d.ledger.AllOrNothing config e (Manager.create d.recorded config selection e)) ∧
    ∀ (M : MemoryLibrary) (wrap : Nat → AdapterHandle → Nat → Act State Device) (hw : Wraps wrap)
      (config : Config) (selection : Selection) (e : Env State),
      (ledger hw).AllOrNothing config e (Manager.create (driverWith M wrap) config selection e) :=
  ⟨fun d => d.ledger.allOrNothing_create, fun _ _ hw => (ledger hw).allOrNothing_create⟩

/-- A library that asks for what it needs to know, and then has no allocators. -/
def MemoryLibrary.exhausted : MemoryLibrary where
  newAllocator inst adapter device := do
    let _ ← Allocator.forDevice inst adapter device
    throw (.allocation .outOfMemory)
  allocate := Allocator.allocate
  free := Allocator.free
  close := Allocator.close

instance : MemoryLibrary.exhausted.Lawful where
  device_newAllocator h := by
    obtain ⟨m, a, -, h⟩ := Attempt.bind_eq_ok.1 h
    cases h
  device_allocate := Allocator.device_allocate
  device_free := Allocator.device_free
  calls_newAllocator inst adapter device :=
    .bind Api.Calls.trans (Allocator.calls_forDevice inst adapter device) fun _ =>
      .throw Api.Calls.refl _
  calls_allocate := Allocator.calls_allocate
  calls_free := Allocator.calls_free
  calls_close := Allocator.calls_close

/-- A host with an adapter, on which validation layers report and print. -/
def reporting : Host where
  adapters := [{ limits := .plain 1, families := [⟨2, 1, 0⟩]
                 extensions := [Text.encode Bootstrap.shaderPrintExtension] }]
  instanceExtensions := Bootstrap.debugExtensions.map Text.encode
  instanceLayers := [Text.encode "VK_LAYER_KHRONOS_validation"]

/-- A manager with callbacks is made on this host, as far as the library allows. -/
def unwrapped : Act State (Manager (driverWith .exhausted (wrapDevice .exhausted))) :=
  Manager.create (driverWith .exhausted (wrapDevice .exhausted)) { diagnostics := true } {}

/-- The device was made when the library fails; it is destroyed, then the callbacks, then the instance. -/
theorem create_all_or_nothing_exhausted :
    let e : Env State := { driver := { api := { host := reporting } } }
    ∃ error e', unwrapped e = .error error e' ∧
      (ledger (M := .exhausted) (wraps_wrapDevice .exhausted)).TakesBack e e' ∧
      e'.driver.api.trace =
        [⟨.enumerateInstanceExtensions, .done⟩, ⟨.enumerateInstanceLayers, .done⟩,
          ⟨.createInstance ⟨"vkrt", packVersion 0 0 1 0, packVersion 0 1 2 0,
            ["VK_EXT_debug_report", "VK_EXT_debug_utils"], [], none⟩, .made 1⟩,
          ⟨.createDebugReport 1 reportFlags, .made 2⟩,
          ⟨.createMessenger 1 messengerSeverity messengerTypes, .made 3⟩,
          ⟨.enumerateAdapters 1, .done⟩, ⟨.adapterProperties 1 1, .done⟩,
          ⟨.adapterFamilies 1 1, .done⟩, ⟨.enumerateDeviceExtensions 1 1, .done⟩,
          ⟨.enumerateInstanceLayers, .done⟩,
          ⟨.createDevice 1 1 ⟨[⟨0, [0x3F800000]⟩], ["VK_KHR_shader_non_semantic_info"], []⟩, .made 4⟩,
          ⟨.adapterMemory 1 1, .done⟩, ⟨.adapterProperties 1 1, .done⟩,
          ⟨.destroyDevice 4, .done⟩, ⟨.destroyDebugReport 1 2, .done⟩,
          ⟨.destroyMessenger 1 3, .done⟩, ⟨.destroyInstance 1, .done⟩] := by
  intro e
  have all : (ledger (wraps_wrapDevice .exhausted)).AllOrNothing { diagnostics := true } e (unwrapped e) :=
    create_all_or_nothing.2 .exhausted _ (wraps_wrapDevice .exhausted) { diagnostics := true } {} e
  cases h : unwrapped e with
  | ok m e' =>
    have made : (unwrapped.outcome e).1.isOk = true := by rw [Attempt.outcome, h]; rfl
    have failed : (unwrapped.outcome e).1.isOk = false := by
      simp only [unwrapped, Manager.create, Bootstrap.createInstance, Bootstrap.createDevice,
        driverWith, driverOn, createInstance, createDeviceWith, checkNames, String.contains_char_eq]
      decide +kernel
    cases made.symm.trans failed
  | error error e' =>
    rw [h] at all
    refine ⟨error, e', rfl, all, ?_⟩
    rw [← Attempt.after_of_error h]
    -- Characters are looked for in lists of them, which the kernel can evaluate.
    simp only [unwrapped, Manager.create, Bootstrap.createInstance, Bootstrap.createDevice,
      driverWith, driverOn, createInstance, createDeviceWith, checkNames, String.contains_char_eq]
    decide +kernel

end GpuCompute.Vulkan
