import GpuCompute.Proofs.Agreement
import GpuCompute.Session

/-!
# What a driver does not look at

Two environments may differ in what no call of a driver looks at: then every call comes to the same
answer in both, and leaves environments that differ in nothing else (`Driver.Respects`). The same is true
of all that is built from calls of the driver.
-/

namespace GpuCompute

open Attempt (Alike)

variable {σ α : Type}

/-- A change of the environment leaves environments related. -/
def Env.Respects (R : Env σ → Env σ → Prop) (f : Env σ → Env σ) : Prop :=
  ∀ e e', R e e' → R (f e) (f e')

/-- An action comes to the same answer in related environments, and leaves them related. -/
abbrev Act.Respects (R : Env σ → Env σ → Prop) (act : Act σ α) : Prop := Alike R Eq act act

variable {d : Driver}

/-- Related environments differ in nothing that a driver looks at. -/
structure Driver.Respects (d : Driver) (R : Env d.State → Env d.State → Prop) : Prop where
  write : ∀ r, Env.Respects R (.write r)
  isAlive : ∀ device e e', R e e' → d.isAlive device e'.driver = d.isAlive device e.driver
  instanceExtensions : Act.Respects R d.instanceExtensions
  instanceLayers : Act.Respects R d.instanceLayers
  createInstance : ∀ what, Act.Respects R (d.createInstance what)
  registerCallbacks : ∀ inst, Act.Respects R (d.registerCallbacks inst)
  unregisterCallbacks : ∀ inst callbacks, Env.Respects R (d.unregisterCallbacks inst callbacks)
  destroyInstance : ∀ inst, Env.Respects R (d.destroyInstance inst)
  adapters : ∀ inst, Act.Respects R (d.adapters inst)
  properties : ∀ inst adapter, Act.Respects R (Attempt.ofState (d.properties inst adapter))
  queueFamilies : ∀ inst adapter, Act.Respects R (Attempt.ofState (d.queueFamilies inst adapter))
  deviceExtensions : ∀ inst adapter, Act.Respects R (d.deviceExtensions inst adapter)
  createDevice : ∀ inst adapter what, Act.Respects R (d.createDevice inst adapter what)
  queue : ∀ device family index, Act.Respects R (Attempt.ofState (d.queue device family index))
  releaseDevice : ∀ device, Env.Respects R (d.releaseDevice device)
  destroyDevice : ∀ device, Env.Respects R (d.destroyDevice device)
  createBuffer : ∀ device size usage, Act.Respects R (d.createBuffer device size usage)
  destroyBuffer : ∀ device buffer, Env.Respects R (d.destroyBuffer device buffer)
  createPipeline : ∀ device what, Act.Respects R (d.createPipeline device what)
  destroyPipeline : ∀ device pipeline, Env.Respects R (d.destroyPipeline device pipeline)
  createBatch : ∀ device family timestamps, Act.Respects R (d.createBatch device family timestamps)
  destroyBatch : ∀ device batch, Env.Respects R (d.destroyBatch device batch)

variable {R : Env d.State → Env d.State → Prop} (h : d.Respects R)
include h

/-! ## Setting up -/

theorem Driver.Respects.notes (r : Log.Record) : Act.Respects R (Act.write r) := .change (h.write r)

theorem respects_negotiation (kind : CapabilityKind) (requested available : List String) :
    Act.Respects R (Negotiation.run kind requested available : Act d.State (List String)) :=
  .bind_same (h.notes _) fun _ => .bind_same (h.notes _) fun _ => .ofExcept _

namespace Bootstrap

theorem respects_layers (config : Config) (kind : CapabilityKind) (announcement : String)
    (wanted : List String) : Act.Respects R (layers d config kind announcement wanted) := by
  refine .ite ?_ (.pure rfl)
  exact .bind_same (h.notes _) fun _ =>
    h.instanceLayers.bind_same fun _ => respects_negotiation h _ _ _

theorem respects_createInstance (config : Config) : Act.Respects R (createInstance d config) := by
  have describes : Act.Respects R (describeInstance d config) :=
    .bind_same (h.notes _) fun _ => h.instanceExtensions.bind_same fun _ =>
      (respects_negotiation h _ _ _).bind_same fun _ =>
        (respects_layers h _ _ _ _).bind_same fun _ => .pure rfl
  refine describes.bind_same fun what => (h.createInstance what).bind_same fun inst =>
    .bind_same (h.notes _) fun _ => .ite ?_ (.pure rfl)
  exact .bind_same (.undoing (h.registerCallbacks inst) (h.destroyInstance inst)) fun _ => .pure rfl

theorem respects_destroyInstance (parts : InstanceParts d) :
    Env.Respects R (destroyInstance d parts) := by
  intro e e' hR
  unfold destroyInstance
  cases parts.callbacks with
  | none => exact h.destroyInstance _ _ _ hR
  | some c => exact h.destroyInstance _ _ _ (h.unregisterCallbacks _ c _ _ hR)

theorem respects_fetchFrom (device : d.Device) (counters : Queue.Counters) (families : List UInt32) :
    Act.Respects R (Attempt.ofState (fetchFrom d device counters families)) := by
  induction families generalizing counters with
  | nil => exact .ofState (fun _ _ _ => rfl) fun _ _ hR => hR
  | cons family rest ih =>
    intro e e' hR
    obtain ⟨queue, fetched⟩ := (h.queue device family (counters.draw family).1).look hR
    obtain ⟨queues, state⟩ := (ih (counters.draw family).2).look fetched
    exact .ok (congrArg₂ List.cons queue queues) state

theorem respects_families (inst : d.Instance) (adapter : AdapterHandle) (name : String)
    (selection : Selection) : Act.Respects R (families d inst adapter name selection) := by
  refine .ite ((h.queueFamilies inst adapter).bind_same fun offered => ?_) (.pure rfl)
  cases firstComputeFamily? offered with
  | none => exact .throw _
  | some family => exact .pure rfl

theorem respects_createDevice (inst : d.Instance) (config : Config) (selection : Selection) :
    Act.Respects R (createDevice d inst config selection) := by
  have describes : Act.Respects R (describeDevice d inst config selection) :=
    .bind_same (h.notes _) fun _ => (h.adapters inst).bind_same fun _ =>
      (Alike.ofExcept _).bind_same fun adapter => (h.properties inst adapter).bind_same fun _ =>
        .bind_same (h.notes _) fun _ => (respects_families h _ _ _ _).bind_same fun _ =>
          (h.deviceExtensions inst adapter).bind_same fun _ =>
            (respects_negotiation h _ _ _).bind_same fun _ =>
              (respects_layers h _ _ _ _).bind_same fun _ => .pure rfl
  exact describes.bind_same fun _ => (h.createDevice _ _ _).bind_same fun device =>
    .bind_same (h.notes _) fun _ => (respects_fetchFrom h device _ _).bind_same fun _ =>
      .bind_same (h.notes _) fun _ => .pure rfl

end Bootstrap

/-! ## Managers -/

namespace Manager

theorem respects_create (config : Config) (selection : Selection) :
    Act.Respects R (create d config selection) :=
  (Bootstrap.respects_createInstance h config).bind_same fun parts =>
    .undoing ((Bootstrap.respects_createDevice h parts.inst config selection).bind_same
      fun _ => .pure rfl) (Bootstrap.respects_destroyInstance h parts)

theorem respects_borrow (config : Config) (inst : d.Instance) (adapter : AdapterHandle)
    (device : d.Device) (families : List UInt32) :
    Act.Respects R (borrow config inst adapter device families) :=
  (Bootstrap.respects_fetchFrom h device _ _).bind_same fun _ =>
    .bind_same (h.notes _) fun _ => .pure rfl

theorem respects_closeDevice (device : Ownership d.Device) : Env.Respects R (closeDevice device) := by
  intro e e' hR
  have released := h.releaseDevice device.handle _ _ hR
  cases device with
  | owned x => exact h.write _ _ _ (h.destroyDevice x _ _ released)
  | borrowed x => exact h.write _ _ _ released

theorem respects_closeInstance (inst : Ownership d.Instance) (callbacks : Option d.Callbacks) :
    Env.Respects R (closeInstance inst callbacks) := by
  have destroys {e e' : Env d.State} (hR : R e e') :
      R (closeInstance inst none e) (closeInstance inst none e') := by
    cases inst with
    | owned i => exact h.write _ _ _ (h.destroyInstance i _ _ hR)
    | borrowed i => exact h.write _ _ _ hR
  intro e e' hR
  cases callbacks with
  | none => exact destroys hR
  | some c => exact destroys (h.write _ _ _ (h.unregisterCallbacks inst.handle c _ _ hR))

end Manager

/-! ## Resources -/

theorem Tensor.respects_create (device : d.Device) (bytes : List UInt8) (count size : UInt64)
    (dataType : DataType) : Act.Respects R (Tensor.create device bytes count size dataType) := by
  have makes := h.createBuffer device (.ofNat bytes.length) bufferUsage
  exact .ite (.bind_same (.throw _) fun _ => makes.bind_same fun _ => .bind_same (h.notes _) fun _ =>
      .pure rfl)
    (makes.bind_same fun _ => .bind_same (h.notes _) fun _ => .pure rfl)

theorem Algorithm.respects_create (device : d.Device) (find? : Nat → Option (Tensor d))
    (tensors : List Nat) (code : List UInt32) (workgroup : Extent) (pushConstants : List UInt8) :
    Act.Respects R (Algorithm.create device find? tensors code workgroup pushConstants) :=
  (Alike.ofExcept _).bind_same fun what => (h.createPipeline device what).bind_same fun _ =>
    .bind_same (h.notes _) fun _ => .pure rfl

theorem Sequence.respects_create (device : d.Device) (adapter : AdapterHandle) (queue : Queue.Handle)
    (family timestamps : UInt32) :
    Act.Respects R (Sequence.create device adapter queue family timestamps) :=
  (h.createBatch device family timestamps).bind_same fun _ =>
    .bind_same (h.notes _) fun _ => .pure rfl

theorem Session.respects_survey (inst : d.Instance) (adapter : AdapterHandle) :
    Act.Respects R (survey inst adapter) :=
  (h.queueFamilies inst adapter).bind_same fun _ => (h.properties inst adapter).bind_same fun _ =>
    (h.deviceExtensions inst adapter).bind_same fun _ => h.instanceExtensions.bind_same fun _ =>
      h.instanceLayers.bind_same fun _ => .pure rfl

/-- Giving an object up. -/
theorem Slot.respects_release (how : Disposal d α) (s : Slot d α)
    (hd : ∀ x, Env.Respects R (how.destroy s.device x)) :
    Env.Respects R fun e => (s.release how e).2 := by
  intro e e' hR
  unfold release
  cases s.object with
  | none => exact hR
  | some x =>
    dsimp only
    rw [h.isAlive s.device _ _ hR]
    split
    · exact h.write _ _ _ (hd x _ _ hR)
    · exact h.write _ _ _ hR

end GpuCompute
