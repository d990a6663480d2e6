import GpuCompute.Proofs.Questions
import GpuCompute.Proofs.Vulkan.Things
import GpuCompute.Vulkan.Driver

/-!
# What calls of the API leave

Each call adds one event to the trace (`Api.Adds`). A call that makes something hands out the next
handle; if it fails it hands out nothing, except that a failing call for a pipeline may do so all the
same. A question of the driver is one call, which only asks (`asksApi_of_asks`).
-/

namespace GpuCompute.Vulkan

variable {request : Request} {a a' : Api} {error : Error} {e e' : Env State}

namespace Api

@[simp] theorem trace_note (request : Request) (outcome : Outcome) (a : Api) :
    (a.note request outcome).trace = a.trace ++ [⟨request, outcome⟩] := rfl

@[simp] theorem next_note (request : Request) (outcome : Outcome) (a : Api) :
    (a.note request outcome).next = a.next := rfl

@[simp] theorem trace_consult (request : Request) (a : Api) :
    (a.consult request).2.trace = a.trace := rfl

@[simp] theorem next_consult (request : Request) (a : Api) :
    (a.consult request).2.next = a.next := rfl

@[simp] theorem host_consult (request : Request) (a : Api) :
    (a.consult request).2.host = a.host := rfl

/-- Some call was added to the trace, and handles go on where they were. -/
structure Adds (request : Request) (outcome : Outcome) (a a' : Api) : Prop where
  trace : a'.trace = a.trace ++ [⟨request, outcome⟩]
  next : a'.next = outcome.handle?.elim a.next (· + 1)
  fresh : ∀ id ∈ outcome.handle?, id = a.next
  host : a'.host = a.host

theorem adds_call (request : Request) (a : Api) : Adds request .done a (a.call request) :=
  ⟨rfl, rfl, by simp [Outcome.handle?], rfl⟩

theorem check_ok {fault : ResultCode → Error} (h : check request fault a = .ok () a') :
    Adds request .done a a' := by
  unfold check at h
  split at h
  next a₁ h₁ =>
    obtain rfl : a₁ = (a.consult request).2 := by rw [h₁]
    cases h
    exact ⟨rfl, rfl, by simp [Outcome.handle?], rfl⟩
  · cases h

theorem check_error {fault : ResultCode → Error} (h : check request fault a = .error error a') :
    ∃ code, Adds request (.failed code) a a' := by
  unfold check at h
  split at h
  · cases h
  next f a₁ h₁ =>
    obtain rfl : a₁ = (a.consult request).2 := by rw [h₁]
    cases h
    exact ⟨f.code, rfl, rfl, by simp [Outcome.handle?], rfl⟩

/-- However a call ends, it is added to the trace. -/
theorem adds_invoke (request : Request) (a : Api) :
    ∃ outcome, Adds request outcome a ((invoke request).after a) := by
  cases h : invoke request a with
  | ok u a' => exact ⟨_, Attempt.after_of_ok h ▸ check_ok h⟩
  | error error a' =>
    obtain ⟨code, adds⟩ := check_error h
    exact ⟨_, Attempt.after_of_error h ▸ adds⟩

theorem make_ok {id : Nat} (h : make request a = .ok id a') : Adds request (.made id) a a' := by
  unfold make at h
  split at h
  next a₁ h₁ =>
    obtain rfl : a₁ = (a.consult request).2 := by rw [h₁]
    cases h
    exact ⟨rfl, rfl, by simp [Outcome.handle?], rfl⟩
  · cases h

/-- The error names the call and its result code. -/
theorem make_stops (h : make request a = .error error a') :
    ∃ code, error = .vulkan request.name code ∧ Adds request (.failed code) a a' := by
  unfold make at h
  split at h
  · cases h
  next f a₁ h₁ =>
    obtain rfl : a₁ = (a.consult request).2 := by rw [h₁]
    cases h
    exact ⟨f.code, rfl, rfl, rfl, by simp [Outcome.handle?], rfl⟩

theorem make_error (h : make request a = .error error a') :
    ∃ code, Adds request (.failed code) a a' :=
  (make_stops h).imp fun _ => And.right

/-- However a call for something ends, it is added to the trace. -/
theorem adds_make (request : Request) (a : Api) :
    ∃ outcome, Adds request outcome a ((make request).after a) := by
  cases h : make request a with
  | ok id a' => exact ⟨_, Attempt.after_of_ok h ▸ make_ok h⟩
  | error error a' =>
    obtain ⟨code, adds⟩ := make_error h
    exact ⟨_, Attempt.after_of_error h ▸ adds⟩

theorem makePipeline_ok {device id : Nat} {what : Creation}
    (h : makePipeline device what a = .ok id a') :
    Adds (.create device what) (.made id) a a' := by
  unfold makePipeline at h
  dsimp only at h
  split at h
  next a₁ h₁ =>
    obtain rfl : a₁ = (a.consult (.create device what)).2 := by rw [h₁]
    cases h
    exact ⟨rfl, rfl, by simp [Outcome.handle?], rfl⟩
  · split at h <;> cases h

/-- A failing call for a pipeline hands out nothing, or what it hands out is destroyed. -/
theorem makePipeline_error {device : Nat} {what : Creation}
    (h : makePipeline device what a = .error error a') :
    (∃ code, Adds (.create device what) (.failed code) a a') ∨
      ∃ id code a₁, Adds (.create device what) (.failedWith id code) a a₁ ∧
        a' = a₁.call (.destroy device .pipeline id) := by
  unfold makePipeline at h
  dsimp only at h
  split at h
  · cases h
  next f a₁ h₁ =>
    obtain rfl : a₁ = (a.consult (.create device what)).2 := by rw [h₁]
    split at h
    · cases h
      refine .inr ⟨a.next, f.code, _, ?_, rfl⟩
      exact ⟨rfl, rfl, by simp [Outcome.handle?], rfl⟩
    · cases h
      exact .inl ⟨f.code, rfl, rfl, by simp [Outcome.handle?], rfl⟩

end Api

/-! ## Calls in an environment -/

variable {α : Type} {act : Attempt Api α}

theorem withApi_eq_ok {x : α} :
    withApi act e = .ok x e' ↔ ∃ a, act e.driver.api = .ok x a ∧
      e' = e.onDriver fun s => { s with api := a } := Attempt.within_eq_ok

theorem withApi_eq_error :
    withApi act e = .error error e' ↔ ∃ a, act e.driver.api = .error error a ∧
      e' = e.onDriver fun s => { s with api := a } := Attempt.within_eq_error

theorem driver_after_withApi (act : Attempt Api α) (e : Env State) :
    ((withApi act).after e).driver = { e.driver with api := act.after e.driver.api } := by
  cases h : act e.driver.api with
  | ok x a =>
    rw [Attempt.after_of_ok (withApi_eq_ok.2 ⟨a, h, rfl⟩), Attempt.after_of_ok h]
    rfl
  | error error a =>
    rw [Attempt.after_of_error (withApi_eq_error.2 ⟨a, h, rfl⟩), Attempt.after_of_error h]
    rfl

theorem api_after_withApi (act : Attempt Api α) (e : Env State) :
    ((withApi act).after e).driver.api = act.after e.driver.api :=
  congrArg State.api (driver_after_withApi act e)

theorem query_ok {request : Request} {answer : Host → α} {x : α}
    (h : query request answer e = .ok x e') : Api.Adds request .done e.driver.api e'.driver.api ∧
      e' = e.onDriver fun s => { s with api := e'.driver.api } := by
  obtain ⟨u, e₁, h₁, h⟩ := Attempt.bind_eq_ok.1 h
  obtain ⟨a, ha, rfl⟩ := withApi_eq_ok.1 h₁
  cases h
  exact ⟨Api.check_ok ha, rfl⟩

theorem query_error {request : Request} {answer : Host → α}
    (h : query request answer e = .error error e') :
    (∃ code, Api.Adds request (.failed code) e.driver.api e'.driver.api) ∧
      e' = e.onDriver fun s => { s with api := e'.driver.api } := by
  rcases Attempt.bind_eq_error.1 h with h | ⟨u, e₁, h₁, h⟩
  · obtain ⟨a, ha, rfl⟩ := withApi_eq_error.1 h
    exact ⟨Api.check_error ha, rfl⟩
  · cases h

/-! ## Instances and devices -/

/-- Making an instance is one call, unless a name is refused before. -/
theorem createInstance_eq (what : InstanceDescriptor) (e : Env State) :
    (∃ error, createInstance what e = .error error e) ∨
      ∃ info, createInstance what e = withApi (Api.make (.createInstance info)) e := by
  unfold createInstance
  split
  · exact .inl ⟨_, rfl⟩
  · cases checkNames what.extensions with
    | error error => exact .inl ⟨error, rfl⟩
    | ok u =>
      cases checkNames what.layers with
      | error error => exact .inl ⟨error, rfl⟩
      | ok u => exact .inr ⟨_, rfl⟩

/-- Registering callbacks is two calls. -/
theorem registerCallbacks_ok {inst : Nat} {c : Callbacks}
    (h : registerCallbacks inst e = .ok c e') : ∃ a₁ a₂,
      Api.Adds (.createDebugReport inst reportFlags) (.made c.report) e.driver.api a₁ ∧
      Api.Adds (.createMessenger inst messengerSeverity messengerTypes) (.made c.messenger) a₁ a₂ ∧
      e' = e.onDriver fun s => { s with api := a₂ } := by
  obtain ⟨a₂, h₀, rfl⟩ := withApi_eq_ok.1 h
  obtain ⟨report, a₁, h₁, h⟩ := Attempt.bind_eq_ok.1 h₀
  obtain ⟨messenger, _, h₂, h⟩ := Attempt.bind_eq_ok.1 (Attempt.undoing_eq_ok.1 h)
  cases h
  exact ⟨a₁, a₂, Api.make_ok h₁, Api.make_ok h₂, rfl⟩

/-- When callbacks cannot be registered, the first of them is destroyed again if it was made. -/
theorem registerCallbacks_error {inst : Nat} (h : registerCallbacks inst e = .error error e') :
    (∃ code a, Api.Adds (.createDebugReport inst reportFlags) (.failed code) e.driver.api a ∧
      e' = e.onDriver fun s => { s with api := a }) ∨
    ∃ report code a₁ a₂,
      Api.Adds (.createDebugReport inst reportFlags) (.made report) e.driver.api a₁ ∧
      Api.Adds (.createMessenger inst messengerSeverity messengerTypes) (.failed code) a₁ a₂ ∧
      e' = e.onDriver fun s => { s with api := a₂.call (.destroyDebugReport inst report) } := by
  obtain ⟨a, h₀, rfl⟩ := withApi_eq_error.1 h
  rcases Attempt.bind_eq_error.1 h₀ with h₁ | ⟨report, a₁, h₁, h⟩
  · obtain ⟨code, adds⟩ := Api.make_error h₁
    exact .inl ⟨code, a, adds, rfl⟩
  · obtain ⟨a₂, h₂, rfl⟩ := Attempt.undoing_eq_error.1 h
    rcases Attempt.bind_eq_error.1 h₂ with h₂ | ⟨_, _, _, h⟩
    · obtain ⟨code, adds⟩ := Api.make_error h₂
      exact .inr ⟨report, code, a₁, a₂, Api.make_ok h₁, adds, rfl⟩
    · cases h

/-- Making a device is one call, unless a name is refused before; what comes after the call is that
the device is wrapped, or else destroyed again. -/
theorem createDeviceWith_eq (wrap : Nat → AdapterHandle → Nat → Act State Device) (inst : Nat)
    (adapter : AdapterHandle) (what : DeviceDescriptor) (e : Env State) :
    (∃ error, createDeviceWith wrap inst adapter what e = .error error e) ∨
      ∃ info, createDeviceWith wrap inst adapter what e =
        (withApi (Api.make (.createDevice inst adapter info)) >>= fun handle =>
          Attempt.undoing (call (.destroyDevice handle)) (wrap inst adapter handle)) e := by
  unfold createDeviceWith
  cases checkNames what.extensions with
  | error error => exact .inl ⟨error, rfl⟩
  | ok u =>
    cases checkNames what.layers with
    | error error => exact .inl ⟨error, rfl⟩
    | ok u => exact .inr ⟨_, rfl⟩

/-- Waiting for a device is one call. That it fails is only logged. -/
theorem driver_waitIdle (x : Device) (e : Env State) :
    (waitIdle x e).driver = ((withApi (Api.invoke (.waitIdle x.handle))).after e).driver := by
  unfold waitIdle Attempt.outcome
  cases h : withApi (Api.invoke (.waitIdle x.handle)) e with
  | ok u e' => rw [Attempt.after_of_ok h]
  | error error e' =>
    rw [Attempt.after_of_error h]
    cases error <;> rfl

/-- Destroying a buffer gives it up. That its memory is not memory of the device is only logged. -/
theorem driver_discardBuffer (M : MemoryLibrary) (x : Device) (b : Buffer) (e : Env State) :
    (discardBuffer M x b e).driver = (giveUpBuffer M x b e).2.driver := by
  unfold discardBuffer
  obtain ⟨fault, e'⟩ := giveUpBuffer M x b e
  cases fault <;> rfl

/-! ## Questions -/

/-- The Vulkan driver, with another way to wrap devices. -/
abbrev driverWith (M : MemoryLibrary) (wrap : Nat → AdapterHandle → Nat → Act State Device) :
    Driver :=
  { driverOn M with createDevice := createDeviceWith wrap }

/-- A call that only asks, about instances that satisfy `I` or devices that satisfy `D`. -/
def Request.Asks (I D : Nat → Prop) : Request → Prop
  | .enumerateInstanceExtensions | .enumerateInstanceLayers => True
  | .enumerateAdapters inst | .adapterProperties inst _ | .adapterFamilies inst _
  | .enumerateDeviceExtensions inst _ => I inst
  | .getQueue device .. => D device
  | _ => False

/-- Some call that only asks was added to the trace, or none. -/
def AsksApi (I D : Nat → Prop) (s s' : State) : Prop :=
  s' = s ∨ ∃ request outcome, request.Asks I D ∧ outcome.handle? = none ∧
    Api.Adds request outcome s.api s'.api ∧ s' = { s with api := s'.api }

theorem asksApi_call {I D : Nat → Prop} (request : Request) (h : request.Asks I D) (e : Env State) :
    AsksApi I D e.driver (call request e).driver :=
  .inr ⟨request, .done, h, rfl, Api.adds_call _ _, rfl⟩

theorem asksApi_query {I D : Nat → Prop} (request : Request) (h : request.Asks I D)
    (answer : Host → α)
    (e : Env State) : AsksApi I D e.driver ((query request answer).after e).driver := by
  cases hq : query request answer e with
  | ok x e' =>
    rw [Attempt.after_of_ok hq]
    obtain ⟨adds, he⟩ := query_ok hq
    exact .inr ⟨request, .done, h, rfl, adds, congrArg Env.driver he⟩
  | error error e' =>
    rw [Attempt.after_of_error hq]
    obtain ⟨⟨code, adds⟩, he⟩ := query_error hq
    exact .inr ⟨request, .failed code, h, rfl, adds, congrArg Env.driver he⟩

theorem asksApi_of_asks (M : MemoryLibrary) (wrap : Nat → AdapterHandle → Nat → Act State Device)
    {I : (driverWith M wrap).Instance → Prop} {D : (driverWith M wrap).Device → Prop}
    {e e' : Env (driverWith M wrap).State} (h : (driverWith M wrap).Asks I D e e') :
    AsksApi I (fun x => ∃ device : Device, D device ∧ device.handle = x) e.driver e'.driver := by
  cases h with
  | log => exact .inl rfl
  | instanceExtensions =>
    exact asksApi_query .enumerateInstanceExtensions trivial
      (fun h => nameTexts h.instanceExtensions) e
  | instanceLayers =>
    exact asksApi_query .enumerateInstanceLayers trivial (fun h => nameTexts h.instanceLayers) e
  | adapters hi => exact asksApi_query (.enumerateAdapters _) hi Host.adapterHandles e
  | deviceExtensions hi a =>
    exact asksApi_query (.enumerateDeviceExtensions _ a) hi
      (fun h => nameTexts (h.adapter a).extensions) e
  | properties hi a => exact asksApi_call (.adapterProperties _ a) hi e
  | queueFamilies hi a => exact asksApi_call (.adapterFamilies _ a) hi e
  | queue hx family index =>
    refine asksApi_call (.getQueue _ family index) ?_ e
    exact ⟨_, hx, rfl⟩

end GpuCompute.Vulkan
