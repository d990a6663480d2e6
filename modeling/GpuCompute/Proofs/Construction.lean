import GpuCompute.Manager
import GpuCompute.Proofs.Questions

/-!
# How managers come to be

`Manager.create` asks, makes an instance, registers callbacks if diagnostics are on, asks again, makes
a device and fetches its queues. `Manager.create_ok` and `Manager.create_error` say which calls were
made, in which order and with which results, when this succeeds and when it fails; of the questions
they only say what was asked about. They hold for every driver, and what is later said about new
managers is derived from them.
-/

namespace GpuCompute

open Driver

variable {d : Driver} {config : Config} {selection : Selection} {e e' : Env d.State} {error : Error}

namespace Bootstrap

/-! ## Instances -/

/-- Callbacks are registered, if there are to be any. -/
inductive Registers (inst : d.Instance) : Option d.Callbacks → Env d.State → Env d.State → Prop
  | none (e : Env d.State) : Registers inst none e e
  | some {c : d.Callbacks} {e e' : Env d.State} (h : d.registerCallbacks inst e = .ok c e') :
    Registers inst (some c) e e'

/-- An instance is made and gets its callbacks. -/
structure MakesInstance (config : Config) (parts : InstanceParts d) (e e' : Env d.State) : Prop where
  calls : ∃ what e₁ e₂ e₃, d.Asked nothing nothing e e₁ ∧
    d.createInstance what e₁ = .ok parts.inst e₂ ∧ d.Asked nothing nothing e₂ e₃ ∧
    Registers parts.inst parts.callbacks e₃ e'
  callbacks : parts.callbacks.isSome = config.diagnostics

/-- An instance cannot be made, or is destroyed again because its callbacks cannot be registered. -/
inductive FailsInstance (e e' : Env d.State) : Prop
  | asking (h : d.Asked nothing nothing e e')
  | creating {what : InstanceDescriptor} {error : Error} {e₁ : Env d.State}
    (asked : d.Asked nothing nothing e e₁) (failed : d.createInstance what e₁ = .error error e')
  | registering {what : InstanceDescriptor} {inst : d.Instance} {error : Error}
    {e₁ e₂ e₃ e₄ : Env d.State} (asked : d.Asked nothing nothing e e₁)
    (created : d.createInstance what e₁ = .ok inst e₂) (again : d.Asked nothing nothing e₂ e₃)
    (failed : d.registerCallbacks inst e₃ = .error error e₄)
    (undone : e' = d.destroyInstance inst e₄)

theorem onlyAsks_describeInstance (config : Config) :
    OnlyAsks nothing nothing (describeInstance d config) :=
  (onlyAsks_write _).bind fun _ => (OnlyAsks.of_asks .instanceExtensions).bind fun _ =>
    (onlyAsks_negotiation _ _ _).bind fun _ => (onlyAsks_layers _ _ _ _).bind fun _ => .pure _

theorem createInstance_ok {parts : InstanceParts d}
    (h : createInstance d config e = .ok parts e') : MakesInstance config parts e e' := by
  obtain ⟨what, e₁, h₁, h⟩ := Attempt.bind_eq_ok.1 h
  obtain ⟨inst, e₂, h₂, h⟩ := Attempt.bind_eq_ok.1 h
  obtain ⟨_, e₃, h₃, h⟩ := Attempt.bind_eq_ok.1 h
  have asked := (onlyAsks_describeInstance config).of_ok h₁
  have again : d.Asked nothing nothing e₂ e₃ := (onlyAsks_write _).of_ok h₃
  split at h
  · obtain ⟨c, e₄, h₄, h⟩ := Attempt.bind_eq_ok.1 h
    cases h
    exact ⟨⟨what, e₁, e₂, e₃, asked, h₂, again, .some (Attempt.undoing_eq_ok.1 h₄)⟩,
      by simp [*]⟩
  · cases h
    exact ⟨⟨what, e₁, e₂, _, asked, h₂, again, .none _⟩, by simp [*]⟩

theorem createInstance_error (h : createInstance d config e = .error error e') :
    FailsInstance e e' := by
  rcases Attempt.bind_eq_error.1 h with h₁ | ⟨what, e₁, h₁, h⟩
  · exact .asking ((onlyAsks_describeInstance config).of_error h₁)
  have asked := (onlyAsks_describeInstance config).of_ok h₁
  rcases Attempt.bind_eq_error.1 h with h₂ | ⟨inst, e₂, h₂, h⟩
  · exact .creating asked h₂
  rcases Attempt.bind_eq_error.1 h with h₃ | ⟨u, e₃, h₃, h⟩
  · cases h₃
  have again : d.Asked nothing nothing e₂ e₃ := (onlyAsks_write _).of_ok h₃
  split at h
  · rcases Attempt.bind_eq_error.1 h with h₄ | ⟨c, e₄, h₄, h⟩
    · obtain ⟨e₄, failed, undone⟩ := Attempt.undoing_eq_error.1 h₄
      exact .registering asked h₂ again failed undone
    · cases h
  · cases h

/-! ## Devices -/

/-- A device is made on an instance and its queues are fetched. -/
def MakesDevice (inst : d.Instance) (parts : DeviceParts d) (e e' : Env d.State) : Prop :=
  ∃ what e₁ e₂, d.Asked (only inst) nothing e e₁ ∧
    d.createDevice inst parts.adapter what e₁ = .ok parts.device e₂ ∧
    d.Asked nothing (only parts.device) e₂ e'

/-- A device cannot be made. -/
inductive FailsDevice (inst : d.Instance) (e e' : Env d.State) : Prop
  | asking (h : d.Asked (only inst) nothing e e')
  | creating {adapter : AdapterHandle} {what : DeviceDescriptor} {error : Error} {e₁ : Env d.State}
    (asked : d.Asked (only inst) nothing e e₁)
    (failed : d.createDevice inst adapter what e₁ = .error error e')

theorem onlyAsks_describeDevice (inst : d.Instance) (config : Config) (selection : Selection) :
    OnlyAsks (only inst) nothing (describeDevice d inst config selection) :=
  (onlyAsks_write _).bind fun _ => (OnlyAsks.of_asks (.adapters · (only_self _))).bind fun _ =>
    (OnlyAsks.ofExcept _).bind fun _ =>
    (OnlyAsks.of_look (.properties · (only_self _) _)).bind fun _ =>
    (onlyAsks_write _).bind fun _ => (onlyAsks_families (only_self _) _ _ _).bind fun _ =>
    (OnlyAsks.of_asks (.deviceExtensions · (only_self _) _)).bind fun _ =>
    (onlyAsks_negotiation _ _ _).bind fun _ => (onlyAsks_layers _ _ _ _).bind fun _ => .pure _

theorem createDevice_ok {inst : d.Instance} {parts : DeviceParts d}
    (h : createDevice d inst config selection e = .ok parts e') : MakesDevice inst parts e e' := by
  obtain ⟨plan, e₁, h₁, h⟩ := Attempt.bind_eq_ok.1 h
  obtain ⟨device, e₂, h₂, h⟩ := Attempt.bind_eq_ok.1 h
  cases h
  refine ⟨plan.descriptor, e₁, e₂, (onlyAsks_describeDevice inst config selection).of_ok h₁, h₂, ?_⟩
  exact ((Asked.write _ _).trans (asked_fetchFrom (only_self _) _ _ _)).trans (Asked.write _ _)

theorem createDevice_error {inst : d.Instance}
    (h : createDevice d inst config selection e = .error error e') : FailsDevice inst e e' := by
  rcases Attempt.bind_eq_error.1 h with h₁ | ⟨plan, e₁, h₁, h⟩
  · exact .asking ((onlyAsks_describeDevice inst config selection).of_error h₁)
  rcases Attempt.bind_eq_error.1 h with h₂ | ⟨device, e₂, h₂, h⟩
  · exact .creating ((onlyAsks_describeDevice inst config selection).of_ok h₁) h₂
  · cases h

end Bootstrap

/-! ## Managers -/

namespace Manager

open Bootstrap

/-- What a new manager with an instance and a device of its own consists of. -/
structure ConsistsOf (m : Manager d) (c : Config) (i : InstanceParts d) (x : DeviceParts d) :
    Prop where
  config : m.config = c
  inst : m.inst = some (.owned i.inst)
  callbacks : m.callbacks = i.callbacks
  device : m.device = some (.owned x.device)
  tracks : m.trackedCounts = ⟨0, 0, 0⟩

/-- A manager with an instance and a device of its own is made. -/
def Creates (m : Manager d) (config : Config) (e e' : Env d.State) : Prop :=
  ∃ inst device e₁, MakesInstance config inst e e₁ ∧ MakesDevice inst.inst device e₁ e' ∧
    m.ConsistsOf config inst device

/-- A manager cannot be made: for want of an instance, or for want of a device, and then the instance
is destroyed again. -/
def Fails (config : Config) (e e' : Env d.State) : Prop :=
  FailsInstance e e' ∨ ∃ inst e₁ e₂, MakesInstance config inst e e₁ ∧
    FailsDevice inst.inst e₁ e₂ ∧ e' = destroyInstance d inst e₂

theorem create_ok {m : Manager d} (h : create d config selection e = .ok m e') :
    m.Creates config e e' := by
  obtain ⟨inst, e₁, h₁, h⟩ := Attempt.bind_eq_ok.1 h
  obtain ⟨device, e₂, h₂, h⟩ := Attempt.bind_eq_ok.1 (Attempt.undoing_eq_ok.1 h)
  cases h
  exact ⟨inst, device, e₁, createInstance_ok h₁, createDevice_ok h₂, rfl, rfl, rfl, rfl, rfl⟩

theorem create_error (h : create d config selection e = .error error e') :
    Fails config e e' := by
  rcases Attempt.bind_eq_error.1 h with h₁ | ⟨inst, e₁, h₁, h⟩
  · exact .inl (createInstance_error h₁)
  obtain ⟨e₂, h, undone⟩ := Attempt.undoing_eq_error.1 h
  rcases Attempt.bind_eq_error.1 h with h₂ | ⟨device, e₃, h₂, h⟩
  · exact .inr ⟨inst, e₁, e₂, createInstance_ok h₁, createDevice_error h₂, undone⟩
  · cases h

/-- A manager is made on an instance and a device of someone else. -/
structure Borrows (m : Manager d) (config : Config) (inst : d.Instance) (device : d.Device)
    (e e' : Env d.State) : Prop where
  asked : d.Asked nothing (only device) e e'
  config : m.config = config
  inst : m.inst = some (.borrowed inst)
  callbacks : m.callbacks = none
  device : m.device = some (.borrowed device)
  tracks : m.trackedCounts = ⟨0, 0, 0⟩

theorem borrow_ok {m : Manager d} {inst : d.Instance} {adapter : AdapterHandle}
    {device : d.Device} {families : List UInt32}
    (h : borrow config inst adapter device families e = .ok m e') :
    m.Borrows config inst device e e' := by
  cases h
  exact ⟨(asked_fetchFrom (only_self _) _ _ _).trans (.write _ _), rfl, rfl, rfl, rfl, rfl⟩

/-- Borrowing cannot fail. -/
theorem borrow_ne_error {inst : d.Instance} {adapter : AdapterHandle} {device : d.Device}
    {families : List UInt32} : borrow config inst adapter device families e ≠ .error error e' := by
  intro h
  cases h

end Manager

end GpuCompute
