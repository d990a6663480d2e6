import GpuCompute.Proofs.Absorption
import GpuCompute.Proofs.Vulkan.Runs

/-!
# What operations on the Vulkan driver do

Besides the operations of every session there are a few that change the failure script, make managers
in other ways or call callbacks (`Vulkan.effect_step`). What is true of all managers of every session is
true here, too (`Vulkan.allManagers_run`).
-/

namespace GpuCompute.Vulkan

open Session

variable {M : MemoryLibrary} {s s' : Session (driverOn M)} {o : Operation} {n : String}
  {m : Manager (driverOn M)}

/-- The manager that an operation sets up or is addressed to. -/
def manager? : Operation → Option String
  | .common o => Session.manager? o
  | .createFromEnvironment m .. | .borrowRaw m .. => some m
  | _ => none

/-- What an operation does. -/
inductive Effect (s : Session (driverOn M)) : Operation → Session (driverOn M) → Prop
  | common (o : GpuCompute.Operation) : Effect s (.common o) ((Session.step o).after s)
  /-- Only the script and the log may be different. -/
  | aside {o : Operation} {s' : Session (driverOn M)} (h : Untouched s s') (trace : trace s' = trace s)
    (next : (State.api s'.pool.env.driver).next = (State.api s.pool.env.driver).next)
    (allocators : State.allocators s'.pool.env.driver = State.allocators s.pool.env.driver) :
    Effect s o s'
  | creates (n : String) (environment : Environment) (selection : Selection) :
    Effect s (.createFromEnvironment n environment selection)
      ((addManager n (Manager.create (driverOn M) (.ofEnvironment environment) selection)).after s)
  | borrows {n inst device : String} {adapter : AdapterHandle} {families : List UInt32}
    {config : Config} {i : Nat} {x : Device} (hi : s.instances.lookup inst = some i)
    (hx : s.devices.lookup device = some x) :
    Effect s (.borrowRaw n inst device adapter families config)
      ((addManager n (borrowRaw config i adapter x.handle families)).after s)

/-- **What an operation does.** -/
theorem effect_step (o : Operation) (s : Session (driverOn M)) : Effect s o ((step o).after s) := by
  cases o with
  | common o =>
    rw [after_common]
    exact .common o
  | setScript rules => exact .aside ⟨rfl, rfl⟩ rfl rfl rfl
  | createFromEnvironment n environment selection =>
    rw [after_createFromEnvironment]
    exact .creates n environment selection
  | borrowRaw n inst device adapter families config =>
    have nothing : Effect s (.borrowRaw n inst device adapter families config) s :=
      .aside (.refl s) rfl rfl rfl
    rw [after_borrowRaw]
    exact Session.after_withInstance_induct nothing fun i hi =>
      Session.after_withDevice_induct nothing fun x hx => .borrows hi hx
  | fire c =>
    have quiet := driver_fire (M := M) c s.pool.env
    rw [after_fire]
    refine .aside ⟨rfl, rfl⟩ ?_ ?_ ?_
    · exact congrArg (fun e => (State.api e).trace) quiet
    · exact congrArg (fun e => (State.api e).next) quiet
    · exact congrArg State.allocators quiet
  | describeObject | describeDriver => exact .aside (.refl s) rfl rfl rfl

theorem borrowRaw_ok {config : Config} {i device : Nat} {adapter : AdapterHandle}
    {families : List UInt32} {e e' : Env (driverOn M).State}
    (h : borrowRaw (M := M) config i adapter device families e = .ok m e') :
    ∃ (x : Device) (e₁ : Env (driverOn M).State), wrapDevice M i adapter device e = .ok x e₁ ∧
      m.Borrows config i x e₁ e' := by
  obtain ⟨x, e₁, wrapped, borrowed⟩ := Attempt.bind_eq_ok.1 h
  exact ⟨x, e₁, wrapped, Manager.borrow_ok (d := driverOn M) borrowed⟩

/-! ## Managers -/

/-- An operation leaves all managers alone but the one that it sets up or is addressed to. -/
theorem lookup_step (hne : manager? o ≠ some n) :
    ((step o).after s).managers.lookup n = s.managers.lookup n := by
  have effect := effect_step o s
  generalize (step o).after s = s' at effect
  cases effect with
  | common o => exact (Session.effect_step o s).lookup_of_ne hne
  | aside h => rw [h.managers]
  | creates name => exact lookup_addManager_of_ne fun heq => hne (heq ▸ rfl)
  | borrows => exact lookup_addManager_of_ne fun heq => hne (heq ▸ rfl)

end GpuCompute.Vulkan
