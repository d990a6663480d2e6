import Mathlib.Data.List.Nodup
import GpuCompute.Proofs.Driving
import GpuCompute.Proofs.Vulkan.Managers
import GpuCompute.Proofs.Vulkan.Released
import GpuCompute.Proofs.Vulkan.Twins

/-!
# A device is waited for once

The driver waits for a device when it is released, and both a release and a destruction release it. But a
device is only waited for while it is alive, and it is not alive afterwards. So in a teardown it is waited
for exactly once, between the last object that is destroyed and the end of the device
(`quiesces_destroy`), and in a run at most once (`Course.attended`). How the waiting ends is of no
importance to what is called and answered otherwise (`idled_once`).
-/

namespace GpuCompute.Vulkan

open Api
open Session (Related)

variable {M : MemoryLibrary} {α : Type} {request : Request} {e e' e₁ e₂ : Env State} {x : Device}
  {ws : List Device}

/-! ## Waiting in a trace -/

/-- The devices for which calls of the API wait, in order. -/
def waitedFor (tr : List Event) : List Nat := tr.filterMap (·.request.waitsFor?)

theorem waitedFor_append (tr tr' : List Event) :
    waitedFor (tr ++ tr') = waitedFor tr ++ waitedFor tr' :=
  List.filterMap_append

theorem waitedFor_eq_nil {tr : List Event} (h : ∀ event ∈ tr, event.request.Waitless) :
    waitedFor tr = [] := List.filterMap_eq_nil_iff.2 h

/-- The devices for which the driver has waited. -/
def waits (e : Env State) : List Nat := waitedFor e.driver.api.trace

theorem waits_of_calls (h : CallsApi Request.Waitless e e') : waits e' = waits e := by
  obtain ⟨events, trace, waitless⟩ := h.exists_events
  rw [waits, trace, waitedFor_append, waitedFor_eq_nil waitless, List.append_nil, waits]

/-! ## Releasing a device -/

/-- A device that is released is not alive. -/
theorem dead_releaseDevice (x : Device) (e : Env State) :
    (releaseDevice M x e).driver.isAlive x = false := by
  unfold releaseDevice
  split
  · generalize waitIdle x e = e
    rw [Env.driver_onDriver]
    unfold closeAllocator
    cases ha : e.driver.allocator? x with
    | none => simp [State.isAlive, ha]
    | some m =>
      simp only [State.isAlive, State.allocator?, State.setAllocator, State.onApi, List.getElem?_set]
      split
      · split <;> rfl
      · contradiction
  · next dead => exact Bool.eq_false_iff.2 dead

/-- The place of a device that is alive is vacated when the device is released or destroyed. -/
theorem released_of_ends {e e' : Env (driverOn M).State} (h : (driverOn M).Ends x e e')
    (alive : State.isAlive x e.driver) : x.Released e'.driver := by
  obtain ⟨handle, serves⟩ := isAlive_iff.1 alive
  have ended : State.served e'.driver = (releaseDevice M x e).driver.served := by cases h <;> rfl
  rcases served_release x e with same | vacated
  · have still : (releaseDevice M x e).driver.isAlive x = true := isAlive_iff.2 ⟨handle, same ▸ serves⟩
    exact absurd still (Bool.eq_false_iff.1 (dead_releaseDevice x e))
  · unfold Device.Released
    rw [ended, vacated, List.getElem?_set_self (List.getElem?_eq_some_iff.1 serves).1]

/-- A call that gives a block of memory back. -/
def Event.Frees (event : Event) : Prop := ∃ device, event.request.Frees device

/-- A device that is alive is waited for, and then all its memory is given back. -/
theorem trace_releaseDevice [M.Lawful] (alive : e.driver.isAlive x) : ∃ outcome frees,
    (releaseDevice M x e).driver.api.trace =
      e.driver.api.trace ++ ⟨.waitIdle x.handle, outcome⟩ :: frees ∧ ∀ event ∈ frees, event.Frees := by
  obtain ⟨m, hm⟩ := Option.isSome_iff_exists.1 alive
  obtain ⟨outcome, adds⟩ := adds_invoke (.waitIdle x.handle) e.driver.api
  have waited : (waitIdle x e).driver =
      { e.driver with api := (invoke (.waitIdle x.handle)).after e.driver.api } := by
    rw [driver_waitIdle, driver_after_withApi]
  have closes := MemoryLibrary.Lawful.calls_close (M := M) m (waitIdle x e).driver.api
  obtain ⟨frees, trace, all⟩ := closes.exists_events
  refine ⟨outcome, frees, ?_, fun event hmem => ⟨_, all event hmem⟩⟩
  have closed : (releaseDevice M x e).driver.api = M.close m (waitIdle x e).driver.api := by
    have still : (waitIdle x e).driver.allocator? x = some m := by
      rw [waited]
      exact hm
    unfold releaseDevice
    rw [if_pos alive, Env.driver_onDriver]
    unfold closeAllocator
    rw [still]
    rfl
  rw [closed, trace, waited, adds.trace, List.append_assoc]
  rfl

theorem waitedFor_frees {frees : List Event} (h : ∀ event ∈ frees, event.Frees) :
    waitedFor frees = [] := waitedFor_eq_nil fun event hmem => by
  obtain ⟨device, frees⟩ := h event hmem
  exact frees.discards.ofObjects.waitless

/-- A device is waited for when it is released, if it is alive. -/
theorem waits_releaseDevice [M.Lawful] (x : Device) (e : Env State) :
    waits (releaseDevice M x e) = waits e ++ if e.driver.isAlive x then [x.handle] else [] := by
  cases alive : e.driver.isAlive x with
  | false =>
    unfold releaseDevice
    rw [alive]
    exact (List.append_nil _).symm
  | true =>
    obtain ⟨outcome, frees, trace, free⟩ := trace_releaseDevice (M := M) alive
    rw [waits, trace, ← List.singleton_append, waitedFor_append, waitedFor_append, waitedFor_frees free]
    rfl

/-- A device that is not alive is destroyed without being waited for. -/
theorem destroyDevice_of_dead (dead : e.driver.isAlive x = false) :
    destroyDevice M x e = call (.destroyDevice x.handle) e := by
  unfold destroyDevice releaseDevice
  rw [if_neg (by simp [dead])]

/-! ## Teardowns -/

/-- The calls by which an instance is let go of. -/
def parting (inst : Ownership (driverOn M).Instance) (callbacks : Option (driverOn M).Callbacks) :
    List Request :=
  (callbacks.elim [] fun c => [.destroyDebugReport inst.handle (Callbacks.report c),
    .destroyMessenger inst.handle (Callbacks.messenger c)]) ++
  if inst.isOwned then [.destroyInstance inst.handle] else []

/-- The calls of a teardown after the device was released. -/
def farewell (m : Manager (driverOn M)) (device : Ownership (driverOn M).Device) : List Request :=
  (if device.isOwned then [.destroyDevice (Device.handle device.handle)] else []) ++
    m.inst.elim [] fun inst => parting inst m.callbacks

/-- These calls end well. -/
def done (requests : List Request) : List Event := requests.map fun request => ⟨request, .done⟩

/-- A teardown destroys objects, then waits for the device and gives its memory back, and only then takes
leave. -/
def Quiesces (m : Manager (driverOn M)) (device : Ownership (driverOn M).Device)
    (calls : List Event) : Prop :=
  ∃ discards outcome frees,
    calls = discards ++ ⟨.waitIdle (Device.handle device.handle), outcome⟩ :: frees ++
      done (farewell m device) ∧
    (∀ event ∈ discards, event.request.Discards) ∧ ∀ event ∈ frees, event.Frees

theorem waitless_parting (inst : Ownership (driverOn M).Instance)
    (callbacks : Option (driverOn M).Callbacks) :
    ∀ request ∈ parting inst callbacks, request.Waitless := by
  cases inst <;> cases callbacks <;>
    simp [parting, Ownership.isOwned, Request.Waitless, Request.waitsFor?]

theorem waitless_farewell (m : Manager (driverOn M)) (device : Ownership (driverOn M).Device) :
    ∀ request ∈ farewell m device, request.Waitless := by
  have rest : ∀ request ∈ m.inst.elim [] fun inst => parting inst m.callbacks, request.Waitless := by
    cases m.inst with
    | none => nofun
    | some inst => exact waitless_parting inst m.callbacks
  cases device with
  | owned x => exact List.forall_mem_cons.2 ⟨rfl, rest⟩
  | borrowed x => exact rest

/-- The device is waited for once. -/
theorem Quiesces.waitedFor {m : Manager (driverOn M)} {device : Ownership (driverOn M).Device}
    {calls : List Event}
    (h : Quiesces m device calls) : waitedFor calls = [Device.handle device.handle] := by
  obtain ⟨discards, outcome, frees, rfl, discard, free⟩ := h
  have before : Vulkan.waitedFor discards = [] :=
    waitedFor_eq_nil fun event hmem => (discard event hmem).ofObjects.waitless
  have last : Vulkan.waitedFor (done (farewell m device)) = [] :=
    waitedFor_eq_nil (List.forall_mem_map.2 (waitless_farewell m device))
  rw [waitedFor_append, waitedFor_append, before, last, ← List.singleton_append, waitedFor_append,
    waitedFor_frees free]
  rfl

theorem trace_closeDevice [M.Lawful] {device : Ownership (driverOn M).Device}
    {e : Env (driverOn M).State}
    (alive : State.isAlive device.handle e.driver) : ∃ outcome frees,
      (State.api (Manager.closeDevice device e).driver).trace =
        (State.api e.driver).trace ++ ⟨.waitIdle (Device.handle device.handle), outcome⟩ :: frees ++
          done (if device.isOwned then [.destroyDevice (Device.handle device.handle)] else []) ∧
      ∀ event ∈ frees, event.Frees := by
  obtain ⟨outcome, frees, released, all⟩ := trace_releaseDevice (M := M) alive
  refine ⟨outcome, frees, ?_, all⟩
  rw [← released]
  cases device with
  | borrowed x => exact (List.append_nil _).symm
  | owned x =>
    change (destroyDevice M x (releaseDevice M x e)).driver.api.trace = _
    rw [destroyDevice_of_dead (dead_releaseDevice x e)]
    rfl

theorem trace_closeInstance (inst : Ownership (driverOn M).Instance)
    (callbacks : Option (driverOn M).Callbacks)
    (e : Env (driverOn M).State) : (State.api (Manager.closeInstance inst callbacks e).driver).trace =
      (State.api e.driver).trace ++ done (parting inst callbacks) := by
  have leaves (e : Env (driverOn M).State) : (State.api (Manager.closeInstance inst none e).driver).trace =
      (State.api e.driver).trace ++ done (parting inst none) := by
    cases inst with
    | owned i => rfl
    | borrowed i => exact (List.append_nil _).symm
  cases callbacks with
  | none => exact leaves e
  | some c =>
    have last := leaves ((unregisterCallbacks inst.handle c e).write
      { level := .debug, message := "unregistered debug callbacks" })
    exact last.trans ((List.append_assoc _ _ _).trans (List.append_assoc _ _ _))

theorem trace_shut [M.Lawful] (m : Manager (driverOn M)) {device : Ownership (driverOn M).Device}
    {e : Env (driverOn M).State}
    (alive : State.isAlive device.handle e.driver) : ∃ outcome frees,
      (State.api (m.shut device e).driver).trace = (State.api e.driver).trace ++
        (⟨.waitIdle (Device.handle device.handle), outcome⟩ :: frees ++ done (farewell m device)) ∧
      ∀ event ∈ frees, event.Frees := by
  obtain ⟨outcome, frees, closed, all⟩ := trace_closeDevice alive
  refine ⟨outcome, frees, ?_, all⟩
  unfold Manager.shut farewell
  cases m.inst with
  | none => simpa using closed
  | some inst =>
    dsimp only
    rw [trace_closeInstance, closed]
    simp [done]

/-- **A teardown waits for a device that is alive**, once and in the right place. -/
theorem quiesces_destroy [M.Lawful] {m : Manager (driverOn M)}
    {device : Ownership (driverOn M).Device}
    (hd : m.device = some device) {p : Pool (driverOn M)}
    (alive : State.isAlive device.handle p.env.driver) : ∃ calls,
      (State.api (m.destroy p).2.env.driver).trace = (State.api p.env.driver).trace ++ calls ∧
        Quiesces m device calls := by
  have destroys := (Session.destroys_cleared m p).1
  obtain ⟨discards, cleared, discard⟩ := (discards_of_destroys destroys).exists_events
  have serves : State.served (Session.cleared m p).env.driver = State.served p.env.driver :=
    destroys.driver (P := fun s => State.served s = State.served p.env.driver) rfl
      fun x object e same => by
        have kept : State.served ((driverOn M).unmake x object e).driver = State.served e.driver :=
          serves_passes (.unmake x object e)
        exact kept.trans same
  have still : State.isAlive device.handle (Session.cleared m p).env.driver := by
    rw [isAlive_congr (congrArg (·[Device.allocator device.handle]?) serves)]
    exact alive
  obtain ⟨outcome, frees, shut, free⟩ := trace_shut m still
  refine ⟨_, ?_, discards, outcome, frees, rfl, discard, free⟩
  rw [(Session.destroy_of_device hd p).2.2, Pool.env_withEnv, shut, cleared]
  simp

/-! ## Courses -/

/-- Calls of the driver one after the other, with the devices that were released or destroyed meanwhile:
each of them as often as the driver waited during a call that released or destroyed it. -/
inductive Course (e : Env (driverOn M).State) : List Device → Env (driverOn M).State → Prop
  | start : Course e [] e
  | passes {ws : List Device} {e₁ e₂ : Env (driverOn M).State} (h : Course e ws e₁)
    (call : (driverOn M).Passes e₁ e₂) : Course e ws e₂
  | creates {ws : List Device} {inst : Nat} {adapter : AdapterHandle} {what : DeviceDescriptor}
    {x : Device} {e₁ e₂ : Env (driverOn M).State} (h : Course e ws e₁)
    (call : createDevice M inst adapter what e₁ = .ok x e₂) : Course e ws e₂
  | wraps {ws : List Device} {inst handle : Nat} {adapter : AdapterHandle} {x : Device}
    {e₁ e₂ : Env (driverOn M).State} (h : Course e ws e₁)
    (call : wrapDevice M inst adapter handle e₁ = .ok x e₂) : Course e ws e₂
  | fails {ws : List Device} {inst handle : Nat} {adapter : AdapterHandle} {error : Error}
    {e₁ e₂ : Env (driverOn M).State} (h : Course e ws e₁)
    (call : wrapDevice M inst adapter handle e₁ = .error error e₂) : Course e ws e₂
  | ends {ws : List Device} {x : Device} {e₁ e₂ : Env (driverOn M).State} (h : Course e ws e₁)
    (call : (driverOn M).Ends x e₁ e₂) :
    Course e (ws ++ .replicate ((waits e₂).length - (waits e₁).length) x) e₂
  /-- No call, but the failure script may be another one. -/
  | aside {ws : List Device} {e₁ e₂ : Env (driverOn M).State} (h : Course e ws e₁)
    (trace : (State.api e₂.driver).trace = (State.api e₁.driver).trace)
    (allocators : State.allocators e₂.driver = State.allocators e₁.driver) : Course e ws e₂

/-- A release waits for the device if it is alive, and so does a destruction. -/
theorem waits_ends [M.Lawful] {x : Device} {e e' : Env (driverOn M).State}
    (h : (driverOn M).Ends x e e') :
    waits e' = waits e ++ if State.isAlive x e.driver then [x.handle] else [] := by
  cases h with
  | release => exact waits_releaseDevice x e
  | destroy =>
    have last : waits (destroyDevice M x e) = waits (releaseDevice M x e) :=
      waits_of_calls (waitless_call (.destroyDevice x.handle) rfl (releaseDevice M x e))
    exact last.trans (waits_releaseDevice x e)

/-- Devices are waited for at most once in calls. -/
structure Attended (e : Env (driverOn M).State) (ws : List Device) (e' : Env (driverOn M).State) :
    Prop where
  waits : waits e' = waits e ++ ws.map (·.handle)
  apart : (ws.map (·.allocator)).Nodup
  released : ∀ x ∈ ws, x.Released e'.driver

namespace Attended

variable {e e₁ e₂ : Env (driverOn M).State}

/-- A call that does not wait. -/
theorem of_follows [M.Lawful] (h : Attended e ws e₁) (waitless : CallsApi Request.Waitless e₁ e₂)
    (call : Follows e₁ e₂) : Attended e ws e₂ :=
  ⟨(waits_of_calls waitless).trans h.waits, h.apart, fun x hx => (h.released x hx).of_later (.single call)⟩

/-- A device that is waited for was not waited for before. -/
theorem of_ends [M.Lawful] {x : Device} (h : Attended e ws e₁) (call : (driverOn M).Ends x e₁ e₂) :
    Attended e (ws ++ .replicate ((Vulkan.waits e₂).length - (Vulkan.waits e₁).length) x) e₂ := by
  have waits := waits_ends call
  have later : ∀ y ∈ ws, y.Released e₂.driver :=
    fun y hy => (h.released y hy).of_later (.single (.ends call))
  cases alive : State.isAlive x e₁.driver with
  | false =>
    have same : Vulkan.waits e₂ = Vulkan.waits e₁ := by
      rw [waits, alive]
      exact List.append_nil _
    rw [same, Nat.sub_self, List.replicate_zero, List.append_nil]
    exact ⟨same.trans h.waits, h.apart, later⟩
  | true =>
    have waited : Vulkan.waits e₂ = Vulkan.waits e₁ ++ [x.handle] := by
      rw [waits, alive]
      rfl
    have new : x.allocator ∉ ws.map (·.allocator) := by
      intro hmem
      obtain ⟨y, hy, same⟩ := List.mem_map.1 hmem
      have released := h.released y hy
      unfold Device.Released at released
      rw [same] at released
      rw [Device.Released.isAlive_eq_false released] at alive
      cases alive
    rw [waited, List.length_append, List.length_singleton, Nat.add_sub_cancel_left,
      List.replicate_one]
    refine ⟨?_, ?_, ?_⟩
    · rw [waited, h.waits, List.map_append, List.append_assoc]
      rfl
    · rw [List.map_append, List.map_singleton, ← List.concat_eq_append]
      exact List.Nodup.concat new h.apart
    · exact List.forall_mem_append.2
        ⟨later, List.forall_mem_singleton.2 (released_of_ends call alive)⟩

/-- Nothing is waited for, and the allocators stay as they are. -/
theorem of_waits_eq (h : Attended e ws e₁) (waits : Vulkan.waits e₂ = Vulkan.waits e₁)
    (allocators : State.allocators e₂.driver = State.allocators e₁.driver) : Attended e ws e₂ := by
  refine ⟨waits.trans h.waits, h.apart, fun x hx => ?_⟩
  have released := h.released x hx
  unfold Device.Released State.served at released ⊢
  rwa [allocators]

end Attended

/-- **In calls of the driver no device is waited for twice**, however often it is released. -/
theorem Course.attended [M.Lawful] {e e' : Env (driverOn M).State} (h : Course e ws e') :
    Attended e ws e' := by
  induction h with
  | start => exact ⟨(List.append_nil _).symm, .nil, nofun⟩
  | passes _ call ih => exact ih.of_follows (waitless_passes call) (.passes call)
  | creates _ call ih => exact ih.of_follows ((waitless_createDevice _ _ _).of_ok call) (.creates call)
  | wraps _ call ih => exact ih.of_follows ((waitless_wrapDevice _ _ _).of_ok call) (.wraps call)
  | ends _ call ih => exact ih.of_ends call
  | fails _ call ih =>
    refine ih.of_waits_eq (waits_of_calls ((waitless_wrapDevice _ _ _).of_error call)) ?_
    obtain ⟨a, -, rfl⟩ := wrapDevice_error call
    rfl
  | aside _ trace allocators ih => exact ih.of_waits_eq (congrArg waitedFor trace) allocators

/-- There is a course from one environment to another. -/
def Leads (e e' : Env (driverOn M).State) : Prop := ∃ ws, Course e ws e'

theorem Leads.of_drives {e e₁ e₂ : Env (driverOn M).State} (h : Leads e e₁)
    (drives : (driverOn M).Drives e₁ e₂) :
    Leads e e₂ := by
  refine drives.induct (P := Leads e) (fun e₁ e₂ call leads => ?_) h
  obtain ⟨ws, course⟩ := leads
  cases call with
  | passes call => exact ⟨ws, course.passes call⟩
  | creates call => exact ⟨ws, course.creates call⟩
  | ends call => exact ⟨_, course.ends call⟩

/-! ## Runs -/

variable {s t : Session (driverOn M)} {e : Env (driverOn M).State}

/-- A manager that is made is stored, and the one that had its name is torn down. -/
theorem leads_addManager (hs : s.Named) {name : String}
    {make : Act (driverOn M).State (Manager (driverOn M))}
    (ok : ∀ m e₁, make s.pool.env = .ok m e₁ → Leads e e₁)
    (error : ∀ error e₁, make s.pool.env = .error error e₁ → Leads e e₁) :
    Leads e ((Session.addManager name make).after s).pool.env := by
  refine after_addManager_induct (C := fun s => Leads e s.pool.env) (fun m e₁ made => ?_) error
  have named : (s.withEnv e₁).Named := ⟨hs.managers, hs.held⟩
  exact (ok m e₁ made).of_drives (Session.driven_storeManager named name m)

/-- Whatever an operation does, it is a course of calls. -/
theorem leads_step (hs : s.Named) (h : Leads e s.pool.env) (o : Operation) :
    Leads e ((step o).after s).pool.env := by
  have effect := effect_step o s
  generalize (step o).after s = s' at effect
  cases effect with
  | common o => exact h.of_drives (Session.driven_step hs o)
  | aside _ trace _ allocators =>
    obtain ⟨ws, course⟩ := h
    exact ⟨ws, course.aside trace allocators⟩
  | creates n environment selection =>
    have creates := Manager.drives_create (d := driverOn M) (.ofEnvironment environment) selection
    exact leads_addManager hs (fun _ _ made => h.of_drives (creates.of_ok made))
      fun _ _ failed => h.of_drives (creates.of_error failed)
  | borrows =>
    refine leads_addManager hs (fun _ _ made => ?_) fun _ _ failed => ?_
    · obtain ⟨x, e₁, wrapped, borrows⟩ := borrowRaw_ok made
      obtain ⟨ws, course⟩ := h
      have wrapped : Leads e e₁ := ⟨ws, course.wraps wrapped⟩
      exact wrapped.of_drives (.of_asked borrows.asked)
    · obtain ⟨ws, course⟩ := h
      exact ⟨ws, course.fails (borrowRaw_error failed)⟩

theorem leads_run (hs : s.Named) (h : Leads e s.pool.env) (ops : List Operation) :
    Leads e (run ops s).pool.env := by
  induction ops generalizing s with
  | nil => exact h
  | cons o ops ih => exact ih (named_step hs o) (leads_step hs h o)

theorem leads_finish (hs : s.Named) (h : Leads e s.pool.env) : Leads e s.finish.pool.env :=
  h.of_drives (Session.driven_finish hs)

/-- The calls of two related sessions are twins. -/
theorem twins_of_related (h : Related Twin s t) : List.Forall₂ Event.Twin (trace s) (trace t) :=
  (Likeness.Agree.pool h).env.api.trace

/-- **A device is waited for once and in the right place, and it does not matter how that ends.**

First, a teardown of a manager with a device that is alive, whether the manager is destroyed or dropped:
it destroys objects, then waits for the device, gives its memory back and takes leave. Nothing else is
called, so nothing is created.

Second, whatever the operations and the failure script: in any course of calls that leads to the end of the
run no two waits are for the same device, nor are they if what is left is let go of at the end.

Third, two runs that are the same but for the outcomes scripted for waiting: they make the same calls, which
end in the same way unless they wait, and their operations answer the same. -/
theorem idled_once (M : MemoryLibrary) [M.Lawful] :
    (∀ (m : Manager (driverOn M)) (p : Pool (driverOn M)) (device : Ownership (driverOn M).Device),
      m.device = some device → State.isAlive device.handle p.env.driver →
      ∀ q ∈ [(m.destroy p).2, m.drop p], ∃ calls,
        (State.api q.env.driver).trace = (State.api p.env.driver).trace ++ calls ∧
          Quiesces m device calls ∧ waitedFor calls = [Device.handle device.handle]) ∧
    (∀ (host : Host) (rules : Rules) (ops : List Operation),
      ∀ s ∈ [run ops (start (M := M) host rules), (run ops (start (M := M) host rules)).finish],
        Leads (start (M := M) host rules).pool.env s.pool.env ∧
        ∀ ws : List Device, Course (start (M := M) host rules).pool.env ws s.pool.env →
          (ws.map (·.allocator)).Nodup ∧ waitedFor (trace s) = ws.map (·.handle)) ∧
    ∀ [M.Unaware] (host : Host) (rules rules' : Rules) (ops ops' : List Operation),
      TwinRules rules rules' → List.Forall₂ Operation.Twin ops ops' →
      let s := run ops (start (M := M) host rules)
      let s' := run ops' (start (M := M) host rules')
      List.Forall₂ Event.Twin (trace s) (trace s') ∧
        List.Forall₂ Event.Twin (trace s.finish) (trace s'.finish) ∧
        replies ops' (start (M := M) host rules') = replies ops (start (M := M) host rules) := by
  refine ⟨fun m p device hd alive => ?_, fun host rules ops => ?_,
    fun host rules rules' ops ops' twin twins => ?_⟩
  · obtain ⟨calls, trace, quiesces⟩ := quiesces_destroy hd alive
    have dropped : m.drop p = (m.destroy p).2 := if_neg (by simp [Manager.isDestroyed, hd])
    simp only [dropped, List.mem_cons, List.not_mem_nil, or_false, or_self, forall_eq]
    exact ⟨calls, trace, quiesces, quiesces.waitedFor⟩
  · have named : (start (M := M) host rules).Named := Session.named_start _
    have leads : Leads (start (M := M) host rules).pool.env
        (run ops (start (M := M) host rules)).pool.env := leads_run named ⟨[], .start⟩ ops
    have finished := leads_finish (named_run named ops) leads
    refine fun s hs => ⟨?_, fun ws course => ⟨course.attended.apart, course.attended.waits⟩⟩
    rcases List.mem_pair.1 hs with rfl | rfl
    · exact leads
    · exact finished
  · have first : Twin (start (M := M) host rules).pool.env (start (M := M) host rules').pool.env :=
      ⟨⟨rfl, twin, rfl, rfl, .nil⟩, rfl⟩
    obtain ⟨related, same⟩ := related_run (Session.related_start first) twins
    exact ⟨twins_of_related related, twins_of_related (related.finish respects_twin), same⟩

/-- A manager is set up on a device of the caller and makes a sequence. -/
def idling : List Operation :=
  [.common (.call (.createInstance "instance" ⟨"vkrt", 1, 1, [], [], false⟩)),
    .common (.call (.createDevice "device" "instance" 1 ⟨[], [], []⟩)),
    .common (.borrow "manager" "instance" "device" 1 [0] {}),
    .common (.sequence "manager" "sequence" 0 0)]

/-- Then the manager is dropped, and the caller destroys the device. -/
def idled : List Operation :=
  idling ++ [.common (.dropManager "manager"), .common (.call (.destroyDevice "device"))]

/-- Waiting always fails, since the device is lost. -/
def stuck : Rules := [(waiting, [⟨0, ⟨⟨-4⟩, false⟩⟩])]

theorem idled_once_idling :
    let s := run idling (start (M := .own) {} [])
    (∃ m device calls, s.managers.lookup "manager" = some m ∧ m.device = some device ∧
      State.isAlive device.handle s.pool.env.driver ∧
      (State.api (m.drop s.pool).env.driver).trace = trace s ++ calls ∧ Quiesces m device calls ∧
      waitedFor calls = [2]) ∧
    waitedFor (trace (run idled (start (M := .own) {} []))) = [2] ∧
    replies idled (start (M := .own) {} stuck) = replies idled (start (M := .own) {} []) := by
  intro s
  obtain ⟨teardown, -, alike⟩ := idled_once .own
  have twin : TwinRules [] stuck := fun name hne => by
    rw [stuck, List.lookup_cons, beq_false_of_ne hne]
  have twins : List.Forall₂ Operation.Twin idled idled := List.forall₂_same.2 fun o _ => .refl o
  have hs : s = run idling.tail ((step (.common (.call (.createInstance "instance"
    ⟨"vkrt", 1, 1, [], [], false⟩)))).after (start (M := .own) {} [])) := rfl
  have whole : run idled (start (M := .own) {} []) = run idled.tail ((step (.common (.call (.createInstance
    "instance" ⟨"vkrt", 1, 1, [], [], false⟩)))).after (start (M := .own) {} [])) := rfl
  rw [after_createInstance] at hs whole
  obtain ⟨m, device, hm, hd, alive, two⟩ : ∃ m device, s.managers.lookup "manager" = some m ∧
      m.device = some device ∧ State.isAlive device.handle s.pool.env.driver = true ∧
        Device.handle device.handle = 2 := by
    rw [hs]
    exact ⟨_, _, rfl, rfl, rfl, rfl⟩
  obtain ⟨calls, trace, quiesces, waited⟩ := teardown m s.pool device hd alive _ (.tail _ (.head _))
  refine ⟨⟨m, device, calls, hm, hd, alive, trace, quiesces, two ▸ waited⟩, ?_,
    (alike {} [] stuck idled idled twin twins).2.2⟩
  rw [whole]
  rfl

end GpuCompute.Vulkan
