import GpuCompute.Proofs.Lifetimes
import GpuCompute.Proofs.Vulkan.Memory

/-!
# Lifetimes of Vulkan devices

A device is alive as long as its allocator exists. Which device each allocator serves is changed only
by wrapping a device, which adds an allocator, and by releasing one, which vacates its place. So the
Vulkan driver knows which devices are alive (`Vulkan.lifetimes`).
-/

namespace GpuCompute.Vulkan

variable {α : Type} {M : MemoryLibrary} [M.Lawful] {s : State} {e e' : Env State} {error : Error}
  {x y : Device}

/-! ## Allocators -/

/-- The device that each allocator serves. -/
def State.served (s : State) : List (Option Nat) := s.allocators.map fun a => a.map (·.device)

theorem served?_eq (s : State) (i : Nat) :
    s.served[i]? = s.allocators[i]?.map fun a => a.map (·.device) := List.getElem?_map

theorem isAlive_iff : s.isAlive x = true ↔ ∃ h, s.served[x.allocator]? = some (some h) := by
  unfold State.isAlive State.allocator?
  rw [served?_eq]
  cases s.allocators[x.allocator]? with
  | none => simp
  | some a => cases a <;> simp

theorem isAlive_congr {s' : State} (h : s'.served[x.allocator]? = s.served[x.allocator]?) :
    s'.isAlive x = s.isAlive x := by
  rw [Bool.eq_iff_iff, isAlive_iff, isAlive_iff, h]

/-- A device that was wrapped: its allocator serves it or was closed. -/
def Device.Known (x : Device) (s : State) : Prop :=
  s.served[x.allocator]? = some none ∨ s.served[x.allocator]? = some (some x.handle)

theorem Device.Known.device_allocator {a : Allocator} (h : x.Known s) (ha : s.allocator? x = some a) :
    a.device = x.handle := by
  have : s.served[x.allocator]? = some (some a.device) := by
    unfold State.allocator? at ha
    rw [served?_eq, Option.join_eq_some_iff.1 ha]
    rfl
  rcases h with h | h
  · rw [this] at h
    cases h
  · rw [this] at h
    exact (Option.some.inj (Option.some.inj h))

/-- An allocator is replaced by another one of the same device. -/
theorem served_setAllocator {a a' : Allocator} (ha : s.allocator? x = some a)
    (hd : a'.device = a.device) : (s.setAllocator x (some a')).served = s.served := by
  unfold State.served State.setAllocator
  unfold State.allocator? at ha
  refine List.ext_getElem? fun i => ?_
  rw [List.getElem?_map, List.getElem?_map]
  by_cases hi : x.allocator = i
  · subst hi
    have hs := Option.join_eq_some_iff.1 ha
    rw [List.getElem?_set_self (List.getElem?_eq_some_iff.1 hs).1, hs]
    simp [hd]
  · rw [List.getElem?_set_ne hi]

/-! ## Calls that open and close no allocator -/

/-- The allocators serve the same devices. -/
def Serves (e e' : Env State) : Prop := e'.driver.served = e.driver.served

theorem Serves.refl (e : Env State) : Serves e e := rfl

theorem Serves.trans (e e' e'' : Env State) (h : Serves e e') (h' : Serves e' e'') : Serves e e'' :=
  Eq.trans h' h

theorem serves_withApi (act : Attempt Api α) : Attempt.Leaves Serves (withApi act) := by
  refine .of_cases (fun e a e' h => ?_) (fun e error e' h => ?_)
  · obtain ⟨api, -, rfl⟩ := withApi_eq_ok.1 h
    rfl
  · obtain ⟨api, -, rfl⟩ := withApi_eq_error.1 h
    rfl

theorem serves_call (request : Request) : Attempt.Leaves Serves (modify (call request)) :=
  .change fun _ => rfl

theorem served_asksApi {I D : Nat → Prop} {s s' : State} (h : AsksApi I D s s') :
    s'.served = s.served := by
  rcases h with rfl | ⟨request, outcome, -, -, -, heq⟩
  · rfl
  · rw [heq]
    rfl

theorem serves_allocate (x : Device) (r : Requirements) :
    Attempt.Leaves Serves (allocate M x r) := by
  intro e
  unfold Attempt.after Attempt.outcome allocate
  cases ha : e.driver.allocator? x with
  | none => rfl
  | some a =>
    dsimp only
    cases h : withApi (M.allocate r a) e with
    | error error e' =>
      obtain ⟨api, -, rfl⟩ := withApi_eq_error.1 h
      rfl
    | ok allocation e' =>
      obtain ⟨api, hallocate, rfl⟩ := withApi_eq_ok.1 h
      exact served_setAllocator (s := { e.driver with api }) ha
        (MemoryLibrary.Lawful.device_allocate hallocate)

theorem served_free {allocation : Allocation} {s' : State} (h : free M x allocation s = .ok s') :
    s'.served = s.served := by
  unfold free at h
  cases ha : s.allocator? x with
  | none =>
    rw [ha] at h
    cases h
    rfl
  | some a =>
    rw [ha] at h
    cases hf : M.free allocation a s.api with
    | error fault => simp [hf, bind, Except.bind] at h
    | ok freed =>
      obtain ⟨a', api⟩ := freed
      simp only [hf, bind, Except.bind, pure, Except.pure, Except.ok.injEq] at h
      rw [← h]
      exact served_setAllocator (s := { s with api }) ha (MemoryLibrary.Lawful.device_free hf)

theorem serves_giveUpBuffer (x : Device) (b : Buffer) (e : Env State) :
    Serves e (giveUpBuffer M x b e).2 := by
  unfold giveUpBuffer
  dsimp only
  cases h : free M x b.allocation (call (.destroy x.handle .buffer b.handle) e).driver with
  | ok s => exact (served_free h : s.served = _)
  | error fault => rfl

theorem serves_discardBuffer (x : Device) (b : Buffer) (e : Env State) :
    Serves e (discardBuffer M x b e) := by
  rw [Serves, driver_discardBuffer]
  exact serves_giveUpBuffer x b e

theorem serves_ifAlive {skipped : String} (act : Env State → Env State)
    (h : ∀ e, Serves e (act e)) (e : Env State) : Serves e (ifAlive x skipped act e) := by
  unfold ifAlive
  split
  · exact h e
  · rfl

theorem serves_createBuffer (x : Device) (size : UInt64) (usage : UInt32) :
    Attempt.Leaves Serves (createBuffer M x size usage) := by
  have get : Attempt.Leaves Serves (get : Act State (Env State)) := fun e => .refl e
  have bind {α β : Type} {x : Act State α} {f : α → Act State β} (hx : Attempt.Leaves Serves x)
      (hf : ∀ a, Attempt.Leaves Serves (f a)) : Attempt.Leaves Serves (x >>= f) :=
    .bind Serves.trans hx hf
  unfold createBuffer
  refine bind get fun e => ?_
  dsimp only
  split
  · exact fun e => .refl e
  · refine bind (serves_withApi _) fun handle => bind (serves_call _) fun _ => bind get fun e => ?_
    refine bind (.undoing Serves.trans (serves_allocate x _) fun e => .refl e) fun allocation => ?_
    exact bind (.undoing Serves.trans (serves_withApi _) (serves_giveUpBuffer x _)) fun _ =>
      .pure Serves.refl _

theorem serves_createInstance (what : InstanceDescriptor) :
    Attempt.Leaves Serves (createInstance what) := by
  intro e
  rcases createInstance_eq what e with ⟨error, h⟩ | ⟨info, h⟩
  · exact (Attempt.after_of_error h).symm ▸ .refl e
  · have same : (createInstance what).after e =
        (withApi (Api.make (.createInstance info))).after e := by
      unfold Attempt.after Attempt.outcome
      rw [h]
    rw [same]
    exact serves_withApi _ e

theorem serves_createPipeline (x : Device) (what : PipelineDescriptor Buffer) :
    Attempt.Leaves Serves (createPipeline x what) :=
  .bind Serves.trans (serves_withApi _) fun _ =>
    .bind Serves.trans (.change fun _ => rfl) fun _ => .pure Serves.refl _

/-! ## Calls that open an allocator -/

omit [M.Lawful] in
/-- A wrapped device gets the next allocator. -/
theorem wrapDevice_ok {inst handle : Nat} {adapter : AdapterHandle}
    (h : wrapDevice M inst adapter handle e = .ok x e') :
    x = ⟨handle, e.driver.allocators.length⟩ ∧
      ∃ m a, M.newAllocator inst adapter handle e.driver.api = .ok m a ∧
        e' = (e.onDriver fun s => { s with api := a }).onDriver (.addAllocator m) := by
  obtain ⟨m, e₁, made, h⟩ := Attempt.bind_eq_ok.1 h
  obtain ⟨a, opened, rfl⟩ := withApi_eq_ok.1 made
  cases h
  exact ⟨rfl, m, a, opened, rfl⟩

omit [M.Lawful] in
theorem wrapDevice_error {inst handle : Nat} {adapter : AdapterHandle}
    (h : wrapDevice M inst adapter handle e = .error error e') :
    ∃ a, M.newAllocator inst adapter handle e.driver.api = .error error a ∧
      e' = e.onDriver fun s => { s with api := a } := by
  rcases Attempt.bind_eq_error.1 h with failed | ⟨m, e₁, -, h⟩
  · exact withApi_eq_error.1 failed
  · cases h

theorem served_addAllocator (m : Allocator) (s : State) :
    (s.addAllocator m).served = s.served ++ [some m.device] := List.map_append

theorem served_wrapDevice {e : Env State} {inst handle : Nat} {adapter : AdapterHandle}
    (h : wrapDevice M inst adapter handle e = .ok x e') :
    e'.driver.served = e.driver.served ++ [some x.handle] ∧
      x.allocator = e.driver.served.length := by
  obtain ⟨rfl, m, a, made, rfl⟩ := wrapDevice_ok h
  refine ⟨?_, (List.length_map _).symm⟩
  rw [← MemoryLibrary.Lawful.device_newAllocator made]
  exact served_addAllocator m { e.driver with api := a }

theorem served_createDevice {inst : Nat} {adapter : AdapterHandle} {what : DeviceDescriptor}
    (h : createDevice M inst adapter what e = .ok x e') :
    e'.driver.served = e.driver.served ++ [some x.handle] ∧
      x.allocator = e.driver.served.length := by
  obtain ⟨error, h'⟩ | ⟨info, h'⟩ := createDeviceWith_eq (wrapDevice M) inst adapter what e <;>
    rw [createDevice, h'] at h
  · cases h
  · obtain ⟨handle, e₁, made, h⟩ := Attempt.bind_eq_ok.1 h
    obtain ⟨api, -, rfl⟩ := withApi_eq_ok.1 made
    have wrapped := served_wrapDevice (Attempt.undoing_eq_ok.1 h)
    exact wrapped

omit [M.Lawful] in
theorem serves_refusesDevice {inst : Nat} {adapter : AdapterHandle} {what : DeviceDescriptor}
    (h : createDevice M inst adapter what e = .error error e') : Serves e e' := by
  obtain ⟨error, h'⟩ | ⟨info, h'⟩ := createDeviceWith_eq (wrapDevice M) inst adapter what e <;>
    rw [createDevice, h'] at h
  · cases h
    rfl
  · rcases Attempt.bind_eq_error.1 h with failed | ⟨handle, e₁, made, h⟩
    · obtain ⟨api, -, rfl⟩ := withApi_eq_error.1 failed
      rfl
    · obtain ⟨api, -, rfl⟩ := withApi_eq_ok.1 made
      obtain ⟨e₂, failed, rfl⟩ := Attempt.undoing_eq_error.1 h
      obtain ⟨a, -, rfl⟩ := wrapDevice_error failed
      rfl

/-- All calls but those that make or end a device. -/
theorem serves_passes {e e' : Env (driverOn M).State} (h : (driverOn M).Passes e e') :
    Serves e e' := by
  cases h with
  | asks h =>
    exact served_asksApi (asksApi_of_asks M (wrapDevice M) h)
  | createInstance what => exact serves_createInstance what e
  | registerCallbacks i => exact serves_withApi _ e
  | unregisterCallbacks i c => rfl
  | destroyInstance i => rfl
  | refusesDevice h => exact serves_refusesDevice h
  | make x order =>
    cases order with
    | buffer size usage =>
      rw [Driver.make, Attempt.after_map]
      exact serves_createBuffer x size usage e
    | pipeline what =>
      rw [Driver.make, Attempt.after_map]
      exact serves_createPipeline x what e
    | batch family timestamps =>
      rw [Driver.make, Attempt.after_map]
      exact serves_withApi (CommandBatch.create (x : Device).handle family timestamps) e
  | unmake x object =>
    cases object with
    | buffer b => exact serves_ifAlive _ (serves_discardBuffer x b) e
    | pipeline p =>
      exact serves_ifAlive
        (fun e => e.onDriver (.onApi (Pipeline.destroy (x : Device).handle p))) (fun _ => rfl) e
    | batch b =>
      exact serves_ifAlive
        (fun e => e.onDriver (.onApi (CommandBatch.destroy (x : Device).handle b))) (fun _ => rfl) e

/-! ## Calls that close an allocator -/

theorem serves_waitIdle (x : Device) (e : Env State) : Serves e (waitIdle x e) := by
  rw [Serves, driver_waitIdle]
  exact serves_withApi _ e

omit [M.Lawful] in
/-- A place is vacated, if it was in use. -/
theorem served_closeAllocator (x : Device) (s : State) :
    (closeAllocator M x s).served = s.served ∧ s.isAlive x = false ∨
      (closeAllocator M x s).served = s.served.set x.allocator none := by
  unfold closeAllocator
  cases ha : s.allocator? x with
  | none => exact .inl ⟨rfl, by rw [State.isAlive, ha]; rfl⟩
  | some a => exact .inr List.map_set

theorem Device.Known.lt (h : x.Known s) : x.allocator < s.served.length := by
  obtain h | h := h <;> exact (List.getElem?_eq_some_iff.1 h).1

/-- The place of a device that is not alive was vacated before. -/
theorem Device.Known.set_none_eq (h : x.Known s) (dead : s.isAlive x = false) :
    s.served.set x.allocator none = s.served := by
  rcases h with h | h
  · obtain ⟨hlt, hget⟩ := List.getElem?_eq_some_iff.1 h
    rw [← hget, List.set_getElem_self]
  · rw [isAlive_iff.2 ⟨_, h⟩] at dead
    cases dead

omit [M.Lawful] in
/-- A device that is released is not alive, and only its allocator is closed. -/
theorem served_releaseDevice (known : x.Known e.driver) :
    (releaseDevice M x e).driver.served = e.driver.served.set x.allocator none := by
  unfold releaseDevice
  cases alive : e.driver.isAlive x with
  | false => exact (known.set_none_eq alive).symm
  | true =>
    have waits : (waitIdle x e).driver.served = e.driver.served := serves_waitIdle x e
    rcases served_closeAllocator (M := M) x (waitIdle x e).driver with ⟨-, dead⟩ | closed
    · rw [isAlive_congr (congrArg (·[x.allocator]?) waits), alive] at dead
      cases dead
    · rw [← waits]
      exact closed

omit [M.Lawful] in
/-- Before a device is destroyed it is released. -/
theorem served_ends {x : Device} {e e' : Env (driverOn M).State} (h : (driverOn M).Ends x e e')
    (known : x.Known e.driver) :
    State.served e'.driver = (State.served e.driver).set x.allocator none := by
  cases h with
  | release => exact served_releaseDevice known
  | destroy => exact served_releaseDevice known

/-- A device that has got the next allocator is alive and was not known before; those before it are as
they were. -/
theorem known_opened {s' : State} (served : s'.served = s.served ++ [some x.handle])
    (new : x.allocator = s.served.length) : ¬ x.Known s ∧ x.Known s' ∧ s'.isAlive x = true ∧
      ∀ y : Device, y.Known s → y.Known s' ∧ s'.isAlive y = s.isAlive y := by
  have last : s'.served[x.allocator]? = some (some x.handle) := by
    rw [served, new, List.getElem?_append_right (Nat.le_refl _), Nat.sub_self]
    rfl
  refine ⟨fun known => ?_, .inr last, isAlive_iff.2 ⟨_, last⟩, fun y known => ?_⟩
  · have lt := known.lt
    omega
  · have old : s'.served[y.allocator]? = s.served[y.allocator]? := by
      rw [served, List.getElem?_append_left known.lt]
    refine ⟨?_, isAlive_congr old⟩
    unfold Device.Known
    rwa [old]

/-- Two devices that were wrapped do not share an allocator that is open. -/
theorem Device.Known.of_vacated {s' : State} (hx : x.Known s) (hy : y.Known s)
    (served : s'.served = s.served.set x.allocator none) :
    y.Known s' ∧ (y ≠ x → s'.isAlive y = s.isAlive y) := by
  by_cases hxy : x.allocator = y.allocator
  · have gone : s'.served[y.allocator]? = some none := by
      rw [served, hxy, List.getElem?_set_self hy.lt]
    refine ⟨.inl gone, fun hne => ?_⟩
    have dead : s.served[y.allocator]? = some none := by
      rcases hy with hy | hy
      · exact hy
      · obtain hx | hx := hx <;> rw [hxy, hy] at hx
        · cases hx
        · have : y = x := by
            cases x
            cases y
            simp_all
          exact absurd this hne
    exact isAlive_congr (gone.trans dead.symm)
  · have same : s'.served[y.allocator]? = s.served[y.allocator]? := by
      rw [served, List.getElem?_set_ne hxy]
    refine ⟨?_, fun _ => isAlive_congr same⟩
    unfold Device.Known
    rwa [same]

/-- **The Vulkan driver knows which devices are alive.** -/
def lifetimes : (driverOn M).Lifetimes where
  Sound _ := True
  Known := Device.Known
  passes := by
    intro e e' h _
    have served : State.served e'.driver = State.served e.driver := serves_passes h
    refine ⟨trivial, fun x known => ⟨?_, isAlive_congr (by rw [served])⟩⟩
    unfold Device.Known at known ⊢
    rwa [served]
  created := by
    intro i a what e x e' h _
    obtain ⟨served, new⟩ := served_createDevice h
    exact ⟨trivial, known_opened served new⟩
  ended := by
    intro x e e' h _ known
    have served := served_ends h known
    have gone : (State.served e'.driver)[Device.allocator x]? = some none := by
      rw [served, List.getElem?_set_self (Device.Known.lt known)]
    refine ⟨trivial, ?_, fun y hy => Device.Known.of_vacated known hy served⟩
    refine Bool.eq_false_iff.2 fun alive => ?_
    obtain ⟨handle, halive⟩ := isAlive_iff.1 alive
    rw [gone] at halive
    cases halive

end GpuCompute.Vulkan
