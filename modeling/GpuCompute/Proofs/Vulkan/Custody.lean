import GpuCompute.Proofs.Moves
import GpuCompute.Proofs.Vulkan.Hosts

/-!
# What Vulkan managers own and borrow

A manager owns an instance, its callbacks and a device, which stand and rest on the instance; or it
borrows an instance and a device, which may be used; or it was torn down and has neither (`Custody`).
When a manager is made, what it owns was made for it (`yields_creates`), and when it cannot be made,
nothing is left (`goes_fails`). When it is torn down, exactly what it owns is ended (`goes_shut`).
-/

namespace GpuCompute.Vulkan

open Api Bootstrap

variable {M : MemoryLibrary} {tr : List Event} {a a' : Api} {gone : List Thing}
  {m m' : Manager (driverOn M)} {inst : Nat}
  {config : Config} {e e' : Env (driverOn M).State}

/-! ## Custody -/

/-- What belongs to an instance: the instance and its callbacks. -/
def hostParts (inst : Nat) (callbacks : Option Callbacks) : List Part :=
  ⟨.inst inst, []⟩ :: callbacks.elim [] (Callbacks.parts inst)

/-- What a manager owns. -/
def estate (m : Manager (driverOn M)) : List Part :=
  match m.inst, m.device with
  | some (.owned i), some (.owned x) =>
    hostParts i m.callbacks ++ [⟨.device (Device.handle x), [.inst i]⟩]
  | _, _ => []

/-- What a manager borrows may be used. -/
structure Lent (tr : List Event) (m : Manager (driverOn M)) : Prop where
  inst : ∀ i, m.inst = some (.borrowed i) → Live tr (.inst i)
  device : ∀ x, m.device = some (.borrowed x) → Live tr (.device (Device.handle x))

/-- A manager owns what it has, or borrows it, or has nothing. -/
inductive Custody (tr : List Event) (m : Manager (driverOn M)) : Prop
  | owns (i : Nat) (x : Device) (inst : m.inst = some (.owned i))
    (device : m.device = some (.owned x)) (stands : ∀ p ∈ estate m, Stands tr p.thing p.rests)
  | borrows (i : Nat) (x : Device) (inst : m.inst = some (.borrowed i))
    (device : m.device = some (.borrowed x)) (callbacks : m.callbacks = none) (lent : Lent tr m)
  | closed (inst : m.inst = none) (device : m.device = none)

theorem estate_of_owned {i : Nat} {x : Device} (inst : m.inst = some (.owned i))
    (device : m.device = some (.owned x)) :
    estate m = hostParts i m.callbacks ++ [⟨.device x.handle, [.inst i]⟩] := by
  unfold estate
  rw [inst, device]

theorem role_of_hostParts {callbacks : Option Callbacks} {p : Part}
    (h : p ∈ hostParts inst callbacks) : p.thing.role = .inst ∨ p.thing.role = .callbacks := by
  rcases List.mem_cons.1 h with rfl | h
  · exact .inl rfl
  · cases callbacks with
    | none => cases h
    | some c =>
      simp only [Option.elim_some, Callbacks.parts, List.mem_cons, List.not_mem_nil, or_false] at h
      obtain rfl | rfl := h <;> exact .inr rfl

theorem role_of_estate {p : Part} (h : p ∈ estate m) : p.thing.role ≠ .object := by
  unfold estate at h
  split at h
  · rcases List.mem_append.1 h with h | h
    · obtain h | h := role_of_hostParts h <;> rw [h] <;> nofun
    · rw [List.mem_singleton.1 h]
      nofun
  · cases h

namespace Custody

theorem live_inst (h : Custody tr m) {o : Ownership Nat} (ho : m.inst = some o) :
    Live tr (.inst o.handle) := by
  cases h with
  | owns i x inst device stands =>
    cases inst.symm.trans ho
    refine .of_stands_nil (stands ⟨.inst i, []⟩ ?_)
    rw [estate_of_owned inst device]
    exact List.mem_cons_self
  | borrows i x inst device callbacks lent =>
    cases inst.symm.trans ho
    exact lent.inst i inst
  | closed inst device => cases inst.symm.trans ho

theorem live_device (h : Custody tr m) {o : Ownership Device} (ho : m.device = some o) :
    Live tr (.device o.handle.handle) := by
  cases h with
  | owns i x inst device stands =>
    cases device.symm.trans ho
    refine live_of_stands (stands ⟨.device x.handle, [.inst i]⟩ ?_) ?_
    · rw [estate_of_owned inst device]
      exact List.mem_append_right _ List.mem_cons_self
    · exact (Custody.owns i x inst device stands).live_inst inst
  | borrows i x inst device callbacks lent =>
    cases device.symm.trans ho
    exact lent.device x device
  | closed inst device => cases device.symm.trans ho

theorem lent (h : Custody tr m) : Lent tr m :=
  ⟨fun _ hi => h.live_inst hi, fun _ hx => h.live_device hx⟩

theorem stands (h : Custody tr m) : ∀ p ∈ estate m, Stands tr p.thing p.rests := by
  cases h with
  | owns i x inst device stands => exact stands
  | borrows i x inst device callbacks lent =>
    unfold estate
    rw [inst]
    nofun
  | closed inst device =>
    unfold estate
    rw [inst]
    nofun

/-- Custody is kept when nothing that is owned is ended and what is borrowed may still be used. -/
theorem of_goes (h : Custody a.trace m) (goes : Api.Goes gone a a')
    (apart : ∀ p ∈ estate m, p.thing ∉ gone) (lent : Lent a'.trace m) : Custody a'.trace m := by
  cases h with
  | owns i x inst device stands =>
    exact .owns i x inst device fun p hp => goes.stands (stands p hp) (apart p hp)
  | borrows i x inst device callbacks _ => exact .borrows i x inst device callbacks lent
  | closed inst device => exact .closed inst device

/-- When only objects are ended, custody is kept. -/
theorem of_goes_objects (h : Custody a.trace m) (goes : Api.Goes gone a a')
    (objects : ∀ t ∈ gone, t.role = .object) :
    Custody a'.trace m :=
  h.of_goes goes (fun _ hp hmem => role_of_estate hp (objects _ hmem))
    ⟨fun i hi => goes.live_of_role objects (h.lent.inst i hi) (by simp [Thing.role]),
      fun x hx => goes.live_of_role objects (h.lent.device x hx) (by simp [Thing.role])⟩

end Custody

theorem estate_like (like : m.Like m') : estate m' = estate m := by
  unfold estate
  rw [like.inst, like.callbacks, like.device]

theorem Custody.of_like (h : Custody tr m) (like : m.Like m') : Custody tr m' := by
  cases h with
  | owns i x inst device stands =>
    exact .owns i x (like.inst.trans inst) (like.device.trans device) (estate_like like ▸ stands)
  | borrows i x inst device callbacks lent =>
    refine .borrows i x (like.inst.trans inst) (like.device.trans device)
      (like.callbacks.trans callbacks) ⟨fun i hi => ?_, fun x hx => ?_⟩
    · exact lent.inst i (like.inst ▸ hi)
    · exact lent.device x (like.device ▸ hx)
  | closed inst device => exact .closed (like.inst.trans inst) (like.device.trans device)

/-! ## Making -/

theorem live_hostInst {i : Nat} {callbacks : Option Callbacks}
    (stands : ∀ p ∈ hostParts i callbacks, Stands tr p.thing p.rests) : Live tr (.inst i) :=
  .of_stands_nil (stands _ List.mem_cons_self)

theorem yields_makesInstance {parts : InstanceParts (driverOn M)}
    (h : MakesInstance config parts e e')
    (good : (State.api e.driver).Good) :
    Yields (hostParts parts.inst parts.callbacks) (State.api e.driver) (State.api e'.driver) := by
  obtain ⟨⟨what, e₁, e₂, e₃, asked, created, again, registers⟩, -⟩ := h
  have first : Goes [] e e₁ := goes_asked asked good (fun _ h => h.elim) fun _ h => h.elim
  have made : Yields [⟨.inst parts.inst, []⟩] (State.api e₁.driver) (State.api e₂.driver) :=
    (makes_createInstance what first.after).ok created
  have then_ : Goes [] e₂ e₃ := goes_asked again made.goes.after (fun _ h => h.elim) fun _ h => h.elim
  have made := (Yields.after_ first made).then_ then_
  generalize parts.callbacks = callbacks at registers ⊢
  cases registers with
  | none => exact made
  | @some c _ e' h =>
    have live : Live (State.api e₃.driver).trace (.inst parts.inst) :=
      made.live List.mem_cons_self nofun
    exact made.trans ((makes_registerCallbacks (e := e₃) made.goes.after live).ok h)

/-- What belongs to an instance is taken down again. -/
theorem goes_destroyHost (parts : InstanceParts (driverOn M)) (good : (State.api e.driver).Good)
    (stands : ∀ p ∈ hostParts parts.inst parts.callbacks,
      Stands (State.api e.driver).trace p.thing p.rests) :
    Goes ((hostParts parts.inst parts.callbacks).map (·.thing)) e
      (Bootstrap.destroyInstance (driverOn M) parts e) := by
  obtain ⟨i, callbacks⟩ := parts
  have live := live_hostInst stands
  cases callbacks with
  | none => exact goes_destroyInstance (e := e) good live
  | some c =>
    have first : Goes ((Callbacks.parts i c).map (·.thing)) e (unregisterCallbacks i c e) :=
      goes_unregisterCallbacks (e := e) good live fun p hp => stands p (List.mem_cons_of_mem _ hp)
    have second := goes_destroyInstance first.after (first.live_inst live (by simp [Callbacks.parts]))
    exact (first.mono fun t ht => List.mem_cons_of_mem _ ht).trans second fun t ht =>
      .inl (List.mem_singleton.1 ht ▸ List.mem_cons_self)

theorem goes_failsInstance (h : FailsInstance (d := driverOn M) e e')
    (good : (State.api e.driver).Good) : Goes [] e e' := by
  have asks {e e' : Env (driverOn M).State} (h : (driverOn M).Asked Driver.nothing Driver.nothing e e')
      (good : (State.api e.driver).Good) : Goes [] e e' :=
    goes_asked h good (fun _ h => h.elim) fun _ h => h.elim
  cases h with
  | asking h => exact asks h good
  | creating asked failed =>
    have first := asks asked good
    exact first.then_ ((makes_createInstance _ first.after).error failed)
  | @registering what i error e₁ e₂ e₃ e₄ asked created again failed undone =>
    have first := asks asked good
    have made : Yields [⟨.inst i, []⟩] (State.api e₁.driver) (State.api e₂.driver) :=
      (makes_createInstance what first.after).ok created
    have made := made.then_ (asks again made.goes.after)
    have live : Live (State.api e₃.driver).trace (.inst i) := made.live List.mem_cons_self nofun
    have vain : Goes [] e₃ e₄ :=
      (makes_registerCallbacks (e := e₃) made.goes.after live).error failed
    subst undone
    have gone : Goes [.inst i] e₄ ((driverOn M).destroyInstance i e₄) :=
      goes_destroyInstance (e := e₄) vain.after (vain.live live)
    exact first.then_ ((made.then_ vain).goes_undone gone (by simp))

theorem yields_makesDevice [M.Lawful] {i : (driverOn M).Instance} {parts : DeviceParts (driverOn M)}
    (h : MakesDevice i parts e e') (good : (State.api e.driver).Good)
    (live : Live (State.api e.driver).trace (.inst i)) :
    Yields [⟨.device (Device.handle parts.device), [.inst i]⟩] (State.api e.driver)
      (State.api e'.driver) := by
  obtain ⟨what, e₁, e₂, asked, created, again⟩ := h
  have first : Goes [] e e₁ := goes_asked asked good (by rintro _ rfl; exact live) fun _ h => h.elim
  have made := (makes_createDevice (e := e₁) parts.adapter what first.after (first.live live)).ok created
  refine Yields.after_ first (made.then_ (goes_asked again made.goes.after (fun _ h => h.elim) ?_))
  rintro _ rfl
  exact live_of_stands (made.made _ List.mem_cons_self).1 (made.goes.live (first.live live))

theorem goes_failsDevice [M.Lawful] {i : (driverOn M).Instance} (h : FailsDevice i e e')
    (good : (State.api e.driver).Good) (live : Live (State.api e.driver).trace (.inst i)) :
    Goes [] e e' := by
  have asks {e' : Env (driverOn M).State} (h : (driverOn M).Asked (Driver.only i) Driver.nothing e e') :
      Goes [] e e' := goes_asked h good (by rintro _ rfl; exact live) fun _ h => h.elim
  cases h with
  | asking h => exact asks h
  | @creating adapter what error e₁ asked failed =>
    have first := asks asked
    exact first.then_
      ((makes_createDevice (e := e₁) adapter what first.after (first.live live)).error failed)

/-- **What a new manager owns was made for it.** -/
theorem yields_creates [M.Lawful] (h : m.Creates config e e') (good : (State.api e.driver).Good) :
    Yields (estate m) (State.api e.driver) (State.api e'.driver) ∧
      Custody (State.api e'.driver).trace m := by
  obtain ⟨inst, device, e₁, hinst, hdevice, consists⟩ := h
  have estate := estate_of_owned consists.inst consists.device
  have first := yields_makesInstance hinst good
  have live := live_hostInst fun p hp => (first.made p hp).1
  have made := first.trans (yields_makesDevice hdevice first.goes.after live)
  rw [consists.callbacks] at estate
  rw [← estate] at made
  exact ⟨made, .owns _ _ consists.inst consists.device fun p hp => (made.made p hp).1⟩

/-- **When a manager cannot be made, nothing is left of it.** -/
theorem goes_fails [M.Lawful] (h : Manager.Fails config e e') (good : (State.api e.driver).Good) :
    Goes [] e e' := by
  rcases h with h | ⟨inst, e₁, e₂, hinst, hdevice, rfl⟩
  · exact goes_failsInstance h good
  · have made := yields_makesInstance hinst good
    have live := live_hostInst fun p hp => (made.made p hp).1
    have made := made.then_ (goes_failsDevice hdevice made.goes.after live)
    have gone := goes_destroyHost inst made.goes.after fun p hp => (made.made p hp).1
    exact made.goes_undone gone fun t ht => List.mem_map.1 ht

/-! ## Tearing down -/

theorem goes_closeInstance {i : Nat} (callbacks : Option Callbacks)
    (good : (State.api e.driver).Good)
    (stands : ∀ p ∈ hostParts i callbacks, Stands (State.api e.driver).trace p.thing p.rests) :
    Goes ((hostParts i callbacks).map (·.thing)) e
      (Manager.closeInstance (d := driverOn M) (.owned i) callbacks e) := by
  have gone := goes_destroyHost ⟨i, callbacks⟩ good stands
  cases callbacks <;> exact gone

/-- **What the teardown of a manager ends is what it owns.** -/
theorem goes_shut [M.Lawful] {o : Ownership Device} (custody : Custody (State.api e.driver).trace m)
    (ho : m.device = some o) (good : (State.api e.driver).Good) (known : o.handle.Known e.driver) :
    Goes ((estate m).map (·.thing)) e (m.shut o e) := by
  have live := custody.live_device ho
  have released : Goes [] e (releaseDevice M o.handle e) := goes_releaseDevice (e := e) good live known
  cases custody with
  | owns i x inst device stands =>
    cases device.symm.trans ho
    rw [estate_of_owned inst device] at stands ⊢
    have known₁ : x.Known (releaseDevice M x e).driver :=
      ((lifetimes.ended (.release e) trivial known).2.2 x known).1
    have device : Goes [.device x.handle] e (Manager.closeDevice (d := driverOn M) (.owned x) e) :=
      released.after_ (goes_destroyDevice released.after (released.live live) known₁)
    have host := goes_closeInstance (i := i) m.callbacks device.after fun p hp => by
      refine device.stands (stands p (List.mem_append_left _ hp)) fun hmem => ?_
      obtain h | h := role_of_hostParts hp <;> rw [List.mem_singleton.1 hmem] at h <;> cases h
    unfold Manager.shut
    rw [inst]
    refine (device.mono fun t ht => ?_).trans host fun t ht => .inl ?_
    · rw [List.map_append]
      exact List.mem_append_right _ ht
    · rw [List.map_append]
      exact List.mem_append_left _ ht
  | borrows i x inst device callbacks lent =>
    cases device.symm.trans ho
    unfold Manager.shut
    rw [inst, callbacks]
    exact released.mono nofun
  | closed inst device => cases device.symm.trans ho

end GpuCompute.Vulkan
