import GpuCompute.Proofs.Vulkan.Objects

/-!
# Instances and devices of the Vulkan driver

The calls of the driver about instances, their callbacks and devices: what they make stands afterwards
on the instance, what they end is what they are told to end, and all of them are fine when the handles
that they are given may be used. So are questions (`goes_asked`).
-/

namespace GpuCompute.Vulkan

open Api

variable {tr : List Event} {a : Api} {e e' : Env State} {x : Device} {inst : Nat}
  {M : MemoryLibrary} [M.Lawful]

/-! ## Instances and devices in a trace -/

theorem parents_of_inst {request : Request} {id handle : Nat}
    (h : request.product? id = some (.inst handle)) : request.parents = [] := by
  cases request with
  | createInstance info => rfl
  | create device what => cases what <;> cases h
  | _ => cases h

/-- A live instance rests on nothing. -/
theorem Live.inst_stands {handle : Nat} (h : Live tr (.inst handle)) :
    Stands tr (.inst handle) [] := by
  obtain ⟨rests, stands⟩ := h.stands
  obtain ⟨e, he, hmade, rfl⟩ := stands.made
  obtain ⟨id, -, hproduct⟩ := Option.bind_eq_some_iff.1 hmade
  rwa [parents_of_inst hproduct] at stands

/-- When other things are ended than a live instance, it stays live. -/
theorem Api.Goes.live_inst {gone : List Thing} {a' : Api} {handle : Nat} (h : Goes gone a a')
    (live : Live a.trace (.inst handle)) (hgone : .inst handle ∉ gone) :
    Live a'.trace (.inst handle) := .of_stands_nil (h.stands live.inst_stands hgone)

/-! ## Instances -/

theorem makes_createInstance (what : InstanceDescriptor) (good : e.driver.api.Good) :
    Makes (fun i => [⟨.inst i, []⟩]) e (createInstance what) e := by
  rcases createInstance_eq what e with ⟨error, h⟩ | ⟨info, h⟩
  · refine ⟨fun h' => ?_, fun h' => ?_⟩ <;> rw [h] at h' <;> cases h'
    exact .refl good
  · have made : Makes (fun i => [⟨.inst i, []⟩]) e (withApi (Api.make (.createInstance info))) e :=
      .withApi (builds_make (.createInstance info) .inst good nofun fun _ => rfl)
    exact ⟨fun h' => made.ok (h ▸ h'), fun h' => made.error (h ▸ h')⟩

theorem goes_destroyInstance (good : e.driver.api.Good)
    (live : Live e.driver.api.trace (.inst inst)) :
    Goes [.inst inst] e (call (.destroyInstance inst) e) :=
  goes_call (.destroyInstance inst) good (by simpa [Request.uses] using live)

/-- The parts of callbacks on an instance. -/
def Callbacks.parts (inst : Nat) (c : Callbacks) : List Part :=
  [⟨.report c.report, [.inst inst]⟩, ⟨.messenger c.messenger, [.inst inst]⟩]

theorem makes_registerCallbacks (good : e.driver.api.Good)
    (live : Live e.driver.api.trace (.inst inst)) :
    Makes (Callbacks.parts inst) e (registerCallbacks inst) e := by
  refine .withApi (.stage .report (.nil (.refl good)) ?_ (fun _ => rfl) (fun _ => rfl) ?_
    fun report a₁ goes₁ acc₁ => .make .messenger acc₁ ?_ (fun _ => rfl)
    fun messenger a₂ goes₂ acc₂ => .pure acc₂)
  · simpa [Request.uses] using live
  · simp only [Request.uses, List.mem_cons, List.not_mem_nil, or_false]
    rintro id t (rfl | rfl) <;> simp
  · simpa [Request.uses] using goes₁.live live

theorem goes_unregisterCallbacks {c : Callbacks} (good : e.driver.api.Good)
    (live : Live e.driver.api.trace (.inst inst))
    (stands : ∀ p ∈ Callbacks.parts inst c, Stands e.driver.api.trace p.thing p.rests) :
    Goes ((Callbacks.parts inst c).map (·.thing)) e (unregisterCallbacks inst c e) := by
  have report : Stands e.driver.api.trace (.report c.report) [.inst inst] :=
    stands _ List.mem_cons_self
  have messenger : Stands e.driver.api.trace (.messenger c.messenger) [.inst inst] :=
    stands _ (.tail _ List.mem_cons_self)
  have first : Goes [.report c.report] e (call (.destroyDebugReport inst c.report) e) := by
    refine goes_call (.destroyDebugReport inst c.report) good ?_
    simpa [Request.uses] using ⟨live, live_of_stands report live⟩
  have live₁ := first.live_inst live (by simp)
  have second := goes_call (.destroyMessenger inst c.messenger) first.after <| by
    simpa [Request.uses] using ⟨live₁, live_of_stands (first.stands messenger (by simp)) live₁⟩
  exact (first.mono (by simp [Callbacks.parts])).trans second (by simp [Request.ends, Callbacks.parts])

/-! ## Devices -/

theorem goes_ofAdapter {adapter : AdapterHandle} {a' : Api}
    (h : Calls (Request.OfAdapter inst adapter) a a') (good : a.Good) (live : Live a.trace (.inst inst)) :
    Api.Goes [] a a' := by
  refine h.induct (R := Api.Goes []) (.refl good) fun {a₁ a₂ request outcome} goes asks adds => ?_
  simp only [Request.OfAdapter, List.mem_cons, List.not_mem_nil, or_false] at asks
  obtain rfl | rfl := asks <;>
    exact goes.then_ (goes_of_adds adds goes.after (by simpa [Request.uses] using goes.live live))

omit [M.Lawful] in
/-- What the library does for a device is all that is done to wrap it. -/
theorem api_after_wrapDevice (adapter : AdapterHandle) (handle : Nat) (e : Env State) :
    ((wrapDevice M inst adapter handle).after e).driver.api =
      (M.newAllocator inst adapter handle).after e.driver.api := by
  cases h : wrapDevice M inst adapter handle e with
  | ok x e' =>
    obtain ⟨-, m, a, opened, rfl⟩ := wrapDevice_ok h
    rw [Attempt.after_of_ok h, Attempt.after_of_ok opened]
    rfl
  | error error e' =>
    obtain ⟨a, failed, rfl⟩ := wrapDevice_error h
    rw [Attempt.after_of_error h, Attempt.after_of_error failed]
    rfl

theorem goes_wrapDevice (adapter : AdapterHandle) (handle : Nat) (good : e.driver.api.Good)
    (live : Live e.driver.api.trace (.inst inst)) :
    Goes [] e ((wrapDevice M inst adapter handle).after e) := by
  rw [Goes, api_after_wrapDevice]
  exact goes_ofAdapter (MemoryLibrary.Lawful.calls_newAllocator inst adapter handle _) good live

theorem goes_wrapped {adapter : AdapterHandle} {handle : Nat}
    (wrapped : wrapDevice M inst adapter handle e = .ok x e') (good : e.driver.api.Good)
    (live : Live e.driver.api.trace (.inst inst)) : Goes [] e e' :=
  Attempt.after_of_ok wrapped ▸ goes_wrapDevice adapter handle good live

/-- A device that cannot be wrapped is destroyed again. -/
theorem makes_createDevice (adapter : AdapterHandle) (what : DeviceDescriptor)
    (good : e.driver.api.Good) (live : Live e.driver.api.trace (.inst inst)) :
    Makes (fun x => [⟨.device (Device.handle x), [.inst inst]⟩]) e (createDevice M inst adapter what)
      e := by
  rcases createDeviceWith_eq (wrapDevice M) inst adapter what e with ⟨error, h⟩ | ⟨info, h⟩
  · refine ⟨fun h' => ?_, fun h' => ?_⟩ <;> rw [createDevice, h] at h' <;> cases h'
    exact .refl good
  · have made : Makes (fun x => [⟨.device (Device.handle x), [.inst inst]⟩]) e
        (withApi (Api.make (.createDevice inst adapter info)) >>= fun handle =>
          Attempt.undoing (call (.destroyDevice handle)) (wrapDevice M inst adapter handle)) e := by
      refine .make .device good (by simpa [Request.uses] using live) (fun _ => rfl)
        fun handle e₁ serves made => ?_
      refine ⟨fun h => ?_, fun h => ?_⟩
      · have wrapped := Attempt.undoing_eq_ok.1 h
        have goes := goes_wrapped wrapped made.goes.after (made.goes.live live)
        rw [(wrapDevice_ok wrapped).1]
        exact made.then_ goes
      · obtain ⟨e₂, failed, rfl⟩ := Attempt.undoing_eq_error.1 h
        have asked : Goes [] e₁ e₂ := Attempt.after_of_error failed ▸
          goes_wrapDevice adapter handle made.goes.after (made.goes.live live)
        have made := made.then_ asked
        have undone : Goes [.device handle] e₂ (call (.destroyDevice handle) e₂) := by
          refine goes_call (.destroyDevice handle) made.goes.after ?_
          simpa [Request.uses] using
            live_of_stands (made.made _ List.mem_cons_self).1 (made.goes.live live)
        exact made.goes_undone undone (by simp)
    exact ⟨fun h' => made.ok (by rwa [createDevice, h] at h'),
      fun h' => made.error (by rwa [createDevice, h] at h')⟩

theorem goes_waitIdle (good : e.driver.api.Good)
    (live : Live e.driver.api.trace (.device x.handle)) : Goes [] e (waitIdle x e) := by
  have goes := goes_invoke (.waitIdle x.handle) good (by simpa [Request.uses] using live) rfl
  rw [Goes, driver_waitIdle]
  exact goes

theorem goes_releaseDevice (good : e.driver.api.Good)
    (live : Live e.driver.api.trace (.device x.handle)) (known : x.Known e.driver) :
    Goes [] e (releaseDevice M x e) := by
  unfold releaseDevice
  split
  · have waits := goes_waitIdle good live
    have known := known_of_serves known (serves_waitIdle x e)
    refine waits.then_ ?_
    unfold closeAllocator
    cases ha : (waitIdle x e).driver.allocator? x with
    | none =>
      dsimp only [Env.driver_onDriver]
      rw [ha]
      exact .refl waits.after
    | some m =>
      dsimp only [Env.driver_onDriver]
      rw [ha]
      have closes := MemoryLibrary.Lawful.calls_close (M := M) m (waitIdle x e).driver.api
      rw [known.device_allocator ha] at closes
      exact works_of_calls (closes.mono fun _ => Request.Frees.ofMemory) waits.after
        (waits.live live)
  · exact .refl good

theorem goes_destroyDevice (good : e.driver.api.Good)
    (live : Live e.driver.api.trace (.device x.handle)) (known : x.Known e.driver) :
    Goes [.device x.handle] e (destroyDevice M x e) := by
  have released := goes_releaseDevice (M := M) good live known
  refine released.after_ (goes_call (.destroyDevice x.handle) released.after ?_)
  simpa [Request.uses] using released.live live

/-! ## Questions -/

theorem goes_asksApi {I D : Nat → Prop} {s s' : State} (h : AsksApi I D s s') (good : s.api.Good)
    (hI : ∀ i, I i → Live s.api.trace (.inst i)) (hD : ∀ h, D h → Live s.api.trace (.device h)) :
    Api.Goes [] s.api s'.api := by
  rcases h with rfl | ⟨request, outcome, asks, -, adds, -⟩
  · exact .refl good
  · have live : ∀ t ∈ request.uses, Live s.api.trace t := by
      cases request with
      | enumerateAdapters inst | adapterProperties inst | adapterFamilies inst
      | enumerateDeviceExtensions inst =>
        simpa [Request.uses] using hI inst asks
      | getQueue device => simpa [Request.uses] using hD device asks
      | enumerateInstanceExtensions | enumerateInstanceLayers => simp [Request.uses]
      | _ => exact asks.elim
    have ends : request.ends = [] := by cases request <;> first | rfl | exact asks.elim
    exact ends ▸ goes_of_adds adds good live

omit [M.Lawful] in
theorem goes_asked {I : (driverOn M).Instance → Prop} {D : (driverOn M).Device → Prop}
    {e e' : Env (driverOn M).State} (h : (driverOn M).Asked I D e e') (good : (State.api e.driver).Good)
    (hI : ∀ i, I i → Live (State.api e.driver).trace (.inst i))
    (hD : ∀ x, D x → Live (State.api e.driver).trace (.device (Device.handle x))) :
    Goes [] e e' := by
  refine h.induct (P := fun e' => Goes [] e e') (fun e₁ e₂ asks goes => ?_) (.refl good)
  refine goes.then_ (goes_asksApi (asksApi_of_asks M (wrapDevice M) asks) goes.after
    (fun i hi => goes.live (hI i hi)) ?_)
  rintro _ ⟨x, hx, rfl⟩
  exact goes.live (hD x hx)

end GpuCompute.Vulkan
