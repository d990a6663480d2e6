import GpuCompute.Proofs.Estates
import GpuCompute.Proofs.Vulkan.Chains
import GpuCompute.Proofs.Vulkan.Ledger
import GpuCompute.Proofs.Vulkan.Standing

/-!
# Estates on the Vulkan driver

The ledger of the Vulkan driver is complete (`complete`). That the allocator of a device is opened and
closed, that memory is found and given back, and that objects are made and destroyed is a sequence of calls
that make and end no instances, callbacks or devices (`deals_of_calls`). All calls of the API, whatever
they are about, hand out handles in ascending order (`issues_of_calls`).
-/

namespace GpuCompute.Vulkan

open Api

variable {P : Request → Prop} {a a' : Api} {M : MemoryLibrary} [M.Lawful] {e e' : Env State}
  {x : Device}

/-! ## Calls that are not about handles -/

/-- A call that makes and ends objects of devices at most. -/
structure Request.Inner (request : Request) : Prop where
  makes : ∀ id, ∀ t ∈ request.product? id, t.role = .object
  ends : ∀ t ∈ request.ends, t.role = .object

theorem Request.OfObjects.inner {request : Request} (h : request.OfObjects) : request.Inner := by
  cases request with
  | create device what =>
    refine ⟨fun id t ht => ?_, nofun⟩
    cases ht
    cases what <;> rfl
  | destroy => exact ⟨nofun, fun t ht => List.mem_singleton.1 ht ▸ rfl⟩
  | freeCommandBuffers device pool buffers =>
    refine ⟨nofun, fun t ht => ?_⟩
    obtain ⟨buffer, -, rfl⟩ := List.mem_map.1 ht
    rfl
  | updateDescriptorSets | bufferRequirements | bindBuffer | allocateMemory | freeMemory | mapMemory
  | unmapMemory => exact ⟨nofun, nofun⟩
  | _ => exact h.elim

/-- Such calls do nothing about instances, callbacks and devices. -/
theorem deals_of_calls (h : CallsApi Request.Inner e e') :
    M.ledger.Deals [] [] e e' := by
  have entered : ∃ born gone, reading.Enters born gone e.driver.api.trace e'.driver.api.trace ∧
      (∀ t ∈ born, t.role = .object) ∧ ∀ t ∈ gone, t.role = .object := by
    refine h.induct (R := fun a a' => ∃ born gone, reading.Enters born gone a.trace a'.trace ∧
      (∀ t ∈ born, t.role = .object) ∧ ∀ t ∈ gone, t.role = .object)
      ⟨[], [], .refl _, nofun, nofun⟩ ?_
    rintro a₁ a₂ request outcome ⟨born, gone, enters, hborn, hgone⟩ inner adds
    refine ⟨_, _, enters.trans adds.enters, fun t ht => ?_, fun t ht => ?_⟩
    · rcases List.mem_append.1 ht with ht | ht
      · exact hborn t ht
      · obtain ⟨id, -, product⟩ := Option.bind_eq_some_iff.1 (Option.mem_toList.1 ht)
        exact inner.makes id t product
    · exact (List.mem_append.1 ht).elim (hgone t) (inner.ends t)
  obtain ⟨born, gone, enters, hborn, hgone⟩ := entered
  exact Ledger.deals_of_objects (L := M.ledger) enters hborn hgone

theorem deals_of_objects (h : CallsApi Request.OfObjects e e') :
    M.ledger.Deals [] [] e e' :=
  deals_of_calls (h.mono fun _ => Request.OfObjects.inner)

/-! ## Devices -/

theorem callsApi_waitIdle (x : Device) (e : Env State) :
    CallsApi Request.Inner e (waitIdle x e) := by
  have inner : (Request.waitIdle x.handle).Inner := ⟨nofun, nofun⟩
  rw [CallsApi, driver_waitIdle]
  exact callsApi_withApi (calls_check inner _) e

theorem callsApi_closeAllocator (x : Device) (e : Env State) :
    CallsApi Request.Inner e (e.onDriver (closeAllocator M x)) := by
  rw [CallsApi, Env.driver_onDriver]
  unfold closeAllocator
  cases e.driver.allocator? x with
  | none => exact .refl _
  | some m => exact (MemoryLibrary.Lawful.calls_close m _).mono fun _ h => h.discards.ofObjects.inner

/-- To let go of a device is to wait for it and to close its allocator. -/
theorem callsApi_releaseDevice (x : Device) (e : Env State) :
    CallsApi Request.Inner e (releaseDevice M x e) := by
  unfold releaseDevice
  split
  · exact .trans _ _ _ (callsApi_waitIdle x e) (callsApi_closeAllocator x _)
  · exact .refl _

/-! ## All calls -/

/-- Calls hand out handles in ascending order. -/
theorem issues_of_calls (h : Calls P a a') :
    reading.Issues Thing.handle a.next a'.next a.trace a'.trace := by
  refine h.induct (R := fun a a' => reading.Issues Thing.handle a.next a'.next a.trace a'.trace)
    (.refl _ _) ?_
  intro a₁ a₂ request outcome issues _ adds
  refine issues.trans ?_
  rw [adds.trace, adds.next]
  cases hid : outcome.handle? with
  | none => exact .of_append (by simp [reading, Event.made?, hid]) (Nat.le_refl _)
  | some id =>
    rw [Option.elim_some, adds.fresh id hid]
    refine .of_append (fun t ht => ?_) (Nat.le_succ _)
    obtain ⟨id', hid', product⟩ := Option.bind_eq_some_iff.1 ht
    rw [handle_of_product product, adds.fresh id' hid']
    exact ⟨Nat.le_refl _, Nat.lt_succ_self _⟩

/-- **Whatever the driver does, it does by calls of the API.** -/
theorem callsApi_of_calls {e e' : Env (driverOn M).State} (h : (driverOn M).Calls e e') :
    CallsApi (fun _ => True) e e' := by
  have all {P : Request → Prop} {e e' : Env State} (h : CallsApi P e e') :
      CallsApi (fun _ => True) e e' := h.mono fun _ _ => trivial
  cases h with
  | passes h => exact all (waitless_passes h)
  | creates h => exact all ((waitless_createDevice _ _ _).of_ok h)
  | ends h => cases h with
    | release => exact all (callsApi_releaseDevice _ e)
    | destroy => exact .trans _ _ _ (all (callsApi_releaseDevice _ e)) (.of_call trivial _)

/-- The ledger of the Vulkan driver is complete. -/
def complete (M : MemoryLibrary) [M.Lawful] : M.ledger.Complete where
  make x order e := deals_of_objects (callsApi_make x order e)
  unmake x object e := deals_of_objects (callsApi_unmake x object e)
  releaseDevice x e := deals_of_calls (callsApi_releaseDevice x e)
  destroyDevice x e := by
    have released := deals_of_calls (M := M) (callsApi_releaseDevice (M := M) x e)
    refine released.after_ ?_
    exact Ledger.deals_of_enters (enters_call (.destroyDevice _) _) nofun
      fun t ht => List.mem_singleton.1 ht ▸ nofun
  number := Thing.handle
  next s := (State.api s).next
  calls h := issues_of_calls (callsApi_of_calls h)

end GpuCompute.Vulkan
