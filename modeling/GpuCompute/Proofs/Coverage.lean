import GpuCompute.Proofs.Accounts

/-!
# No object gets out of sight

An object that was made is destroyed, or its device has ended, or it is in the slot of a resource
(`Pool.Covers`): this is kept by what is done to a pool. It is also said here how a manager lets go of
its device, and what it takes for the device to be cleared before.
-/

namespace GpuCompute

open Trace Recorder

variable {d : Driver} {life : d.Lifetimes}

/-- Each object that was made on a device was destroyed, once and on no other device. -/
def Trace.Cleared (before : Trace) (device : Nat) : Prop :=
  ∀ kind object, Made before kind device object →
    before.count ⟨.destroy device kind object, true⟩ = 1 ∧
    ∀ other, (⟨.destroy other kind object, true⟩ : Event) ∈ before → other = device

/-! ## Managers and their devices -/

namespace Manager

/-- The number of the device of a manager. -/
def deviceId? (m : Manager d.recorded) : Option Nat := m.device.map fun o => o.handle.id

/-- The numbers of the devices of managers. -/
def deviceIds (l : List (Manager d.recorded)) : List Nat := l.filterMap deviceId?

variable {m m' : Manager d.recorded} {l l' : List (Manager d.recorded)} {id : Nat}

theorem deviceId?_eq_some : m.deviceId? = some id ↔ ∃ o, m.device = some o ∧ o.handle.id = id :=
  Option.map_eq_some_iff

theorem mem_deviceIds : id ∈ deviceIds l ↔ ∃ m ∈ l, m.deviceId? = some id := List.mem_filterMap

theorem deviceIds_append : deviceIds (l ++ l') = deviceIds l ++ deviceIds l' := List.filterMap_append

theorem deviceIds_singleton : deviceIds [m] = m.deviceId?.toList := by
  cases h : m.deviceId? <;> simp [deviceIds, h]

/-- Two managers with the same device are the same if no device occurs twice. -/
theorem eq_of_nodup (nodup : (deviceIds l).Nodup) (hm : m ∈ l) (hm' : m' ∈ l)
    (hid : m.deviceId? = some id) (hid' : m'.deviceId? = some id) : m = m' := by
  induction l with
  | nil => cases hm
  | cons a l ih =>
    rw [← List.singleton_append, deviceIds_append, deviceIds_singleton, List.nodup_append] at nodup
    have apart (x) (ha : a.deviceId? = some id) (hx : x ∈ l) (hxid : x.deviceId? = some id) : False :=
      nodup.2.2 id (by simp [ha]) id (mem_deviceIds.2 ⟨x, hx, hxid⟩) rfl
    obtain rfl | hm := List.mem_cons.1 hm <;> obtain h | hm' := List.mem_cons.1 hm'
    · exact h.symm
    · exact (apart m' hid hm' hid').elim
    · exact (apart m (h ▸ hid') hm hid).elim
    · exact ih nodup.2.1 hm hm'

theorem Like.deviceId? (h : m.Like m') : m'.deviceId? = m.deviceId? := by
  unfold Manager.deviceId?
  rw [h.device]

/-- When a manager with resource management releases its device, what was made on the device was
destroyed before. -/
def Settles (known : List (Manager d.recorded)) (before : Trace) (event : Event) : Prop :=
  ∀ m ∈ known, ∀ id, m.config.manageResources → m.deviceId? = some id →
    event = ⟨.releaseDevice id, true⟩ →
    ∀ kind object, Made before kind id object → Destroyed before kind object

theorem always_settles_append {known : List (Manager d.recorded)} {tr T : Trace}
    (h : Always (Settles known) tr) (hT : ∀ event ∈ T, ∀ id, event ≠ ⟨.releaseDevice id, true⟩) :
    Always (Settles known) (tr ++ T) := by
  refine Always.append_iff.2 ⟨h, ?_⟩
  rintro before event after rfl m - id - - heq
  exact absurd heq (hT event (List.mem_append_right _ List.mem_cons_self) id)

theorem ne_release_of_idle {T : Trace} (h : Idle T) :
    ∀ event ∈ T, ∀ id, event ≠ ⟨.releaseDevice id, true⟩ := by
  rintro event hmem id rfl
  cases h _ hmem

/-! ## Letting go of the device -/

/-- The calls after the release of a device at the teardown of its manager: no device is released, and
no other one is destroyed. -/
def Shuts (id : Nat) (T : Trace) : Prop :=
  ∀ event ∈ T, event.isIdle ∨ event = ⟨.destroyDevice id, true⟩

namespace Shuts

variable {id : Nat} {T : Trace}

theorem bare (h : Shuts id T) : Bare (⟨.releaseDevice id, true⟩ :: T) := by
  intro event hmem
  rcases List.mem_cons.1 hmem with rfl | hmem
  · rfl
  · rcases h event hmem with idle | rfl
    · exact Idle.bare (T := [event]) (by simpa [Idle] using idle) event (by simp)
    · rfl

theorem ne_release (h : Shuts id T) {event : Event} (hmem : event ∈ T) {id' : Nat} :
    event ≠ ⟨.releaseDevice id', true⟩ := by
  rintro rfl
  rcases h _ hmem with idle | heq
  · cases idle
  · cases heq

/-- Only the device of the manager ends. -/
theorem eq_of_ended (h : Shuts id T) {id' : Nat} (ended : Ended (⟨.releaseDevice id, true⟩ :: T) id') :
    id' = id := by
  rcases ended with hmem | hmem <;> rcases List.mem_cons.1 hmem with heq | hmem
  · cases heq
    rfl
  · exact absurd rfl (h.ne_release hmem)
  · cases heq
  · rcases h _ hmem with idle | heq
    · cases idle
    · cases heq
      rfl

end Shuts

/-- The release of the device is the first call, and after it no other device is released or
destroyed. -/
theorem trace_shut (life : d.Lifetimes) (m : Manager d.recorded) (o : Ownership d.recorded.Device)
    (e : Env d.recorded.State) :
    ∃ T, (m.shut o e).driver.trace = e.driver.trace ++ ⟨.releaseDevice o.handle.id, true⟩ :: T ∧
      Shuts o.handle.id T := by
  have close : ∃ T, (closeDevice o e).driver.trace =
      e.driver.trace ++ ⟨.releaseDevice o.handle.id, true⟩ :: T ∧
        ∀ event ∈ T, event = ⟨.destroyDevice o.handle.id, true⟩ := by
    cases o with
    | owned x =>
      refine ⟨[⟨.destroyDevice x.id, true⟩], ?_, fun event => List.mem_singleton.1⟩
      change (e.driver.trace ++ [_]) ++ [_] = _
      rw [List.append_assoc]
      rfl
    | borrowed x => exact ⟨[], rfl, nofun⟩
  obtain ⟨T, hT, ends⟩ := close
  unfold shut
  cases m.inst with
  | none => exact ⟨T, hT, fun event hmem => .inr (ends event hmem)⟩
  | some i =>
    have idles : Recorder.Idles life _ _ := idles_closeInstance i m.callbacks (closeDevice o e)
    obtain ⟨T', hT', idle⟩ := idles.trace
    refine ⟨T ++ T', by rw [hT', hT, List.append_assoc, List.cons_append], fun event hmem => ?_⟩
    rcases List.mem_append.1 hmem with hmem | hmem
    · exact .inr (ends event hmem)
    · exact .inl (idle event hmem)

end Manager

/-! ## Pools -/

namespace Pool

variable {p p' : Pool d.recorded} {r : ResourceId}

/-- Whether an object is in a slot. -/
def Has (p : Pool d.recorded) (object : Nat) : Prop :=
  ∃ r s x, p.slot? r = some s ∧ s.object = some x ∧ x.id = object

/-- What was made is destroyed, or its device has ended, or it is in a slot. -/
def Covers (p : Pool d.recorded) : Prop :=
  ∀ kind device object, Made p.env.driver.trace kind device object →
    Destroyed p.env.driver.trace kind object ∨ Ended p.env.driver.trace device ∨ p.Has object

theorem Covers.bare (h : p.Covers) {T : Trace}
    (hT : p'.env.driver.trace = p.env.driver.trace ++ T) (bare : Bare T)
    (slots : p'.slot? = p.slot?) : p'.Covers := by
  intro kind device object made
  rw [hT, made_append_bare bare] at made
  rw [hT, destroyed_append_bare bare, ended_append_iff]
  rcases h _ _ _ made with gone | ended | ⟨r, s, x, hs, hx, hid⟩
  · exact .inl gone
  · exact .inr (.inl (.inl ended))
  · exact .inr (.inr ⟨r, s, x, slots ▸ hs, hx, hid⟩)

theorem Covers.destroy (h : p.Covers) (account : p.Accounted life) (r : ResourceId) :
    (p.destroy r).Covers := by
  have he := empties_destroy r p
  have has {object : Nat} (hobject : p.Has object) : (p.destroy r).Has object ∨
      ∃ s x, p.slot? r = some s ∧ s.object = some x ∧ x.id = object := by
    obtain ⟨r', s, x, hs, hx, hid⟩ := hobject
    by_cases heq : r' = r
    · exact .inr ⟨s, x, heq ▸ hs, hx, hid⟩
    · exact .inl ⟨r', s, x, (he.others r' heq).trans hs, hx, hid⟩
  intro kind device object made
  rcases driver_destroy r p with ⟨same, dead⟩ | ⟨s, x, hs, hx, alive, hdriver⟩
  · rw [same] at made ⊢
    rcases h _ _ _ made with gone | ended | hobject
    · exact .inl gone
    · exact .inr (.inl ended)
    · rcases has hobject with hobject | ⟨s, x, hs, hx, rfl⟩
      · exact .inr (.inr hobject)
      · have ended : Ended p.env.driver.trace s.device.id := by
          by_cases ended : Ended p.env.driver.trace s.device.id
          · exact ended
          · have alive := (account.alive_iff hs).2 ended
            rw [dead s x hs hx] at alive
            cases alive
        rw [(made.unique (account.made hs hx)).2] at ended
        exact .inr (.inl ended)
  · have trace : (p.destroy r).env.driver.trace =
        p.env.driver.trace ++ [⟨.destroy s.device.id x.kind x.id, true⟩] := by
      rw [hdriver, unmake_eq]
      rfl
    rw [trace] at made ⊢
    rw [destroyed_append_iff, ended_append_iff]
    rcases made_append_iff.1 made with made | ⟨-, made⟩
    · rcases h _ _ _ made with gone | ended | hobject
      · exact .inl (.inl gone)
      · exact .inr (.inl (.inl ended))
      · rcases has hobject with hobject | ⟨s', x', hs', hx', rfl⟩
        · exact .inr (.inr hobject)
        · cases hs.symm.trans hs'
          cases hx.symm.trans hx'
          refine .inl (.inr ⟨s.device.id, List.mem_singleton.2 ?_⟩)
          rw [(made.unique (account.made hs hx)).1]
    · obtain ⟨-, what, -, heq⟩ := made_singleton.1 made
      cases heq

/-- What is called when a resource is made. -/
theorem Makes.trace_append (life : d.Lifetimes) {device : d.recorded.Device} {order : Order d.recorded}
    (h : p.Makes device order r p') : ∃ T₁ T₂ x,
      p'.env.driver.trace =
        p.env.driver.trace ++ (T₁ ++ ⟨.create device.id order.creation, true⟩ :: T₂) ∧
      Idle T₁ ∧ Idle T₂ ∧ p'.slot? r = some ⟨device, some x⟩ ∧
      x.id = p.env.driver.trace.length + T₁.length := by
  obtain ⟨e₁, x, e₂, asked, made, again, adds⟩ := h
  obtain ⟨hid, -, inner, -, rfl⟩ := make_ok made
  have first : p.env.driver.Idles life e₁.driver := idles_asked asked
  have last : Recorder.Idles life _ p'.env.driver := idles_asked again
  obtain ⟨T₁, hT₁, idle₁⟩ := first.trace
  obtain ⟨T₂, hT₂, idle₂⟩ := last.trace
  refine ⟨T₁, T₂, x, ?_, idle₁, idle₂, adds.slot, by rw [hid, hT₁, List.length_append]⟩
  rw [hT₂, trace_note, hT₁, List.append_assoc, List.append_assoc, List.singleton_append]

theorem Covers.of_makes (h : p.Covers) (life : d.Lifetimes) {device : d.recorded.Device}
    {order : Order d.recorded} (hp : p.Makes device order r p') : p'.Covers := by
  obtain ⟨T₁, T₂, x, hT, idle₁, idle₂, slot, hid⟩ := hp.trace_append life
  obtain ⟨e₁, x', e₂, -, -, -, adds⟩ := hp
  have has {object : Nat} (hobject : p.Has object) : p'.Has object := by
    obtain ⟨r', s, y, hs, hy, hid⟩ := hobject
    refine ⟨r', s, y, ?_, hy, hid⟩
    rw [adds.others r', hs]
    rintro rfl
    rw [adds.fresh] at hs
    cases hs
  intro kind device' object made
  rw [hT] at made ⊢
  rcases made_append_iff.1 made with made | ⟨hle, made⟩
  · rw [destroyed_append_iff, ended_append_iff]
    rcases h _ _ _ made with gone | ended | hobject
    · exact .inl (.inl gone)
    · exact .inr (.inl (.inl ended))
    · exact .inr (.inr (has hobject))
  · rcases made_append_iff.1 made with made | ⟨hle', made⟩
    · exact absurd made (not_made_of_bare idle₁.bare)
    · rw [← List.singleton_append, made_append_bare idle₂.bare] at made
      refine .inr (.inr ⟨r, _, x, slot, rfl, ?_⟩)
      have := (made_singleton.1 made).1
      omega

end Pool

end GpuCompute
