import GpuCompute.Proofs.Holders
import GpuCompute.Proofs.Sanity

/-!
# Accounts of objects

What a pool knows about objects agrees with the trace of the calls (`Pool.Accounted`): an object in a
slot was made on the device of the slot and was not destroyed, and it is in no other slot. So each call
that destroys an object is right when it is made (`Trace.Lawful`), since an object leaves its slot when
it is given up, and is destroyed only if its device is alive. This file shows that what is done to a
pool keeps the account.
-/

namespace GpuCompute

open Trace

/-- What is destroyed was made before and on the same device, was not destroyed before, and its device
was neither released nor destroyed before. -/
def Trace.Lawful (before : Trace) (event : Event) : Prop :=
  ∀ device kind object, event = ⟨.destroy device kind object, true⟩ →
    Made before kind device object ∧ ¬ Destroyed before kind object ∧ ¬ Ended before device

namespace Trace

variable {tr T : Trace} {event : Event} {kind : Kind} {object : Nat}

theorem lawful_of_bare (h : event.isBare) : Lawful tr event := by
  rintro device kind object rfl
  cases h

theorem lawful_create (device : Nat) (what : Creation) (succeeded : Bool) :
    Lawful tr ⟨.create device what, succeeded⟩ := by
  rintro device kind object h
  cases h

theorem always_lawful_append (h : Always Lawful tr) (bare : Bare T) : Always Lawful (tr ++ T) := by
  refine Always.append_iff.2 ⟨h, fun before event after hT => lawful_of_bare (bare event ?_)⟩
  rw [hT]
  exact List.mem_append_right _ List.mem_cons_self

/-- What was destroyed had been made. -/
theorem Destroyed.made (lawful : Always Lawful tr) (h : Destroyed tr kind object) :
    ∃ device, Made tr kind device object := by
  obtain ⟨device, hmem⟩ := h
  obtain ⟨before, after, rfl⟩ := List.append_of_mem hmem
  exact ⟨device, (lawful _ _ _ rfl _ _ _ rfl).1.append _⟩

theorem Destroyed.lt (lawful : Always Lawful tr) (h : Destroyed tr kind object) :
    object < tr.length := by
  obtain ⟨device, made⟩ := h.made lawful
  exact made.lt_length

/-- An object is destroyed by only one event of a lawful trace. -/
theorem destroyed_once (lawful : Always Lawful tr) (device : Nat) :
    tr.count ⟨.destroy device kind object, true⟩ ≤ 1 := by
  by_cases hmem : (⟨.destroy device kind object, true⟩ : Event) ∈ tr
  · obtain ⟨before, after, rfl⟩ := List.append_of_mem hmem
    have first : (⟨.destroy device kind object, true⟩ : Event) ∉ before := fun h =>
      (lawful _ _ _ rfl _ _ _ rfl).2.1 ⟨device, h⟩
    have last : (⟨.destroy device kind object, true⟩ : Event) ∉ after := by
      intro h
      obtain ⟨middle, rest, rfl⟩ := List.append_of_mem h
      have split := lawful (before ++ ⟨.destroy device kind object, true⟩ :: middle)
        ⟨.destroy device kind object, true⟩ rest (by simp) _ _ _ rfl
      exact split.2.1 ⟨device, List.mem_append_right _ List.mem_cons_self⟩
    have noneBefore := List.count_eq_zero.2 first
    have noneAfter := List.count_eq_zero.2 last
    rw [List.count_append, List.count_cons_self]
    omega
  · rw [List.count_eq_zero.2 hmem]
    exact Nat.zero_le 1

end Trace

/-! ## Calls that leave objects alone -/

namespace Recorder

variable {d : Driver} {life : d.Lifetimes} {r r' r'' : Recorder d} {e e' : Env d.recorded.State}

/-- Only events were added that have nothing to do with objects, no device is forgotten, and the
recorder stays sane. -/
structure Spares (life : d.Lifetimes) (r r' : Recorder d) : Prop where
  trace : ∃ T, r'.trace = r.trace ++ T ∧ Bare T
  devices : ∀ x ∈ r.devices, x ∈ r'.devices
  sane : r.Sane life → r'.Sane life

theorem Idles.spares (h : r.Idles life r') : r.Spares life r' := by
  obtain ⟨T, hT, idle⟩ := h.trace
  exact ⟨⟨T, hT, idle.bare⟩, h.devices, h.sane⟩

theorem Spares.trans (h : r.Spares life r') (h' : r'.Spares life r'') : r.Spares life r'' := by
  obtain ⟨T, hT, bare⟩ := h.trace
  obtain ⟨T', hT', bare'⟩ := h'.trace
  exact ⟨⟨T ++ T', by rw [hT', hT, List.append_assoc], bare.append bare'⟩,
    fun x hx => h'.devices x (h.devices x hx), fun hs => h'.sane (h.sane hs)⟩

theorem spares_note {request : Trace.Request} {inner : Env d.State}
    (bare : (⟨request, true⟩ : Event).isBare)
    (sane : e.driver.Sane life → (note request true inner e).driver.Sane life) :
    e.driver.Spares life (note request true inner e).driver := by
  refine ⟨⟨_, rfl, ?_⟩, fun _ hx => hx, sane⟩
  intro event hevent
  rwa [List.mem_singleton.1 hevent]

theorem spares_releaseDevice {x : d.recorded.Device} (hx : x ∈ e.driver.devices) :
    e.driver.Spares life (d.recorded.releaseDevice x e).driver :=
  spares_note rfl fun hs => sane_releaseDevice hs hx

theorem spares_destroyDevice {x : d.recorded.Device} (hx : x ∈ e.driver.devices) :
    e.driver.Spares life (d.recorded.destroyDevice x e).driver :=
  spares_note rfl fun hs => sane_destroyDevice hs hx

theorem idles_closeInstance (o : Ownership d.recorded.Instance) (c : Option d.recorded.Callbacks)
    (e : Env d.recorded.State) : e.driver.Idles life (Manager.closeInstance o c e).driver :=
  idles_idled (Manager.idled_closeInstance o c e)

theorem spares_closeDevice {o : Ownership d.recorded.Device} (ho : o.handle ∈ e.driver.devices) :
    e.driver.Spares life (Manager.closeDevice o e).driver := by
  have release : e.driver.Spares life (d.recorded.releaseDevice o.handle e).driver :=
    spares_releaseDevice ho
  cases o with
  | owned x => exact release.trans (spares_destroyDevice (release.devices x ho))
  | borrowed x => exact release

/-- What a manager does when it lets go of its device and its instance. -/
theorem spares_shut {m : Manager d.recorded} {o : Ownership d.recorded.Device}
    (ho : o.handle ∈ e.driver.devices) : e.driver.Spares life (m.shut o e).driver := by
  unfold Manager.shut
  split
  · exact spares_closeDevice ho
  · exact (spares_closeDevice ho).trans (idles_closeInstance _ _ _).spares

end Recorder

/-! ## Pools -/

namespace Pool

variable {d : Driver} {life : d.Lifetimes} {p p' : Pool d.recorded} {r : ResourceId}

/-- The slots that are left after one is emptied. -/
theorem Empties.slot_before {s : Slot d.recorded (Object d.recorded)}
    (h : p.Empties r p') {r' : ResourceId} (hs : p'.slot? r' = some s) :
    ∃ s', p.slot? r' = some s' ∧ s'.device = s.device ∧
      ∀ x, s.object = some x → r' ≠ r ∧ s'.object = some x := by
  by_cases heq : r' = r
  · subst heq
    rw [h.slot] at hs
    obtain ⟨s', hs', rfl⟩ := Option.map_eq_some_iff.1 hs
    exact ⟨s', hs', rfl, fun x hx => by cases hx⟩
  · rw [h.others r' heq] at hs
    exact ⟨s, hs, rfl, fun x hx => ⟨heq, hx⟩⟩

/-- What a pool knows about objects agrees with the trace. -/
structure Accounted (life : d.Lifetimes) (p : Pool d.recorded) : Prop where
  sane : p.env.driver.Sane life
  lawful : Always Lawful p.env.driver.trace
  devices : ∀ {r s}, p.slot? r = some s → s.device ∈ p.env.driver.devices
  made : ∀ {r s x}, p.slot? r = some s → s.object = some x →
    Made p.env.driver.trace x.kind s.device.id x.id
  present : ∀ {r s x}, p.slot? r = some s → s.object = some x →
    ¬ Destroyed p.env.driver.trace x.kind x.id
  apart : ∀ {r s x r' s' x'}, p.slot? r = some s → s.object = some x → p.slot? r' = some s' →
    s'.object = some x' → x.id = x'.id → r = r'

/-- A call that destroys the object of a resource, on a device that has not ended. -/
def Calls (p : Pool d.recorded) (r : ResourceId) (event : Event) : Prop :=
  ∃ s x, p.slot? r = some s ∧ s.object = some x ∧ ¬ Ended p.env.driver.trace s.device.id ∧
    event = ⟨.destroy s.device.id x.kind x.id, true⟩

theorem Destroys.trace_append (h : p.Destroys p') :
    ∃ T, p'.env.driver.trace = p.env.driver.trace ++ T := by
  refine h.driver (P := fun s : Recorder d => ∃ T, s.trace = p.env.driver.trace ++ T)
    ⟨[], (List.append_nil _).symm⟩ fun device x e ⟨T, hT⟩ => ?_
  refine ⟨T ++ [⟨.destroy device.id x.kind x.id, true⟩], ?_⟩
  rw [Recorder.unmake_eq, Recorder.trace_note, hT, List.append_assoc]

namespace Accounted

open Recorder

/-- Calls that leave objects alone change nothing in the account. -/
theorem of_spares (h : p.Accounted life) (hs : Recorder.Spares life p.env.driver p'.env.driver)
    (slots : p'.slot? = p.slot?) : p'.Accounted life := by
  obtain ⟨T, hT, bare⟩ := hs.trace
  refine ⟨hs.sane h.sane, ?_, ?_, ?_, ?_, ?_⟩
  · rw [hT]
    exact always_lawful_append h.lawful bare
  · intro r s hr
    exact hs.devices _ (h.devices (slots ▸ hr))
  · intro r s x hr hx
    rw [hT]
    exact (h.made (slots ▸ hr) hx).append T
  · intro r s x hr hx
    rw [hT, destroyed_append_bare bare]
    exact h.present (slots ▸ hr) hx
  · intro r s x r' s' x' hr hx hr' hx'
    exact h.apart (slots ▸ hr) hx (slots ▸ hr') hx'

theorem of_idles (h : p.Accounted life) (hs : p.env.driver.Idles life p'.env.driver)
    (slots : p'.slot? = p.slot?) : p'.Accounted life := h.of_spares hs.spares slots

/-! ### Destroying -/

theorem alive_iff (h : p.Accounted life) {s : Slot d.recorded (Object d.recorded)}
    (hs : p.slot? r = some s) : d.recorded.isAlive s.device p.env.driver = true ↔
      ¬ Ended p.env.driver.trace s.device.id := h.sane.alive _ (h.devices hs)

/-- A slot is emptied and its object is either destroyed or left alone. -/
theorem of_empties (h : p.Accounted life) (he : p.Empties r p') (sane : p'.env.driver.Sane life)
    (devices : p'.env.driver.devices = p.env.driver.devices) {T : Trace}
    (trace : p'.env.driver.trace = p.env.driver.trace ++ T)
    (lawful : Always Lawful p'.env.driver.trace)
    (only : ∀ kind object, Destroyed T kind object →
      ∃ s x, p.slot? r = some s ∧ s.object = some x ∧ x.id = object) : p'.Accounted life := by
  refine ⟨sane, lawful, ?_, ?_, ?_, ?_⟩
  · intro r' s hs
    obtain ⟨s', hs', hdevice, -⟩ := he.slot_before hs
    rw [devices, ← hdevice]
    exact h.devices hs'
  · intro r' s x hs hx
    obtain ⟨s', hs', hdevice, hobject⟩ := he.slot_before hs
    rw [trace, ← hdevice]
    exact (h.made hs' (hobject x hx).2).append T
  · intro r' s x hs hx
    obtain ⟨s', hs', -, hobject⟩ := he.slot_before hs
    rw [trace, destroyed_append_iff]
    rintro (gone | gone)
    · exact h.present hs' (hobject x hx).2 gone
    · obtain ⟨t, y, ht, hy, hid⟩ := only _ _ gone
      exact (hobject x hx).1 (h.apart hs' (hobject x hx).2 ht hy hid.symm)
  · intro r₁ s₁ x₁ r₂ s₂ x₂ hs₁ hx₁ hs₂ hx₂ hid
    obtain ⟨t₁, ht₁, -, hobject₁⟩ := he.slot_before hs₁
    obtain ⟨t₂, ht₂, -, hobject₂⟩ := he.slot_before hs₂
    exact h.apart ht₁ (hobject₁ _ hx₁).2 ht₂ (hobject₂ _ hx₂).2 hid

theorem of_destroy (h : p.Accounted life) (r : ResourceId) : (p.destroy r).Accounted life := by
  have he := empties_destroy r p
  rcases driver_destroy r p with ⟨same, -⟩ | ⟨s, x, hs, hx, alive, hdriver⟩
  · refine h.of_empties he (T := []) (same ▸ h.sane) (by rw [same]) (by rw [same, List.append_nil])
      (same ▸ h.lawful) ?_
    rintro kind object ⟨device, hmem⟩
    cases hmem
  · have trace : (p.destroy r).env.driver.trace =
        p.env.driver.trace ++ [⟨.destroy s.device.id x.kind x.id, true⟩] := by
      rw [hdriver, unmake_eq]
      rfl
    refine h.of_empties he (hdriver ▸ sane_unmake h.sane) (by rw [hdriver, unmake_eq]; rfl) trace ?_ ?_
    · rw [trace, Always.snoc_iff]
      refine ⟨h.lawful, ?_⟩
      rintro device kind object ⟨⟩
      exact ⟨h.made hs hx, h.present hs hx, (h.alive_iff hs).1 alive⟩
    · rintro kind object ⟨device, hmem⟩
      cases List.mem_singleton.1 hmem
      exact ⟨s, x, hs, hx, rfl⟩

theorem of_destroys (h : p.Accounted life) (hp : p.Destroys p') : p'.Accounted life := by
  induction hp with
  | refl => exact h
  | tail _ hstep ih =>
    rcases hstep with ⟨r, rfl⟩ | ⟨record, rfl⟩
    · exact ih.of_destroy r
    · exact ih.of_idles (.refl _) rfl

/-- The calls that are made when a resource is destroyed. -/
theorem trace_destroy (h : p.Accounted life) (r : ResourceId) :
    ∃ T, (p.destroy r).env.driver.trace = p.env.driver.trace ++ T ∧ ∀ event ∈ T, p.Calls r event := by
  rcases driver_destroy r p with ⟨same, -⟩ | ⟨s, x, hs, hx, alive, hdriver⟩
  · exact ⟨[], by rw [same, List.append_nil], fun _ hmem => by cases hmem⟩
  · refine ⟨[⟨.destroy s.device.id x.kind x.id, true⟩], by rw [hdriver, unmake_eq]; rfl, ?_⟩
    intro event hmem
    exact ⟨s, x, hs, hx, (h.alive_iff hs).1 alive, List.mem_singleton.1 hmem⟩

/-- No call is made on a device that has ended. -/
theorem driver_destroy_of_ended (h : p.Accounted life) {s : Slot d.recorded (Object d.recorded)}
    (hs : p.slot? r = some s) (ended : Ended p.env.driver.trace s.device.id) :
    (p.destroy r).env.driver = p.env.driver := by
  rcases driver_destroy r p with ⟨same, -⟩ | ⟨s', x, hs', -, alive, -⟩
  · exact same
  · cases hs.symm.trans hs'
    exact absurd ended ((h.alive_iff hs).1 alive)

/-- What would be called after another resource is destroyed would be called before. -/
theorem calls_destroy (h : p.Accounted life) {r' : ResourceId} {event : Event}
    (hcalls : (p.destroy r').Calls r event) : p.Calls r event := by
  obtain ⟨s, x, hs, hx, lasting, rfl⟩ := hcalls
  obtain ⟨s', hs', hdevice, hobject⟩ := (empties_destroy r' p).slot_before hs
  obtain ⟨T, hT, -⟩ := h.trace_destroy r'
  refine ⟨s', x, hs', (hobject x hx).2, fun ended => lasting ?_, by rw [hdevice]⟩
  rw [hT, ended_append_iff, ← hdevice]
  exact .inl ended

/-- The calls that are made when tensors are let go of. -/
theorem trace_reapTensors (h : p.Accounted life) (tensors : List Nat) :
    ∃ T, (tensors.foldl reapTensor p).env.driver.trace = p.env.driver.trace ++ T ∧
      ∀ event ∈ T, ∃ t ∈ tensors, p.Calls (.tensor t) event := by
  induction tensors generalizing p with
  | nil => exact ⟨[], (List.append_nil _).symm, fun _ hmem => by cases hmem⟩
  | cons t tensors ih =>
    rw [List.foldl_cons]
    by_cases held : p.isHeld (.tensor t)
    · obtain ⟨T, hT, hcalls⟩ := ih h
      refine ⟨T, by rw [reapTensor, if_pos held, hT], fun event hmem => ?_⟩
      obtain ⟨t', ht', hcall⟩ := hcalls event hmem
      exact ⟨t', List.mem_cons_of_mem _ ht', hcall⟩
    · have hreap : reapTensor p t = p.destroy (.tensor t) := by rw [reapTensor, if_neg held]; rfl
      obtain ⟨T₁, hT₁, hfirst⟩ := h.trace_destroy (.tensor t)
      obtain ⟨T₂, hT₂, hrest⟩ := ih (h.of_destroy (.tensor t))
      refine ⟨T₁ ++ T₂, by rw [hreap, hT₂, hT₁, List.append_assoc], fun event hmem => ?_⟩
      rcases List.mem_append.1 hmem with hmem | hmem
      · exact ⟨t, List.mem_cons_self, hfirst event hmem⟩
      · obtain ⟨t', ht', hcall⟩ := hrest event hmem
        exact ⟨t', List.mem_cons_of_mem _ ht', h.calls_destroy hcall⟩

/-- When a resource whose device has ended is let go of, calls are made only for the tensors that it
binds. -/
theorem trace_reap_of_ended (h : p.Accounted life) {s : Slot d.recorded (Object d.recorded)}
    (hs : p.slot? r = some s) (ended : Ended p.env.driver.trace s.device.id) :
    ∃ T, (p.reap r).env.driver.trace = p.env.driver.trace ++ T ∧
      ∀ event ∈ T, ∃ t, p.keeps t r ∧ p.Calls (.tensor t) event := by
  have same := h.driver_destroy_of_ended hs ended
  have none (p' : Pool d.recorded) (hp : p'.env.driver = p.env.driver) :
      ∃ T, p'.env.driver.trace = p.env.driver.trace ++ T ∧
        ∀ event ∈ T, ∃ t, p.keeps t r ∧ p.Calls (.tensor t) event :=
    ⟨[], by rw [hp, List.append_nil], fun _ hmem => by cases hmem⟩
  unfold reap
  split
  · exact none p rfl
  · cases r with
    | tensor i | sequence i => exact none _ same
    | algorithm i =>
      obtain ⟨T, hT, hcalls⟩ := (h.of_destroy (.algorithm i)).trace_reapTensors
        ((p.algorithms[i]?).elim [] (·.tensors))
      refine ⟨T, by rw [← same]; exact hT, fun event hmem => ?_⟩
      obtain ⟨t, ht, hcall⟩ := hcalls event hmem
      refine ⟨t, ?_, h.calls_destroy hcall⟩
      cases ha : p.algorithms[i]? with
      | none => simp [ha] at ht
      | some a => simpa [keeps, ha] using ht

/-! ### Making -/

theorem of_makes (h : p.Accounted life) {device : d.recorded.Device} {order : Order d.recorded}
    (hdevice : device ∈ p.env.driver.devices) (hp : p.Makes device order r p') :
    p'.Accounted life := by
  obtain ⟨e₁, x, e₂, asked, made, again, adds⟩ := hp
  have first : p.env.driver.Idles life e₁.driver := idles_asked asked
  have before : (p.withEnv e₁).Accounted life := h.of_idles first rfl
  have known : device ∈ e₁.driver.devices := first.devices _ hdevice
  refine of_idles (p := p'.withEnv e₂) ?_ (idles_asked again) rfl
  have sane := sane_make before.sane made
  obtain ⟨hid, hkind, inner, -, rfl⟩ := make_ok made
  have slots {r' s} (hs : p'.slot? r' = some s) :
      (r' = r ∧ s = ⟨device, some x⟩) ∨ (r' ≠ r ∧ p.slot? r' = some s) := by
    by_cases heq : r' = r
    · subst heq
      rw [adds.slot, Option.some.injEq] at hs
      exact .inl ⟨rfl, hs.symm⟩
    · exact .inr ⟨heq, adds.others r' heq ▸ hs⟩
  have old {r' s y} (hs : p.slot? r' = some s) (hy : s.object = some y) : y.id ≠ x.id := by
    have := (before.made hs hy).lt_length
    rw [hid]
    exact Nat.ne_of_lt this
  have lawful : Always Lawful
      (e₁.driver.trace ++ [⟨.create device.id order.creation, true⟩]) :=
    Always.snoc_iff.2 ⟨before.lawful, lawful_create _ _ _⟩
  refine ⟨sane, lawful, ?_, ?_, ?_, ?_⟩
  · intro r' s hs
    rcases slots hs with ⟨-, rfl⟩ | ⟨-, hs⟩
    · exact known
    · exact before.devices hs
  · intro r' s y hs hy
    rcases slots hs with ⟨-, rfl⟩ | ⟨-, hs⟩
    · cases hy
      refine made_append_iff.2 (.inr ⟨Nat.le_of_eq hid.symm, ?_⟩)
      exact made_singleton.2 ⟨by rw [hid, Nat.sub_self], _, hkind.symm, rfl⟩
    · exact (before.made hs hy).append _
  · intro r' s y hs hy gone
    rcases destroyed_append_iff.1 gone with gone | ⟨_, hmem⟩
    · rcases slots hs with ⟨-, rfl⟩ | ⟨-, hs⟩
      · cases hy
        have lt := gone.lt before.lawful
        rw [hid] at lt
        simp at lt
      · exact before.present hs hy gone
    · cases List.mem_singleton.1 hmem
  · intro r₁ s₁ x₁ r₂ s₂ x₂ hs₁ hx₁ hs₂ hx₂ heq
    obtain ⟨rfl, rfl⟩ | ⟨-, hs₁⟩ := slots hs₁ <;> obtain ⟨rfl, rfl⟩ | ⟨-, hs₂⟩ := slots hs₂
    · rfl
    · cases hx₁
      exact absurd heq.symm (old hs₂ hx₂)
    · cases hx₂
      exact absurd heq (old hs₁ hx₁)
    · exact before.apart hs₁ hx₁ hs₂ hx₂ heq

end Accounted

end Pool

end GpuCompute
