import GpuCompute.Proofs.Idling
import GpuCompute.Proofs.Traces

/-!
# Recorders stay sane

Idle calls only add idle events to a trace and keep the recorder sane. So does a new device, which is
put on the list of devices. Objects that are made or destroyed and devices that end keep the recorder
sane as well.
-/

namespace GpuCompute.Recorder

open Trace

variable {d : Driver} {life : d.Lifetimes} {e e' : Env d.recorded.State} {error : Error}

/-! ## Idle calls -/

theorem after_make {α : Type} (request : Request) (call : Act d.State α) (e : Env (Recorder d)) :
    ∃ succeeded, (make request call).after e = note request succeeded (call.after (under e)) e := by
  unfold Attempt.after Attempt.outcome make
  cases h : call (under e) <;> exact ⟨_, rfl⟩

theorem idles_ask {α : Type} {request : Request} {call : Act d.State α}
    (h : d.Passes (under e) (call.after (under e)))
    (idle : ∀ succeeded, (⟨request, succeeded⟩ : Event).isIdle) :
    e.driver.Idles life ((ask request call).after e).driver := by
  obtain ⟨succeeded, heq⟩ := after_ask request call e
  rw [heq]
  exact idles_note h (idle succeeded)

theorem idles_make {α : Type} {request : Request} {call : Act d.State α}
    (h : d.Passes (under e) (call.after (under e)))
    (idle : ∀ succeeded, (⟨request, succeeded⟩ : Event).isIdle) :
    e.driver.Idles life ((make request call).after e).driver := by
  obtain ⟨succeeded, heq⟩ := after_make request call e
  rw [heq]
  exact idles_note h (idle succeeded)

theorem idles_asks {I : d.recorded.Instance → Prop} {D : d.recorded.Device → Prop}
    (h : d.recorded.Asks I D e e') : e.driver.Idles life e'.driver := by
  have passes {e e' : Env d.State} (h : d.Asks (fun _ => True) (fun _ => True) e e') :
      d.Passes e e' := .asks h
  cases h with
  | log => exact .refl _
  | instanceExtensions => exact idles_ask (passes (.instanceExtensions _)) fun _ => rfl
  | instanceLayers => exact idles_ask (passes (.instanceLayers _)) fun _ => rfl
  | adapters => exact idles_ask (passes (.adapters _ trivial)) fun _ => rfl
  | deviceExtensions => exact idles_ask (passes (.deviceExtensions _ trivial _)) fun _ => rfl
  | properties => exact idles_note (passes (.properties _ trivial _)) rfl
  | queueFamilies => exact idles_note (passes (.queueFamilies _ trivial _)) rfl
  | queue => exact idles_note (passes (.queue _ trivial _ _)) rfl

theorem idles_refusesDevice {i : d.recorded.Instance} {a : AdapterHandle} {what : DeviceDescriptor}
    (h : d.recorded.createDevice i a what e = .error error e') : e.driver.Idles life e'.driver := by
  rcases Attempt.bind_eq_error.1 h with h | ⟨x, e₁, -, h⟩
  · obtain ⟨inner, hcall, rfl⟩ := make_eq_error.1 h
    exact idles_note (.refusesDevice hcall) rfl
  · cases h

theorem idles_refuses {x : d.recorded.Device} {order : Order d.recorded}
    (h : d.recorded.make x order e = .error error e') : e.driver.Idles life e'.driver := by
  obtain ⟨inner, hcall, rfl⟩ := make_error h
  have passes : d.Passes (under e) inner := Attempt.after_of_error hcall ▸ .make _ _ _
  exact idles_note passes rfl

theorem idles_idled (h : d.recorded.Idled e e') : e.driver.Idles life e'.driver := by
  refine h.induct (P := fun e' => e.driver.Idles life e'.driver) (fun e₁ e₂ h ih => ih.trans ?_)
    (.refl _)
  cases h with
  | asks h => exact idles_asks h
  | createInstance what => exact idles_make (.createInstance what _) fun _ => rfl
  | registerCallbacks i => exact idles_make (.registerCallbacks i.handle _) fun _ => rfl
  | unregisterCallbacks i c => exact idles_note (.unregisterCallbacks i.handle c.handle _) rfl
  | destroyInstance i => exact idles_note (.destroyInstance i.handle _) rfl
  | refusesDevice h => exact idles_refusesDevice h
  | refuses h => exact idles_refuses h

theorem idles_asked {I : d.recorded.Instance → Prop} {D : d.recorded.Device → Prop}
    (h : d.recorded.Asked I D e e') : e.driver.Idles life e'.driver := idles_idled (.of_asked h)

/-- A new device is alive, and is none of those that were there. -/
theorem idles_createDevice {i : d.recorded.Instance} {a : AdapterHandle} {what : DeviceDescriptor}
    {x : d.recorded.Device} (h : d.recorded.createDevice i a what e = .ok x e') :
    e.driver.Idles life e'.driver ∧ x ∈ e'.driver.devices := by
  obtain ⟨x, e₁, h₁, h⟩ := Attempt.bind_eq_ok.1 h
  cases h
  obtain ⟨hid, inner, hcall, rfl⟩ := make_eq_ok.1 h₁
  have idle : Idle [⟨.createDevice i.id a what, true⟩] := by
    intro event hevent
    rw [List.mem_singleton.1 hevent]
    rfl
  refine ⟨⟨⟨_, rfl, idle⟩, fun y hy => List.mem_cons_of_mem _ hy, fun hs => ?_⟩, List.mem_cons_self⟩
  obtain ⟨sound, unknown, known, alive, others⟩ := life.created hcall hs.sound
  have hne (y) (hy : y ∈ e.driver.devices) : y.handle ≠ x.handle := by
    intro heq
    exact unknown (heq ▸ hs.known y hy)
  have hlt (y) (hy : y ∈ e.driver.devices) : y.id ≠ x.id := by
    intro heq
    have := hs.old y hy
    omega
  have ended (id : Nat) : Ended (e.driver.trace ++ [⟨.createDevice i.id a what, true⟩]) id ↔
      Ended e.driver.trace id := ended_append_idle idle
  refine ⟨sound, ?_, ?_, ?_, ?_, ?_, ?_⟩
  · intro y hy
    rcases List.mem_cons.1 hy with rfl | hy
    · exact known
    · exact (others _ (hs.known y hy)).1
  · intro y hy
    change d.isAlive y.handle inner.driver = true ↔ ¬ Ended (e.driver.trace ++ _) y.id
    rw [ended]
    rcases List.mem_cons.1 hy with rfl | hy
    · refine iff_of_true alive fun hended => ?_
      obtain ⟨y, hy, heq⟩ := hs.listed _ hended
      exact hlt y hy heq
    · rw [(others _ (hs.known y hy)).2]
      exact hs.alive y hy
  · intro y hy z hz heq
    obtain rfl | hy' := List.mem_cons.1 hy <;> obtain rfl | hz' := List.mem_cons.1 hz
    · rfl
    · exact absurd heq.symm (hne z hz')
    · exact absurd heq (hne y hy')
    · exact hs.handles y hy' z hz' heq
  · intro y hy z hz heq
    obtain rfl | hy' := List.mem_cons.1 hy <;> obtain rfl | hz' := List.mem_cons.1 hz
    · rfl
    · exact absurd heq.symm (hlt z hz')
    · exact absurd heq (hlt y hy')
    · exact hs.ids y hy' z hz' heq
  · intro y hy
    change y.id < (e.driver.trace ++ _).length
    rw [List.length_append, List.length_singleton]
    rcases List.mem_cons.1 hy with rfl | hy
    · omega
    · exact Nat.lt_add_right _ (hs.old y hy)
  · intro id hid
    obtain ⟨y, hy, heq⟩ := hs.listed id ((ended id).1 hid)
    exact ⟨y, List.mem_cons_of_mem _ hy, heq⟩

/-- What is made for a manager is made by idle calls, and its device is on the list then. -/
theorem idles_creates {config : Config} {m : Manager d.recorded} (h : m.Creates config e e') :
    e.driver.Idles life e'.driver ∧
      ∃ x, m.device = some (.owned x) ∧ x ∈ e'.driver.devices := by
  obtain ⟨i, a, what, x, e₁, e₂, first, created, rest, device⟩ := Manager.idled_creates h
  have made : e₁.driver.Idles life e₂.driver ∧ x ∈ e₂.driver.devices := idles_createDevice created
  have rest : e₂.driver.Idles life e'.driver := idles_idled rest
  exact ⟨((idles_idled first).trans made.1).trans rest, x, device, rest.devices _ made.2⟩

/-! ## Objects and ends -/

theorem sane_make {device : d.recorded.Device} {order : Order d.recorded} {x : Object d.recorded}
    (hs : e.driver.Sane life) (h : d.recorded.make device order e = .ok x e') :
    e'.driver.Sane life := by
  obtain ⟨-, -, inner, hcall, rfl⟩ := make_ok h
  have passes : d.Passes (under e) inner := Attempt.after_of_ok hcall ▸ Driver.Passes.make _ _ _
  exact hs.of_note passes fun id h => by simp [Ended] at h

theorem sane_unmake {device : d.recorded.Device} {x : Object d.recorded} (hs : e.driver.Sane life) :
    (d.recorded.unmake device x e).driver.Sane life := by
  rw [unmake_eq]
  exact hs.of_note (.unmake _ _ _) fun id h => by simp [Ended] at h

/-- When a device ends, this is written down, and the others are as alive as before. -/
theorem sane_ends {x : d.recorded.Device} {inner : Env d.State} {request : Request}
    (hs : e.driver.Sane life) (hx : x ∈ e.driver.devices) (h : d.Ends x.handle (under e) inner)
    (hended : ∀ id, Ended [⟨request, true⟩] id ↔ id = x.id) :
    (note request true inner e).driver.Sane life := by
  obtain ⟨sound, gone, others⟩ := life.ended h hs.sound (hs.known x hx)
  have ended (id : Nat) : Ended (e.driver.trace ++ [⟨request, true⟩]) id ↔
      Ended e.driver.trace id ∨ id = x.id := by rw [ended_append_iff, hended]
  refine ⟨sound, fun y hy => (others _ (hs.known y hy)).1, fun y hy => ?_, hs.handles, hs.ids,
    fun y hy => ?_, fun id hid => ?_⟩
  · rw [trace_note, ended]
    by_cases hxy : y = x
    · subst hxy
      rw [inner_note, gone]
      simp
    · have hne : y.id ≠ x.id := fun heq => hxy (hs.ids y hy x hx heq)
      have hne' : y.handle ≠ x.handle := fun heq => hxy (hs.handles y hy x hx heq)
      rw [inner_note, (others _ (hs.known y hy)).2 hne', or_iff_left hne]
      exact hs.alive y hy
  · rw [trace_note, List.length_append]
    exact Nat.lt_add_right _ (hs.old y hy)
  · rcases (ended id).1 hid with h | h
    · exact hs.listed id h
    · exact ⟨x, hx, h.symm⟩

theorem sane_releaseDevice {x : d.recorded.Device} (hs : e.driver.Sane life)
    (hx : x ∈ e.driver.devices) : (d.recorded.releaseDevice x e).driver.Sane life :=
  sane_ends hs hx (.release _) fun id => by simp [Ended]

theorem sane_destroyDevice {x : d.recorded.Device} (hs : e.driver.Sane life)
    (hx : x ∈ e.driver.devices) : (d.recorded.destroyDevice x e).driver.Sane life :=
  sane_ends hs hx (.destroy _) fun id => by simp [Ended]

end GpuCompute.Recorder
