import GpuCompute.InMemory.Driver
import GpuCompute.Proofs.Lifetimes

/-!
# Lifetimes of devices in memory

The driver in memory takes all its handles from one counter, and no call but the release or the
destruction of a device touches the list of devices that have ended. So it knows which devices are
alive (`InMemory.lifetimes`), as long as no device has ended that is still to be handed out.
-/

namespace GpuCompute.InMemory

variable {α : Type} {e e' : Env State}

/-- The same devices have ended, and no handle becomes free again. -/
structure Steady (e e' : Env State) : Prop where
  next : e.driver.next ≤ e'.driver.next
  ended : e'.driver.ended = e.driver.ended

theorem Steady.refl (e : Env State) : Steady e e := ⟨Nat.le_refl _, rfl⟩

theorem Steady.trans (e e' e'' : Env State) (h : Steady e e') (h' : Steady e' e'') :
    Steady e e'' := ⟨Nat.le_trans h.next h'.next, h'.ended.trans h.ended⟩

theorem steady_note (event : Event) (e : Env State) : Steady e (note event e) := ⟨Nat.le_refl _, rfl⟩

theorem steady_consult (call : Fallible) : Attempt.Leaves Steady (consult call) := by
  intro e
  unfold Attempt.after Attempt.outcome consult
  cases h : (e.driver.script.ask call).1 <;> simp only [h] <;> exact ⟨Nat.le_refl _, rfl⟩

theorem steady_query (call : Fallible) (event : Event) (answer : Offer → α) :
    Attempt.Leaves Steady (query call event answer) :=
  .bind Steady.trans (.change (steady_note event)) fun _ =>
    .bind Steady.trans (steady_consult call) fun _ => fun e => .refl e

theorem steady_make (call : Fallible) (event : Nat → Event) :
    Attempt.Leaves Steady (make call event) :=
  .bind Steady.trans (steady_consult call) fun _ => fun _ => ⟨Nat.le_succ _, rfl⟩

/-- What is handed out is the next handle. -/
theorem make_ok {call : Fallible} {event : Nat → Event} {id : Nat}
    (h : make call event e = .ok id e') :
    id = e.driver.next ∧ e'.driver.next = id + 1 ∧ e'.driver.ended = e.driver.ended := by
  obtain ⟨_, e₁, hc, h⟩ := Attempt.bind_eq_ok.1 h
  have next : e₁.driver.next = e.driver.next ∧ e₁.driver.ended = e.driver.ended := by
    unfold consult at hc
    cases hask : (e.driver.script.ask call).1 with
    | none =>
      simp only [hask] at hc
      cases hc
      exact ⟨rfl, rfl⟩
    | some failure => simp [hask] at hc
  cases h
  exact ⟨next.1, rfl, next.2⟩

theorem steady_registerCallbacks (i : Nat) : Attempt.Leaves Steady (driver.registerCallbacks i) :=
  .bind Steady.trans (steady_consult .registerCallbacks) fun _ =>
    .bind Steady.trans (.change (steady_note (.registerCallbacks i))) fun _ => fun e => .refl e

/-- All calls but those that make or end a device. -/
theorem steady_passes {e e' : Env driver.State} (h : driver.Passes e e') : Steady e e' := by
  cases h with
  | asks h =>
    cases h with
    | log => exact ⟨Nat.le_refl _, rfl⟩
    | properties | queueFamilies => exact .refl e
    | instanceExtensions =>
      exact steady_query .instanceExtensions .instanceExtensions (·.instanceExtensions) e
    | instanceLayers => exact steady_query .instanceLayers .instanceLayers (·.instanceLayers) e
    | @adapters i =>
      exact steady_query .enumerateAdapters (.enumerateAdapters i) (fun o =>
        (List.range o.adapters.length).map fun i => UInt64.ofNat (i + 1)) e
    | @deviceExtensions i _ a =>
      exact steady_query .deviceExtensions (.deviceExtensions i a)
        (fun o => (o.adapter a).extensions) e
    | @queue x _ family index => exact steady_note (.getQueue x family index) e
  | createInstance what =>
    exact steady_make .createInstance (fun id => .createInstance id what) e
  | registerCallbacks i => exact steady_registerCallbacks i e
  | unregisterCallbacks i c => exact steady_note (.unregisterCallbacks i c) e
  | destroyInstance i => exact steady_note (.destroyInstance i) e
  | @refusesDevice i a what _ _ _ h =>
    exact (steady_make .createDevice fun id => .createDevice id i a what).of_error h
  | make x order =>
    cases order with
    | buffer size usage =>
      rw [Driver.make, Attempt.after_map]
      exact steady_make .createBuffer (fun id => .createBuffer id x size usage) e
    | pipeline what =>
      rw [Driver.make, Attempt.after_map]
      exact steady_make .createPipeline (fun id => .createPipeline id x what) e
    | batch family timestamps =>
      rw [Driver.make, Attempt.after_map]
      exact steady_make .createBatch (fun id => .createBatch id x family timestamps) e
  | unmake x object =>
    cases object with
    | buffer b => exact steady_note (.destroyBuffer x b) e
    | pipeline p => exact steady_note (.destroyPipeline x p) e
    | batch b => exact steady_note (.destroyBatch x b) e

/-- When a device ends, it is marked, and nothing else changes that matters for lifetimes. -/
theorem ends_ended {x : Nat} {e e' : Env driver.State} (h : driver.Ends x e e') :
    State.ended e'.driver = x :: State.ended e.driver ∧
      State.next e'.driver = State.next e.driver := by
  cases h <;> exact ⟨rfl, rfl⟩

theorem isAlive_iff {x : Nat} {s : State} : s.isAlive x = true ↔ x ∉ s.ended := by
  simp [State.isAlive]

theorem isAlive_congr {x : Nat} {s s' : State} (h : x ∈ s'.ended ↔ x ∈ s.ended) :
    s'.isAlive x = s.isAlive x := by
  rw [Bool.eq_iff_iff, isAlive_iff, isAlive_iff, h]

theorem isAlive_of_ended_cons {x y : Nat} {s s' : State} (h : s'.ended = x :: s.ended)
    (hne : y ≠ x) : s'.isAlive y = s.isAlive y :=
  isAlive_congr (by rw [h, List.mem_cons, or_iff_right hne])

/-- **The driver in memory knows which devices are alive.** -/
def lifetimes : driver.Lifetimes where
  Sound (s : State) := ∀ x ∈ s.ended, x < s.next
  Known (x : Nat) (s : State) := x < s.next
  passes := by
    intro e e' h sound
    obtain ⟨next, ended⟩ := steady_passes h
    refine ⟨fun x hx => Nat.lt_of_lt_of_le (sound x (ended ▸ hx)) next, fun x hx => ⟨?_, ?_⟩⟩
    · exact Nat.lt_of_lt_of_le hx next
    · exact isAlive_congr (by rw [ended])
  created := by
    intro i a what e x e' h sound
    have made : make .createDevice (fun id => .createDevice id i a what) e = .ok x e' := h
    obtain ⟨hx, next, ended⟩ := make_ok made
    have hne (y : Nat) (hy : y ∈ State.ended e'.driver) : y < x := by
      rw [hx]
      exact sound y (ended ▸ hy)
    refine ⟨fun y hy => ?_, ?_, ?_, ?_, fun y hy => ⟨?_, ?_⟩⟩
    · have lt := hne y hy
      omega
    · omega
    · omega
    · exact isAlive_iff.2 fun hmem => Nat.lt_irrefl x (hne x hmem)
    · omega
    · exact isAlive_congr (by rw [ended])
  ended := by
    intro x e e' h sound known
    obtain ⟨ended, next⟩ := ends_ended h
    refine ⟨fun y hy => ?_, ?_, fun y hy => ⟨?_, fun hne => ?_⟩⟩
    · rw [next]
      rw [ended] at hy
      rcases List.mem_cons.1 hy with rfl | hy
      · exact known
      · exact sound y hy
    · refine Bool.eq_false_iff.2 fun alive => isAlive_iff.1 alive ?_
      rw [ended]
      exact List.mem_cons_self
    · rw [next]
      exact hy
    · exact isAlive_of_ended_cons ended hne

end GpuCompute.InMemory
