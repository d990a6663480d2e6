import GpuCompute.Proofs.Events
import GpuCompute.Proofs.Lifetimes
import GpuCompute.Proofs.Recording

/-!
# What a trace says

From the trace of a recorded driver it can be read which objects were made and on which devices, which
were destroyed, and which devices have ended, that is, were released or destroyed. If the driver knows
which devices are alive, then these are the ones that have not ended (`Recorder.Sane`), and this is
kept by all calls.
-/

namespace GpuCompute

namespace Trace

variable {tr T : Trace} {event : Event} {kind : Kind} {device object : Nat}

/-! ## Reading a trace -/

/-- An object was made on a device. -/
def Made (tr : Trace) (kind : Kind) (device object : Nat) : Prop :=
  ∃ what : Creation, what.kind = kind ∧ tr[object]? = some ⟨.create device what, true⟩

/-- An object was passed to a call that destroys it. -/
def Destroyed (tr : Trace) (kind : Kind) (object : Nat) : Prop :=
  ∃ device, (⟨.destroy device kind object, true⟩ : Event) ∈ tr

/-- A device was released or destroyed. -/
def Ended (tr : Trace) (device : Nat) : Prop :=
  (⟨.releaseDevice device, true⟩ : Event) ∈ tr ∨ (⟨.destroyDevice device, true⟩ : Event) ∈ tr

/-- Whether an event has nothing to do with objects. -/
def Event.isBare (e : Event) : Bool :=
  match e.request with
  | .create .. => !e.succeeded
  | .destroy .. => false
  | _ => true

/-- Whether an event has nothing to do with objects, nor with the end of devices. -/
def Event.isIdle (e : Event) : Bool :=
  match e.request with
  | .releaseDevice _ | .destroyDevice _ => false
  | _ => e.isBare

/-- Only events that have nothing to do with objects. -/
def Bare (T : Trace) : Prop := ∀ event ∈ T, event.isBare

/-- Only events that have nothing to do with objects, nor with the end of devices. -/
def Idle (T : Trace) : Prop := ∀ event ∈ T, event.isIdle

theorem Bare.append {T' : Trace} (h : Bare T) (h' : Bare T') : Bare (T ++ T') := by
  intro event hmem
  exact (List.mem_append.1 hmem).elim (h event) (h' event)

theorem Idle.append {T' : Trace} (h : Idle T) (h' : Idle T') : Idle (T ++ T') := by
  intro event hmem
  exact (List.mem_append.1 hmem).elim (h event) (h' event)

theorem Idle.bare (h : Idle T) : Bare T := by
  intro event hmem
  have hidle := h event hmem
  unfold Event.isIdle at hidle
  split at hidle
  · cases hidle
  · cases hidle
  · exact hidle

theorem Made.lt_length (h : Made tr kind device object) : object < tr.length := by
  obtain ⟨what, -, h⟩ := h
  exact (List.getElem?_eq_some_iff.1 h).1

theorem Made.append (h : Made tr kind device object) (T : Trace) :
    Made (tr ++ T) kind device object := by
  obtain ⟨what, hkind, h'⟩ := h
  exact ⟨what, hkind, by rw [List.getElem?_append_left (List.getElem?_eq_some_iff.1 h').1, h']⟩

/-- An object is made only once, and on one device. -/
theorem Made.unique {kind' : Kind} {device' : Nat} (h : Made tr kind device object)
    (h' : Made tr kind' device' object) : kind' = kind ∧ device' = device := by
  obtain ⟨what, rfl, h⟩ := h
  obtain ⟨what', rfl, h'⟩ := h'
  rw [h] at h'
  cases h'
  exact ⟨rfl, rfl⟩

theorem made_append_iff :
    Made (tr ++ T) kind device object ↔ Made tr kind device object ∨
      tr.length ≤ object ∧ Made T kind device (object - tr.length) := by
  constructor
  · rintro ⟨what, hkind, h⟩
    by_cases hlt : object < tr.length
    · rw [List.getElem?_append_left hlt] at h
      exact .inl ⟨what, hkind, h⟩
    · rw [List.getElem?_append_right (Nat.not_lt.1 hlt)] at h
      exact .inr ⟨Nat.not_lt.1 hlt, what, hkind, h⟩
  · rintro (h | ⟨hle, what, hkind, h⟩)
    · exact h.append T
    · exact ⟨what, hkind, by rw [List.getElem?_append_right hle, h]⟩

theorem not_made_of_bare (h : Bare T) : ¬ Made T kind device object := by
  rintro ⟨what, -, hmade⟩
  have := h _ (List.mem_of_getElem? hmade)
  cases this

theorem made_append_bare (h : Bare T) :
    Made (tr ++ T) kind device object ↔ Made tr kind device object := by
  rw [made_append_iff]
  exact or_iff_left fun h' => not_made_of_bare h h'.2

theorem made_singleton :
    Made [event] kind device object ↔
      object = 0 ∧ ∃ what : Creation, what.kind = kind ∧ event = ⟨.create device what, true⟩ := by
  constructor
  · rintro ⟨what, hkind, h⟩
    obtain ⟨hlt, h⟩ := List.getElem?_eq_some_iff.1 h
    obtain rfl : object = 0 := by simpa using hlt
    exact ⟨rfl, what, hkind, h⟩
  · rintro ⟨rfl, what, hkind, rfl⟩
    exact ⟨what, hkind, rfl⟩

theorem destroyed_append_iff :
    Destroyed (tr ++ T) kind object ↔ Destroyed tr kind object ∨ Destroyed T kind object := by
  unfold Destroyed
  simp only [List.mem_append, exists_or]

theorem not_destroyed_of_bare (h : Bare T) : ¬ Destroyed T kind object := by
  rintro ⟨device, hmem⟩
  have := h _ hmem
  cases this

theorem destroyed_append_bare (h : Bare T) :
    Destroyed (tr ++ T) kind object ↔ Destroyed tr kind object := by
  rw [destroyed_append_iff]
  exact or_iff_left (not_destroyed_of_bare h)

theorem ended_append_iff : Ended (tr ++ T) device ↔ Ended tr device ∨ Ended T device := by
  unfold Ended
  rw [List.mem_append, List.mem_append]
  exact or_or_or_comm

theorem not_ended_of_idle (h : Idle T) : ¬ Ended T device := by
  rintro (hmem | hmem) <;> have := h _ hmem <;> cases this

theorem ended_append_idle (h : Idle T) : Ended (tr ++ T) device ↔ Ended tr device := by
  rw [ended_append_iff]
  exact or_iff_left (not_ended_of_idle h)

end Trace

/-! ## Objects of recorded drivers -/

namespace Object

variable {d : Driver}

/-- The kind of an object. -/
def kind : Object d → Trace.Kind
  | .buffer _ => .buffer
  | .pipeline _ => .pipeline
  | .batch _ => .batch

/-- The number of an object. -/
def id : Object d.recorded → Nat
  | .buffer b => b.id
  | .pipeline p => p.id
  | .batch b => b.id

/-- The object of the driver itself. -/
def under : Object d.recorded → Object d
  | .buffer b => .buffer b.handle
  | .pipeline p => .pipeline p.handle
  | .batch b => .batch b.handle

end Object

namespace Order

variable {d : Driver}

/-- What an order writes into the trace. -/
def creation : Order d.recorded → Trace.Creation
  | .buffer size usage => .buffer size usage
  | .pipeline what => .pipeline (Recorder.numbers what)
  | .batch family timestamps => .batch family timestamps

/-- The order that is passed to the driver itself. -/
def under : Order d.recorded → Order d
  | .buffer size usage => .buffer size usage
  | .pipeline what => .pipeline (Recorder.handles what)
  | .batch family timestamps => .batch family timestamps

end Order

namespace Recorder

open Trace

variable {d : Driver} {e e' : Env d.recorded.State} {error : Error}

theorem make_ok {device : d.recorded.Device} {order : Order d.recorded} {x : Object d.recorded}
    (h : d.recorded.make device order e = .ok x e') :
    x.id = e.driver.trace.length ∧ x.kind = order.creation.kind ∧
      ∃ inner, d.make device.handle order.under (under e) = .ok x.under inner ∧
        e' = note (.create device.id order.creation) true inner e := by
  cases order with
  | buffer size usage =>
    obtain ⟨b, hb, rfl⟩ := Attempt.map_eq_ok.1 h
    obtain ⟨hid, inner, hcall, rfl⟩ := make_eq_ok.1 hb
    exact ⟨hid, rfl, inner, Attempt.map_eq_ok.2 ⟨_, hcall, rfl⟩, rfl⟩
  | pipeline what =>
    obtain ⟨b, hb, rfl⟩ := Attempt.map_eq_ok.1 h
    obtain ⟨hid, inner, hcall, rfl⟩ := make_eq_ok.1 hb
    exact ⟨hid, rfl, inner, Attempt.map_eq_ok.2 ⟨_, hcall, rfl⟩, rfl⟩
  | batch family timestamps =>
    obtain ⟨b, hb, rfl⟩ := Attempt.map_eq_ok.1 h
    obtain ⟨hid, inner, hcall, rfl⟩ := make_eq_ok.1 hb
    exact ⟨hid, rfl, inner, Attempt.map_eq_ok.2 ⟨_, hcall, rfl⟩, rfl⟩

theorem make_error {device : d.recorded.Device} {order : Order d.recorded}
    (h : d.recorded.make device order e = .error error e') :
    ∃ inner, d.make device.handle order.under (under e) = .error error inner ∧
      e' = note (.create device.id order.creation) false inner e := by
  cases order with
  | buffer size usage | pipeline what | batch family timestamps =>
    obtain ⟨inner, hcall, rfl⟩ := make_eq_error.1 (Attempt.map_eq_error.1 h)
    exact ⟨inner, Attempt.map_eq_error.2 hcall, rfl⟩

theorem unmake_eq (device : d.recorded.Device) (x : Object d.recorded) (e : Env d.recorded.State) :
    d.recorded.unmake device x e =
      note (.destroy device.id x.kind x.id) true (d.unmake device.handle x.under (under e)) e := by
  cases x <;> rfl

/-! ## Sane recorders -/

/-- The driver is sound, and it takes those of the devices that were handed out for alive that have
not ended. -/
structure Sane (life : d.Lifetimes) (r : Recorder d) : Prop where
  sound : life.Sound r.inner
  known : ∀ x ∈ r.devices, life.Known x.handle r.inner
  alive : ∀ x ∈ r.devices, d.isAlive x.handle r.inner = true ↔ ¬ Ended r.trace x.id
  handles : ∀ x ∈ r.devices, ∀ y ∈ r.devices, x.handle = y.handle → x = y
  ids : ∀ x ∈ r.devices, ∀ y ∈ r.devices, x.id = y.id → x = y
  old : ∀ x ∈ r.devices, x.id < r.trace.length
  listed : ∀ id, Ended r.trace id → ∃ x ∈ r.devices, x.id = id

variable {life : d.Lifetimes}

/-- A driver from which nothing has been asked for yet. -/
theorem sane_start {inner : d.State} (sound : life.Sound inner) :
    ({ inner } : Recorder d).Sane life := by
  refine ⟨sound, nofun, nofun, nofun, nofun, nofun, fun id ended => ?_⟩
  obtain hmem | hmem := ended <;> cases hmem

/-- Only idle events were added, no device is forgotten, and the recorder stays sane. -/
structure Idles (life : d.Lifetimes) (r r' : Recorder d) : Prop where
  trace : ∃ T, r'.trace = r.trace ++ T ∧ Idle T
  devices : ∀ x ∈ r.devices, x ∈ r'.devices
  sane : r.Sane life → r'.Sane life

theorem Idles.refl (r : Recorder d) : r.Idles life r :=
  ⟨⟨[], by simp, by simp [Idle]⟩, fun _ h => h, fun h => h⟩

theorem Idles.trans {r r' r'' : Recorder d} (h : r.Idles life r') (h' : r'.Idles life r'') :
    r.Idles life r'' := by
  obtain ⟨T, hT, idle⟩ := h.trace
  obtain ⟨T', hT', idle'⟩ := h'.trace
  exact ⟨⟨T ++ T', by rw [hT', hT, List.append_assoc], idle.append idle'⟩,
    fun x hx => h'.devices x (h.devices x hx), fun hs => h'.sane (h.sane hs)⟩

/-- What is written down of a call that passes keeps a recorder sane, if it does not end a device. -/
theorem Sane.of_note {request : Request} {succeeded : Bool} {inner : Env d.State}
    (hs : e.driver.Sane life) (h : d.Passes (under e) inner)
    (hended : ∀ id, ¬ Ended [⟨request, succeeded⟩] id) :
    (note request succeeded inner e).driver.Sane life := by
  obtain ⟨sound, passes⟩ := life.passes h hs.sound
  have ended (id : Nat) : Ended (e.driver.trace ++ [⟨request, succeeded⟩]) id ↔
      Ended e.driver.trace id := by
    rw [ended_append_iff]
    exact or_iff_left (hended id)
  refine ⟨sound, fun x hx => (passes _ (hs.known x hx)).1, fun x hx => ?_, hs.handles, hs.ids,
    fun x hx => ?_, fun id hid => hs.listed id ((ended id).1 hid)⟩
  · rw [trace_note, ended, ← hs.alive x hx, inner_note, (passes _ (hs.known x hx)).2]
    rfl
  · rw [trace_note, List.length_append]
    exact Nat.lt_add_right _ (hs.old x hx)

theorem idles_note {request : Request} {succeeded : Bool} {inner : Env d.State}
    (h : d.Passes (under e) inner) (idle : (⟨request, succeeded⟩ : Event).isIdle) :
    e.driver.Idles life (note request succeeded inner e).driver := by
  have idle' : Idle [⟨request, succeeded⟩] := by
    intro event hevent
    rwa [List.mem_singleton.1 hevent]
  exact ⟨⟨_, rfl, idle'⟩, fun _ hx => hx, fun hs => hs.of_note h fun _ => not_ended_of_idle idle'⟩

end Recorder

end GpuCompute
