import GpuCompute.Proofs.Allotments
import GpuCompute.Proofs.Construction
import GpuCompute.Proofs.Vulkan.Lifetimes

/-!
# Queues that the Vulkan driver requests and fetches

A device is made by one call, which requests its queues, and then each queue is fetched by a call of its
own. The queues that are fetched are those that were requested: none beyond them, none left out, and
none twice (`queues_as_requested`).
-/

namespace GpuCompute.Vulkan

open Bootstrap Driver

variable {M : MemoryLibrary} [M.Lawful] {e e' : Env (driverOn M).State} {inst : Nat}
  {config : Config} {selection : Selection}
  {parts : DeviceParts (driverOn M)} {families : List UInt32}

/-- The device, the family and the index that a call for a queue names. -/
def Event.fetched? (event : Event) : Option (Nat × UInt32 × UInt32) :=
  match event.request with
  | .getQueue device family index => some (device, family, index)
  | _ => none

/-- The calls that fetch queues of a device from slots. -/
def fetches (device : Nat) (slots : List (UInt32 × UInt32)) : List Event :=
  slots.map fun slot => ⟨.getQueue device slot.1 slot.2, .done⟩

/-- Calls that make a device and give it an allocator, for which the adapter is asked. -/
def Opens (inst : Nat) (adapter : AdapterHandle) (info : DeviceInfo) (device : Nat)
    (l : List Event) : Prop :=
  ∃ asked, l = ⟨.createDevice inst adapter info, .made device⟩ :: asked ∧
    ∀ event ∈ asked, event.request.OfAdapter inst adapter

/-! ## What is called -/

omit [M.Lawful] in
theorem trace_asked {I : Nat → Prop} {D : Device → Prop} (h : (driverOn M).Asked I D e e') :
    ∃ asked, e'.driver.api.trace = e.driver.api.trace ++ asked ∧ ∀ event ∈ asked,
      event.request.Asks I fun x => ∃ device : Device, D device ∧ device.handle = x := by
  refine h.induct (P := fun e' : Env (driverOn M).State => ∃ asked,
    e'.driver.api.trace = e.driver.api.trace ++ asked ∧ ∀ event ∈ asked,
      event.request.Asks I fun x => ∃ device : Device, D device ∧ device.handle = x)
    (fun e₁ e₂ asks ih => ?_) ⟨[], (List.append_nil _).symm, fun _ h => nomatch h⟩
  obtain ⟨asked, trace, questions⟩ := ih
  obtain same | ⟨request, outcome, question, -, adds, -⟩ := asksApi_of_asks M (wrapDevice M) asks
  · exact ⟨asked, same ▸ trace, questions⟩
  · refine ⟨asked ++ [⟨request, outcome⟩], ?_,
      List.forall_mem_append.2 ⟨questions, List.forall_mem_singleton.2 question⟩⟩
    rw [adds.trace, trace, List.append_assoc]

theorem trace_createDevice {adapter : AdapterHandle} {what : DeviceDescriptor} {x : Device}
    (h : createDevice M inst adapter what e = .ok x e') :
    ∃ opening, e'.driver.api.trace = e.driver.api.trace ++ opening ∧
      Opens inst adapter ⟨queueInfos what.queues, what.extensions, what.layers⟩ x.handle opening := by
  obtain ⟨_, e₁, extensions, h₁⟩ := Attempt.bind_eq_ok.1 h
  obtain ⟨_, e₂, layers, h₂⟩ := Attempt.bind_eq_ok.1 h₁
  obtain ⟨handle, e₃, called, h₃⟩ := Attempt.bind_eq_ok.1 h₂
  obtain ⟨-, rfl⟩ := Attempt.ofExcept_eq_ok.1 extensions
  obtain ⟨-, rfl⟩ := Attempt.ofExcept_eq_ok.1 layers
  obtain ⟨api, made, rfl⟩ := withApi_eq_ok.1 called
  obtain ⟨rfl, m, a, opened, rfl⟩ := wrapDevice_ok (Attempt.undoing_eq_ok.1 h₃)
  obtain ⟨asked, trace, questions⟩ :=
    ((MemoryLibrary.Lawful.calls_newAllocator inst adapter handle).of_ok opened).exists_events
  refine ⟨⟨.createDevice inst adapter _, .made handle⟩ :: asked, trace.trans ?_, asked, rfl, questions⟩
  rw [Env.driver_onDriver, (Api.make_ok made).trace, List.append_assoc]
  rfl

omit [M.Lawful] in
theorem trace_fetchFrom (x : Device) (counters : Queue.Counters) (families : List UInt32)
    (e : Env (driverOn M).State) :
    (fetchFrom (driverOn M) x counters families e).2.driver.api.trace =
      e.driver.api.trace ++ fetches x.handle (Queue.slotsFrom counters families) := by
  induction families generalizing counters e with
  | nil => exact (List.append_nil _).symm
  | cons family rest ih =>
    exact (ih (counters.draw family).2 ((driverOn M).queue x family (counters.draw family).1 e).2).trans
      (List.append_assoc _ [_] _)

/-- First there are questions about the instance, then the device is made with the queues of its
families, and then each of them is fetched. -/
theorem trace_openDevice (h : Bootstrap.createDevice (driverOn M) inst config selection e = .ok parts e') :
    ∃ asked opening info, e'.driver.api.trace = e.driver.api.trace ++ (asked ++
        (opening ++ fetches parts.device.handle (Queue.slots parts.families))) ∧
      (∀ event ∈ asked, event.request.Asks (only inst) nothing) ∧
      Opens inst parts.adapter info parts.device.handle opening ∧
      info.queues = queueInfos (Queue.requests parts.families) := by
  obtain ⟨plan, e₁, described, h⟩ := Attempt.bind_eq_ok.1 h
  obtain ⟨x, e₂, made, h⟩ := Attempt.bind_eq_ok.1 h
  cases h
  obtain ⟨asked, trace, questions⟩ :=
    trace_asked ((onlyAsks_describeDevice inst config selection).of_ok described)
  obtain ⟨opening, traceOpened, opens⟩ := trace_createDevice made
  refine ⟨asked, opening, ⟨queueInfos plan.descriptor.queues, plan.descriptor.extensions,
    plan.descriptor.layers⟩, ?_, fun event hevent => ?_, opens, ?_⟩
  · refine (trace_fetchFrom x _ _ _).trans ?_
    change e₂.driver.api.trace ++ _ = _
    rw [traceOpened, trace, List.append_assoc, List.append_assoc]
    rfl
  · have question := questions event hevent
    generalize event.request = request at question
    cases request <;> first | exact question | exact question.choose_spec.1
  · rw [queues_describeDevice described]

/-! ## What is fetched -/

theorem fetched?_of_asks {event : Event} {I : Nat → Prop} (h : event.request.Asks I nothing) :
    event.fetched? = none := by
  unfold Event.fetched?
  split
  next heq => rw [heq] at h; exact h.elim
  · rfl

theorem fetched?_of_opens {adapter : AdapterHandle} {info : DeviceInfo} {device : Nat}
    {opening : List Event} (h : Opens inst adapter info device opening) :
    opening.filterMap Event.fetched? = [] := by
  obtain ⟨asked, rfl, questions⟩ := h
  refine List.filterMap_eq_nil_iff.2 (List.forall_mem_cons.2 ⟨rfl, fun event hevent => ?_⟩)
  have question := questions event hevent
  simp only [Request.OfAdapter, List.mem_cons, List.not_mem_nil, or_false] at question
  obtain h | h := question <;> simp only [Event.fetched?, h]

theorem fetched_fetches (device : Nat) (slots : List (UInt32 × UInt32)) :
    (fetches device slots).filterMap Event.fetched? = slots.map fun slot => (device, slot) := by
  rw [fetches, List.filterMap_map]
  exact congrFun (List.filterMap_eq_map (f := fun slot : UInt32 × UInt32 => (device, slot))) slots

/-- The queues that calls fetch are those that a device was requested with, each of them once. -/
structure FetchesRequested (device : Nat) (queues : List QueueInfo) (l : List Event) : Prop where
  once : (l.filterMap Event.fetched?).Nodup
  requested : ∀ x family index, (x, family, index) ∈ l.filterMap Event.fetched? ↔
    x = device ∧ ∃ q ∈ queues, q.family = family ∧ index.toNat < q.priorities.length

theorem fetchesRequested (short : families.length < UInt32.size) {asked : List Event}
    (questions : ∀ event ∈ asked, event.request.Asks (only inst) nothing)
    {adapter : AdapterHandle} {info : DeviceInfo} {device : Nat} {opening : List Event}
    (opens : Opens inst adapter info device opening) :
    FetchesRequested device (queueInfos (Queue.requests families))
      (asked ++ (opening ++ fetches device (Queue.slots families))) := by
  have fetched : (asked ++ (opening ++
      fetches device (Queue.slots families))).filterMap Event.fetched? =
      (Queue.slots families).map fun slot => (device, slot) := by
    rw [List.filterMap_append, List.filterMap_append, fetched_fetches, fetched?_of_opens opens,
      List.filterMap_eq_nil_iff.2 fun event h => fetched?_of_asks (questions event h)]
    rfl
  have allots := Queue.allots_requests short
  constructor <;> rw [fetched]
  · exact allots.nodup.map fun _ _ h => (Prod.mk.inj h).2
  · intro x family index
    have counted : (∃ q ∈ queueInfos (Queue.requests families), q.family = family ∧
        index.toNat < q.priorities.length) ↔
        ∃ r ∈ Queue.requests families, r.family = family ∧ index.toNat < r.count.toNat := by
      simp only [queueInfos, List.mem_map, exists_exists_and_eq_and, List.length_replicate]
    rw [counted, ← allots.provided, List.mem_map]
    constructor
    · rintro ⟨slot, hslot, heq⟩
      cases heq
      exact ⟨rfl, hslot⟩
    · rintro ⟨rfl, hslot⟩
      exact ⟨_, hslot, rfl⟩

/-- Requests for queues and the slots that they are fetched from agree; every driver is asked for
exactly one queue for each slot, in order; and when the Vulkan driver has made a device for the
families, the queues that were fetched are those that the device was requested with. -/
theorem queues_as_requested (families : List UInt32) (short : families.length < UInt32.size) :
    Queue.Allots families (Queue.requests families) (Queue.slots families) ∧
    (∀ (d : Driver) (device : d.Device) (e : Env d.transcribed.State),
      ∃ l, (fetchQueues d.transcribed device families e).2.driver.transcript =
          e.driver.transcript ++ l ∧
        l.map Exchange.fetched? =
          (Queue.slots families).map fun slot => some (device, slot)) ∧
    ∀ (M : MemoryLibrary) [M.Lawful] inst config selection (e : Env (driverOn M).State) parts e',
      Bootstrap.createDevice (driverOn M) inst config selection e = .ok parts e' →
      parts.families = families →
      ∃ asked opening info, e'.driver.api.trace = e.driver.api.trace ++ (asked ++
          (opening ++ fetches parts.device.handle (Queue.slots families))) ∧
        Opens inst parts.adapter info parts.device.handle opening ∧
        info.queues = queueInfos (Queue.requests families) ∧
        FetchesRequested parts.device.handle info.queues (asked ++
          (opening ++ fetches parts.device.handle (Queue.slots families))) := by
  refine ⟨Queue.allots_requests short, fun d device e => calls_fetchQueues device families e, ?_⟩
  rintro M _ inst config selection e parts e' made rfl
  obtain ⟨asked, opening, info, trace, questions, opens, queues⟩ := trace_openDevice made
  exact ⟨asked, opening, info, trace, opens, queues,
    queues ▸ fetchesRequested short questions opens⟩

/-- A Vulkan implementation with one adapter. -/
def oneAdapter : Env driver.State where
  driver := { api := { host := { adapters := [{ limits := .plain 1 }] } } }

theorem queues_as_requested_interleaved :
    Queue.Allots [2, 0, 2] [⟨2, 2⟩, ⟨0, 1⟩] [(2, 0), (0, 0), (2, 1)] ∧
    ∃ parts e', Bootstrap.createDevice driver (1 : Nat) {} { families := [2, 0, 2] } oneAdapter =
        .ok parts e' ∧
      ∃ asked opening info, e'.driver.api.trace = asked ++ (opening ++
          fetches 1 [(2, 0), (0, 0), (2, 1)]) ∧
        Opens 1 1 info 1 opening ∧ info.queues = queueInfos [⟨2, 2⟩, ⟨0, 1⟩] ∧
        FetchesRequested 1 info.queues (asked ++ (opening ++ fetches 1 [(2, 0), (0, 0), (2, 1)])) := by
  have agrees := queues_as_requested [2, 0, 2] (by decide)
  obtain ⟨parts, e', made, families, adapter, device⟩ : ∃ parts e',
      Bootstrap.createDevice driver (1 : Nat) {} { families := [2, 0, 2] } oneAdapter = .ok parts e' ∧
      parts.families = [2, 0, 2] ∧ parts.adapter = 1 ∧ parts.device.handle = 1 :=
    ⟨_, _, rfl, rfl, rfl, rfl⟩
  refine ⟨agrees.1, parts, e', made, ?_⟩
  obtain ⟨asked, opening, info, trace, requested⟩ :=
    agrees.2.2 .own (1 : Nat) {} _ oneAdapter parts e' made families
  rw [adapter, device] at requested
  rw [device] at trace
  exact ⟨asked, opening, info, trace, requested⟩

end GpuCompute.Vulkan
