import GpuCompute.Proofs.Roster
import GpuCompute.Proofs.Settlement
import Mathlib.Data.List.Perm.Subperm

/-!
# The calls of a teardown

When a manager whose device is alive is torn down, its calls are known exactly
(`Session.teardown_calls`): if it manages resources, first the objects of those that it has made and
that are alive and not destroyed, the batches, then the pipelines, then the buffers, each in the order
of their creation; then the device is released, and destroyed if it is owned; then the callbacks go,
and the instance if it is owned.
-/

namespace GpuCompute

open Trace Recorder

variable {d : Driver} {life : d.Lifetimes}

/-! ## Destroying resources one after the other -/

namespace Pool

variable {p q : Pool d.recorded} {r : ResourceId} {l : List ResourceId} {kind : Kind}

/-- The object of a resource. -/
def object? (p : Pool d) (r : ResourceId) : Option (Object d) := (p.slot? r).bind (·.object)

/-- The calls that destroy the objects of resources on a device. -/
def destructions (p : Pool d.recorded) (device : Nat) (l : List ResourceId) : Trace :=
  l.filterMap fun r => (p.object? r).map fun x => ⟨.destroy device r.kind x.id, true⟩

/-- The resources of a kind that are alive and not destroyed. -/
def usable (p : Pool d) (kind : Kind) (l : List ResourceId) : List ResourceId :=
  l.filter fun r => r.kind = kind ∧ p.isUsable r

/-- All of some resources are on a device. -/
def On (p : Pool d) (device : d.Device) (l : List ResourceId) : Prop :=
  ∀ r ∈ l, ∃ slot, p.slot? r = some slot ∧ slot.device = device

theorem On.sublist {p : Pool d} {device : d.Device} {l l' : List ResourceId} (h : p.On device l)
    (hl : l'.Sublist l) : p.On device l' := fun r hr => h r (hl.subset hr)

theorem object?_eq_none {p : Pool d} : p.object? r = none ↔ p.isInit r = false := by
  rw [isInit_eq, object?]
  cases p.slot? r <;> simp

theorem object?_kind {p : Pool d} {x : Object d} (h : p.object? r = some x) : x.kind = r.kind := by
  obtain ⟨slot, hs, hx⟩ := Option.bind_eq_some_iff.1 h
  cases r with
  | tensor i | algorithm i | sequence i =>
    obtain ⟨t, -, rfl⟩ := Option.map_eq_some_iff.1 hs
    obtain ⟨y, -, rfl⟩ := Option.map_eq_some_iff.1 hx
    rfl

theorem destructions_cons (device : Nat) (r : ResourceId) (l : List ResourceId) :
    p.destructions device (r :: l) = p.destructions device [r] ++ p.destructions device l := by
  rw [destructions, ← List.singleton_append, List.filterMap_append]
  rfl

theorem destructions_congr {device : Nat} (h : ∀ r ∈ l, q.slot? r = p.slot? r) :
    q.destructions device l = p.destructions device l := by
  refine List.filterMap_congr fun r hr => ?_
  rw [object?, h r hr]
  rfl

/-- It makes no difference whether what has no object any more is counted as alive. -/
theorem destructions_filter_isHeld (device : Nat) (l : List ResourceId) :
    p.destructions device (l.filter p.isHeld) = p.destructions device (l.filter p.isUsable) := by
  rw [destructions, destructions, List.filterMap_filter, List.filterMap_filter]
  refine List.filterMap_congr fun r _ => ?_
  cases hinit : p.isInit r with
  | false => simp [object?_eq_none.2 hinit]
  | true => simp [isUsable, hinit]

/-- Destroys resources in order. -/
def destroyEach (l : List ResourceId) (p : Pool d) : Pool d := l.foldl (fun p r => p.destroy r) p

theorem slot?_destroyEach {p : Pool d} (h : r ∉ l) : (p.destroyEach l).slot? r = p.slot? r := by
  induction l generalizing p with
  | nil => rfl
  | cons r' l ih =>
    rw [List.mem_cons, not_or] at h
    exact (ih h.2).trans ((empties_destroy r' p).others r h.1)

theorem trace_destroy_of_lasting (h : p.Accounted life) {slot : Slot d.recorded (Object d.recorded)}
    (hs : p.slot? r = some slot) (lasting : ¬ Ended p.env.driver.trace slot.device.id) :
    (p.destroy r).env.driver.trace =
      p.env.driver.trace ++ p.destructions slot.device.id [r] := by
  rcases driver_destroy r p with ⟨same, dead⟩ | ⟨slot', x, hs', hx, -, hdriver⟩
  · have none : p.object? r = none := by
      refine Option.eq_none_iff_forall_ne_some.2 fun x hx => ?_
      obtain ⟨slot', hs', hx⟩ := Option.bind_eq_some_iff.1 hx
      cases hs.symm.trans hs'
      have alive := (h.alive_iff hs).2 lasting
      rw [dead slot x hs hx] at alive
      cases alive
    rw [same]
    simp [destructions, none]
  · cases hs.symm.trans hs'
    have some : p.object? r = some x := Option.bind_eq_some_iff.2 ⟨slot, hs, hx⟩
    rw [hdriver, unmake_eq, trace_note, object?_kind some]
    simp [destructions, some]

/-- **Resources of a device that has not ended are destroyed one after the other.** -/
theorem trace_destroyEach (h : p.Accounted life) {device : d.recorded.Device} (nodup : l.Nodup)
    (on : p.On device l) (lasting : ¬ Ended p.env.driver.trace device.id) :
    (p.destroyEach l).env.driver.trace = p.env.driver.trace ++ p.destructions device.id l ∧
      ¬ Ended (p.destroyEach l).env.driver.trace device.id := by
  induction l generalizing p with
  | nil => exact ⟨(List.append_nil _).symm, lasting⟩
  | cons r l ih =>
    obtain ⟨hr, nodup⟩ := List.nodup_cons.1 nodup
    obtain ⟨slot, hs, rfl⟩ := on r List.mem_cons_self
    have trace := trace_destroy_of_lasting h hs lasting
    have others (r') (hr' : r' ∈ l) : (p.destroy r).slot? r' = p.slot? r' :=
      (empties_destroy r p).others r' fun heq => hr (heq ▸ hr')
    have lasting' : ¬ Ended (p.destroy r).env.driver.trace slot.device.id := by
      rw [trace, ended_append_iff, not_or]
      refine ⟨lasting, ?_⟩
      rintro (hmem | hmem) <;> simp [destructions] at hmem
    obtain ⟨rest, lasting''⟩ := ih (h.of_destroy r) nodup
      (fun r' hr' => by rw [others r' hr']; exact on r' (List.mem_cons_of_mem _ hr')) lasting'
    refine ⟨?_, lasting''⟩
    rw [destructions_cons, ← List.append_assoc, ← trace, ← destructions_congr others]
    exact rest

/-- The living resources of a registry are destroyed in order, and their number is written down. -/
theorem destroyRegistered_eq (kind : String) (identify : Nat → ResourceId) (r : Registry Nat)
    (p : Pool d) : ∃ count : String, Manager.destroyRegistered kind identify r p =
      (p.destroyEach ((r.entries.map identify).filter p.isHeld)).onEnv
        (.write { level := .debug, message := "destroyed tracked " ++ kind
                  fields := [("count", count)] }) := by
  refine ⟨_, congrArg (Pool.onEnv _) ?_⟩
  rw [destroyEach, List.filter_map, List.foldl_map]
  rfl

/-- Resources of a device that has ended are given up without calls. -/
theorem driver_destroyEach_of_ended (h : p.Accounted life) {device : d.recorded.Device}
    (on : p.On device l) (ended : Ended p.env.driver.trace device.id) :
    (p.destroyEach l).env.driver = p.env.driver := by
  induction l generalizing p with
  | nil => rfl
  | cons r l ih =>
    obtain ⟨slot, hs, rfl⟩ := on r List.mem_cons_self
    have same := h.driver_destroy_of_ended hs ended
    refine (ih (h.of_destroy r) (fun r' hr' => ?_) (same.symm ▸ ended)).trans same
    obtain ⟨slot', hs', on'⟩ := on r' (List.mem_cons_of_mem _ hr')
    obtain ⟨slot'', hs'', device', -⟩ := Grows.of_empties (empties_destroy r p) r' slot' hs'
    exact ⟨slot'', hs'', device'.trans on'⟩

/-- What is left of some resources is destroyed in order, and other resources are left alone. -/
structure Clears (life : d.Lifetimes) (device : d.recorded.Device) (l : List ResourceId)
    (p q : Pool d.recorded) : Prop where
  account : q.Accounted life
  trace : q.env.driver.trace =
    p.env.driver.trace ++ p.destructions device.id (l.filter p.isUsable)
  lasting : ¬ Ended q.env.driver.trace device.id
  others : ∀ r ∉ l, q.slot? r = p.slot? r
  isHeld : q.isHeld = p.isHeld

namespace Clears

variable {device : d.recorded.Device} {q' : Pool d.recorded} {l' : List ResourceId}

theorem trans (h : p.Clears life device l q) (h' : q.Clears life device l' q')
    (apart : ∀ r ∈ l', r ∉ l) : p.Clears life device (l ++ l') q' := by
  have slots (r) (hr : r ∈ l') : q.slot? r = p.slot? r := h.others r (apart r hr)
  have usable : l'.filter q.isUsable = l'.filter p.isUsable := by
    refine List.filter_congr fun r hr => ?_
    rw [isUsable, isUsable, h.isHeld, isInit_eq, isInit_eq, slots r hr]
  refine ⟨h'.account, ?_, h'.lasting, fun r hr => ?_, h'.isHeld.trans h.isHeld⟩
  · rw [h'.trace, h.trace, usable, destructions_congr fun r hr => slots r (List.mem_filter.1 hr).1,
      List.append_assoc, List.filter_append]
    simp only [destructions, List.filterMap_append]
  · rw [List.mem_append, not_or] at hr
    exact (h'.others r hr.2).trans (h.others r hr.1)

/-- The resources of a registry that are alive are destroyed. -/
theorem destroyRegistered (h : p.Accounted life) (kind : String) (identify : Nat → ResourceId)
    (r : Registry Nat) (nodup : (r.entries.map identify).Nodup)
    (on : p.On device (r.entries.map identify)) (lasting : ¬ Ended p.env.driver.trace device.id) :
    p.Clears life device (r.entries.map identify) (Manager.destroyRegistered kind identify r p) := by
  obtain ⟨count, heq⟩ := destroyRegistered_eq kind identify r p
  have sublist : ((r.entries.map identify).filter p.isHeld).Sublist _ := List.filter_sublist
  obtain ⟨trace, lasting⟩ := trace_destroyEach h (nodup.sublist sublist) (on.sublist sublist) lasting
  have destroys := (Session.destroys_registered kind identify r p).1
  refine ⟨h.of_destroys destroys, ?_, ?_, fun r' hr' => ?_, destroys.isHeld⟩
  · rw [heq, ← destructions_filter_isHeld]
    exact trace
  · rw [heq]
    exact lasting
  · rw [heq]
    exact slot?_destroyEach fun hmem => hr' (sublist.subset hmem)

end Clears

end Pool

/-! ## Tearing a manager down -/

namespace Manager

variable {m : Manager d.recorded} {p : Pool d.recorded} {mine : List ResourceId}

theorem kind_of_tracked {m : Manager d} {kind : Kind} {r : ResourceId} (h : r ∈ m.tracked kind) :
    r.kind = kind := by
  cases kind <;> obtain ⟨i, -, rfl⟩ := List.mem_map.1 h <;> rfl

/-- What a manager tracks is on its device. -/
theorem Roster.on_tracked {m : Manager d} {p : Pool d} (h : m.Roster p mine) {device : Ownership d.Device}
    (hd : m.device = some device) (kind : Kind) : p.On device.handle (m.tracked kind) := fun r hr => by
  obtain ⟨slot, hs, hon⟩ := h.placed r ((h.listed kind).subset hr)
  exact ⟨slot, hs, hon device hd⟩

/-- A manager that manages resources tracks all that is left of what it has made, in order. -/
theorem Roster.usable_eq {m : Manager d} {p : Pool d} (h : m.Roster p mine)
    (manages : m.config.manageResources) (hd : m.device.isSome) (kind : Kind) :
    (m.tracked kind).filter p.isUsable = p.usable kind mine := by
  have sublist : ((m.tracked kind).filter p.isUsable).Sublist (p.usable kind mine) := by
    have all : (m.tracked kind).filter p.isUsable = p.usable kind (m.tracked kind) :=
      List.filter_congr fun r hr => by simp [kind_of_tracked hr]
    rw [all]
    exact (h.listed kind).filter _
  refine sublist.eq_of_length_le (List.subperm_of_subset (h.nodup.filter _) fun r hr => ?_).length_le
  obtain ⟨hmem, hr⟩ := List.mem_filter.1 hr
  obtain ⟨rfl, usable⟩ := of_decide_eq_true hr
  have hinit : p.isInit r := (Bool.and_eq_true_iff.1 usable).2
  exact List.mem_filter.2 ⟨tracks_iff.1 (h.tracks manages hd r hmem hinit), usable⟩

/-- What is left of what a manager has made, in the order in which a teardown destroys it. -/
def remains (p : Pool d) (mine : List ResourceId) : List ResourceId :=
  p.usable .batch mine ++ p.usable .pipeline mine ++ p.usable .buffer mine

theorem trace_destroyTracked (account : p.Accounted life) (h : m.Roster p mine)
    (manages : m.config.manageResources) {device : Ownership d.recorded.Device}
    (hd : m.device = some device) (lasting : ¬ Ended p.env.driver.trace device.handle.id) :
    (m.destroyTracked p).env.driver.trace =
      p.env.driver.trace ++ p.destructions device.handle.id (remains p mine) := by
  have nodup (kind : Kind) : (m.tracked kind).Nodup := h.nodup.sublist (h.listed kind)
  have on := h.on_tracked hd
  have apart (kind kind' : Kind) (hne : kind ≠ kind') (r) (hr : r ∈ m.tracked kind') :
      r ∉ m.tracked kind := fun hr' => hne ((kind_of_tracked hr').symm.trans (kind_of_tracked hr))
  have moved (kind : Kind) {q : Pool d.recorded} {l : List ResourceId}
      (hq : p.Clears life device.handle l q) (hl : ∀ r ∈ m.tracked kind, r ∉ l) :
      q.On device.handle (m.tracked kind) := fun r hr => by
    rw [hq.others r (hl r hr)]
    exact on kind r hr
  -- One registry after the other; the kinds of their resources differ.
  have batches : p.Clears life device.handle (m.tracked .batch) _ :=
    .destroyRegistered account "sequences" .sequence m.sequences (nodup .batch) (on .batch) lasting
  have later := apart .batch .pipeline (by decide)
  have pipelines : Pool.Clears life device.handle (m.tracked .pipeline) _ _ :=
    .destroyRegistered batches.account "algorithms" .algorithm m.algorithms (nodup .pipeline)
      (moved .pipeline batches later) batches.lasting
  have both := batches.trans pipelines later
  have last (r) (hr : r ∈ m.tracked .buffer) : r ∉ m.tracked .batch ++ m.tracked .pipeline :=
    List.mem_append.not.2 (not_or.2
      ⟨apart .batch .buffer (by decide) r hr, apart .pipeline .buffer (by decide) r hr⟩)
  have buffers : Pool.Clears life device.handle (m.tracked .buffer) _ _ :=
    .destroyRegistered both.account "tensors" .tensor m.tensors (nodup .buffer)
      (moved .buffer both last) both.lasting
  have all := both.trans buffers last
  have trace := all.trace
  rw [List.filter_append, List.filter_append, h.usable_eq manages (by simp [hd]),
    h.usable_eq manages (by simp [hd]), h.usable_eq manages (by simp [hd])] at trace
  exact trace

/-- The calls by which a manager lets go of its device and its instance. -/
def farewells (device : Ownership d.recorded.Device) (inst : Ownership d.recorded.Instance)
    (callbacks : Option d.recorded.Callbacks) : Trace :=
  [⟨.releaseDevice device.handle.id, true⟩] ++
    (if device.isOwned then [⟨.destroyDevice device.handle.id, true⟩] else []) ++
    (callbacks.map fun c => ⟨.unregisterCallbacks inst.handle.id c.id, true⟩).toList ++
    (if inst.isOwned then [⟨.destroyInstance inst.handle.id, true⟩] else [])

theorem trace_shut_of_inst {device : Ownership d.recorded.Device}
    {inst : Ownership d.recorded.Instance} (hi : m.inst = some inst) (e : Env d.recorded.State) :
    (m.shut device e).driver.trace = e.driver.trace ++ farewells device inst m.callbacks := by
  have close : (closeDevice device e).driver.trace = e.driver.trace ++
      ([⟨.releaseDevice device.handle.id, true⟩] ++
        if device.isOwned then [⟨.destroyDevice device.handle.id, true⟩] else []) := by
    cases device with
    | owned x => exact List.append_assoc _ [_] [_]
    | borrowed x => rfl
  have leave (e : Env d.recorded.State) : (closeInstance inst m.callbacks e).driver.trace =
      e.driver.trace ++
        ((m.callbacks.map fun c => ⟨.unregisterCallbacks inst.handle.id c.id, true⟩).toList ++
          if inst.isOwned then [⟨.destroyInstance inst.handle.id, true⟩] else []) := by
    cases m.callbacks <;> cases inst
    · rfl
    · exact (List.append_nil _).symm
    · exact List.append_assoc _ [_] [_]
    · rfl
  unfold shut
  rw [hi]
  dsimp only
  rw [leave, close, farewells]
  simp only [List.append_assoc]

/-- The calls of a teardown. -/
def teardown (p : Pool d.recorded) (m : Manager d.recorded) (device : Ownership d.recorded.Device)
    (inst : Ownership d.recorded.Instance) (mine : List ResourceId) : Trace :=
  (if m.config.manageResources then p.destructions device.handle.id (remains p mine) else []) ++
    farewells device inst m.callbacks

theorem trace_destroy (account : p.Accounted life) (h : m.Roster p mine)
    {device : Ownership d.recorded.Device} (hd : m.device = some device)
    (lasting : ¬ Ended p.env.driver.trace device.handle.id)
    {inst : Ownership d.recorded.Instance} (hi : m.inst = some inst) :
    (m.destroy p).2.env.driver.trace = p.env.driver.trace ++ teardown p m device inst mine := by
  rw [(Session.destroy_of_device hd p).2.2, Pool.env_withEnv, trace_shut_of_inst hi, teardown,
    ← List.append_assoc]
  congr 1
  unfold Session.cleared
  split
  · next manages =>
    have started : (p.onEnv (.write
        { level := .debug, message := "manager destroy started" })).Accounted life :=
      account.of_idles (.refl _) rfl
    exact trace_destroyTracked started (h.of_grows (.of_eq rfl)) manages hd lasting
  · exact (List.append_nil _).symm

/-- Nothing is left of what a manager with resource management has made. -/
theorem isInit_destroy {m : Manager d} {p : Pool d} (h : m.Roster p mine) (kept : p.Kept)
    (manages : m.config.manageResources) (hd : m.device.isSome) :
    ∀ r ∈ mine, (m.destroy p).2.isInit r = false := by
  obtain ⟨device, hd⟩ := Option.isSome_iff_exists.1 hd
  obtain ⟨destroys, gone⟩ := Session.destroys_cleared m p
  intro r hr
  rw [(Session.destroy_of_device hd p).2.2, Pool.isInit_eq, Pool.slot?_withEnv, ← Pool.isInit_eq]
  cases hinit : p.isInit r with
  | false => exact destroys.isInit_eq_false hinit
  | true =>
    refine gone manages r (h.tracks manages (by simp [hd]) r hr hinit) ?_
    rw [destroys.isHeld]
    exact kept r hinit

end Manager

/-! ## Runs -/

namespace Session

open Manager

/-- **The calls of a teardown.** After any run, when a manager whose device is alive is destroyed or
dropped, its calls are those of `Manager.teardown` and no others. If it manages resources, none of those
that it has made has its object afterwards. A manager that was destroyed tracks nothing and has neither
device nor queues. -/
theorem teardown_calls (life : d.Lifetimes) {inner : d.State} (sound : life.Sound inner)
    {ops : List Operation} (hplain : ∀ c, .call c ∈ ops → plain c) :
    let s := recordedRun inner ops
    ∀ name m device, s.managers.lookup name = some m → m.device = some device →
      d.recorded.isAlive device.handle s.pool.env.driver = true →
      let mine := created name ops (recordedStart inner)
      (∃ inst, m.inst = some inst ∧ m.callbacks.isSome = (inst.isOwned && m.config.diagnostics) ∧
        ∀ o, o = .destroyManager name ∨ o = .dropManager name →
          ((step o).after s).trace = s.trace ++ teardown s.pool m device inst mine ∧
          (m.config.manageResources → ∀ r ∈ mine, ((step o).after s).pool.isInit r = false)) ∧
      (∃ m', ((step (.destroyManager name)).after s).managers.lookup name = some m' ∧
        m'.trackedCounts = ⟨0, 0, 0⟩ ∧ m'.queues = [] ∧ m'.device = none) ∧
      ((step (.dropManager name)).after s).managers.lookup name = none := by
  intro s name m device hm hd alive mine
  have account : s.Accounted life := accounted_recordedRun sound hplain
  have enrolled : Enrolled name s mine := enrolled_steps name _ ops
  have roster := enrolled.roster hm
  have open' : m.device.isSome := by simp [hd]
  have lasting : ¬ Ended s.trace device.handle.id :=
    (account.pool.sane.alive _ (account.managers (mem_of_lookup hm) hd)).1 alive
  obtain ⟨inst, hi, callbacks⟩ := roster.equipped open'
  refine ⟨⟨inst, hi, callbacks, fun o ho => ?_⟩, ?_, ?_⟩
  · rw [trace, trace_teardown hm open' ho]
    exact ⟨trace_destroy account.pool roster hd lasting hi,
      fun manages => isInit_destroy roster enrolled.kept manages open'⟩
  · refine ⟨(m.destroy s.pool).1, ?_, ?_⟩
    · unfold step
      rw [after_withManager, hm]
      exact lookup_update_self hm _
    · obtain ⟨tracked, queues⟩ := roster.tracked_destroy (p := s.pool) open'
      refine ⟨?_, queues, (destroy_of_device hd s.pool).1⟩
      have none (kind : Kind) := tracked kind
      simp only [trackedCounts, Registry.size, TrackedCounts.mk.injEq, List.length_eq_zero_iff]
      exact ⟨List.map_eq_nil_iff.1 (none .batch), List.map_eq_nil_iff.1 (none .pipeline),
        List.map_eq_nil_iff.1 (none .buffer)⟩
  · rw [managers_step_dropManager]
    exact lookup_without_self name _

/-- The driver in memory, with one adapter whose queues compute, and all that diagnostics need. -/
def diagnosing : InMemory.driver.State :=
  ({ offer :=
      { adapters := [⟨InMemory.plainProperties none 1, [⟨2, 1, 0⟩], [Bootstrap.shaderPrintExtension]⟩]
        instanceExtensions := Bootstrap.debugExtensions } } : InMemory.State)

/-- Of two tensors and two sequences one tensor is held through an algorithm only, and one sequence is
destroyed by the caller. -/
def inUse : List Operation :=
  [.createManager "manager" { diagnostics := true } {},
    .tensorOfBytes "manager" "first" [1, 2, 3, 4] 1 4 .int, .sequence "manager" "early" 0 0,
    .tensorOfBytes "manager" "second" [1, 2, 3, 4] 1 4 .int,
    .algorithm "manager" "algorithm" ["first"] [1], .sequence "manager" "late" 0 0,
    .drop "first", .destroy "early", .share "again" "second"]

theorem teardown_calls_inUse :
    let s := recordedRun diagnosing inUse
    created "manager" inUse (recordedStart diagnosing) =
      [.tensor 0, .sequence 0, .tensor 1, .algorithm 0, .sequence 1] ∧
    ∀ o, o = .destroyManager "manager" ∨ o = .dropManager "manager" →
      ((step o).after s).trace = s.trace ++
        [⟨.destroy 9 .batch 15, true⟩, ⟨.destroy 9 .pipeline 14, true⟩,
          ⟨.destroy 9 .buffer 11, true⟩, ⟨.destroy 9 .buffer 13, true⟩, ⟨.releaseDevice 9, true⟩,
          ⟨.destroyDevice 9, true⟩, ⟨.unregisterCallbacks 2 3, true⟩, ⟨.destroyInstance 2, true⟩] := by
  intro s
  have sound : InMemory.lifetimes.Sound diagnosing := nofun
  have hplain : ∀ c, .call c ∈ inUse → plain c := by
    intro c hc
    simp [inUse] at hc
  have hm : s.managers.lookup "manager" = some _ := rfl
  obtain ⟨⟨inst, hi, -, calls⟩, -⟩ :=
    teardown_calls InMemory.lifetimes sound hplain "manager" _ _ hm rfl rfl
  cases hi
  exact ⟨rfl, fun o ho => (calls o ho).1⟩

end Session

end GpuCompute
