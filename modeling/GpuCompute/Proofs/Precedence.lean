import GpuCompute.Proofs.Closing

/-!
# Pipelines go before the buffers that they bind

In a pool in which a pipeline binds only buffers of its own device, and in which the algorithm of a
pipeline keeps the tensors of these buffers (`Pool.Ordered`), it is enough for the order of destruction
that a tensor is destroyed only when no algorithm that binds it still has its pipeline
(`Pool.Unbound`). Two things see to this: an algorithm holds its tensors, so that they are let go of
after it (`Pool.retires_reap`), and a manager destroys algorithms before tensors
(`Manager.retires_destroyTracked`).
-/

namespace GpuCompute

open Trace Recorder

variable {d : Driver} {life : d.Lifetimes}

/-! ## Traces -/

namespace Trace

variable {tr T : Trace} {device pipeline buffer : Nat}

/-- A pipeline was made on a device and binds a buffer. -/
def Binds (tr : Trace) (device pipeline buffer : Nat) : Prop :=
  ∃ what : PipelineDescriptor Nat, tr[pipeline]? = some ⟨.create device (.pipeline what), true⟩ ∧
    buffer ∈ what.bindings.map (·.buffer)

/-- When a buffer is destroyed, each pipeline that binds it was destroyed before. -/
def PipelinesFirst (before : Trace) (event : Event) : Prop :=
  ∀ device buffer, event = ⟨.destroy device .buffer buffer, true⟩ →
    ∀ other pipeline, Binds before other pipeline buffer → Destroyed before .pipeline pipeline

/-- Pipelines bind buffers that were made on the device of the pipeline. -/
def Local (tr : Trace) : Prop :=
  ∀ device pipeline buffer, Binds tr device pipeline buffer → Made tr .buffer device buffer

theorem Binds.made_pipeline (h : Binds tr device pipeline buffer) : Made tr .pipeline device pipeline := by
  obtain ⟨what, hwhat, -⟩ := h
  exact ⟨.pipeline what, rfl, hwhat⟩

theorem binds_append_iff : Binds (tr ++ T) device pipeline buffer ↔
    Binds tr device pipeline buffer ∨
      tr.length ≤ pipeline ∧ Binds T device (pipeline - tr.length) buffer := by
  by_cases hlt : pipeline < tr.length
  · have hle : ¬ tr.length ≤ pipeline := by omega
    simp only [Binds, List.getElem?_append_left hlt, hle, false_and, or_false]
  · have hle : tr.length ≤ pipeline := by omega
    have none : ¬ Binds tr device pipeline buffer := fun h => hlt h.made_pipeline.lt_length
    simp only [none, hle, false_or, true_and]
    simp only [Binds, List.getElem?_append_right hle]

theorem not_binds_of_bare (h : Bare T) : ¬ Binds T device pipeline buffer :=
  fun binds => not_made_of_bare h binds.made_pipeline

theorem binds_append_bare (h : Bare T) :
    Binds (tr ++ T) device pipeline buffer ↔ Binds tr device pipeline buffer := by
  rw [binds_append_iff]
  exact or_iff_left fun binds => not_binds_of_bare h binds.2

theorem always_pipelinesFirst_append (h : Always PipelinesFirst tr)
    (hT : ∀ device buffer, (⟨.destroy device .buffer buffer, true⟩ : Event) ∉ T) :
    Always PipelinesFirst (tr ++ T) := by
  refine Always.append_iff.2 ⟨h, ?_⟩
  rintro before event after rfl device buffer rfl
  exact absurd (List.mem_append_right _ List.mem_cons_self) (hT device buffer)

theorem not_destroy_of_bare (h : Bare T) (device buffer : Nat) :
    (⟨.destroy device .buffer buffer, true⟩ : Event) ∉ T := by
  intro hmem
  cases h _ hmem

end Trace

/-! ## Pools in order -/

namespace Pool

variable {p p' q : Pool d.recorded} {r : ResourceId} {x y : Object d.recorded}

theorem object?_of_slot? {slot : Slot d (Object d)} {x : Object d} {p : Pool d}
    (hs : p.slot? r = some slot) (hx : slot.object = some x) : p.object? r = some x := by
  simp [object?, hs, hx]

theorem exists_slot {x : Object d} {p : Pool d} (h : p.object? r = some x) :
    ∃ slot, p.slot? r = some slot ∧ slot.object = some x := Option.bind_eq_some_iff.1 h

/-- A pool whose pipelines come before the buffers that they bind when they are destroyed. -/
structure Ordered (life : d.Lifetimes) (p : Pool d.recorded) : Prop where
  account : p.Accounted life
  covers : p.Covers
  first : Always PipelinesFirst p.env.driver.trace
  near : Local p.env.driver.trace
  /-- The algorithm of a pipeline keeps the tensors whose buffers the pipeline binds. -/
  tied : ∀ {a t x y device}, p.object? (.algorithm a) = some y → p.object? (.tensor t) = some x →
    Binds p.env.driver.trace device y.id x.id → p.keeps t (.algorithm a)

/-- No algorithm that binds the resource still has its pipeline. -/
def Unbound (p : Pool d) (r : ResourceId) : Prop :=
  ∀ t, r = .tensor t → ∀ a, p.keeps t a → p.isInit a = false

/-- What an order binds are buffers of tensors on the device, which the resource keeps that is made. -/
def BindsKept (device : d.Device) (order : Order d) (r : ResourceId) (p p' : Pool d) : Prop :=
  ∀ b ∈ order.binds, ∃ t slot, p.slot? (.tensor t) = some slot ∧ slot.object = some (.buffer b) ∧
    slot.device = device ∧ p'.keeps t r

theorem unbound_of_kind {p : Pool d} (h : r.kind ≠ .buffer) : p.Unbound r := by
  rintro t rfl
  exact absurd rfl h

namespace Ordered

/-- Calls that leave objects alone keep the order. -/
theorem of_spares (h : p.Ordered life) (hs : Recorder.Spares life p.env.driver p'.env.driver)
    (slots : p'.slot? = p.slot?) (keeps : p'.keeps = p.keeps) : p'.Ordered life := by
  obtain ⟨T, hT, bare⟩ := hs.trace
  have objects : p'.object? = p.object? := by
    funext r
    simp only [object?, slots]
  refine ⟨h.account.of_spares hs slots, h.covers.bare hT bare slots, ?_, ?_, ?_⟩
  · rw [hT]
    exact always_pipelinesFirst_append h.first (not_destroy_of_bare bare)
  · intro device pipeline buffer binds
    rw [hT, binds_append_bare bare] at binds
    rw [hT, made_append_bare bare]
    exact h.near _ _ _ binds
  · intro a t x y device hy hx binds
    rw [objects] at hy hx
    rw [hT, binds_append_bare bare] at binds
    rw [keeps]
    exact h.tied hy hx binds

/-- A pipeline that binds the buffer of an unbound tensor on a device that has not ended was
destroyed. -/
theorem pipeline_destroyed (h : p.Ordered life) {t : Nat} (free : p.Unbound (.tensor t))
    {slot : Slot d.recorded (Object d.recorded)} (hs : p.slot? (.tensor t) = some slot)
    (hx : slot.object = some x) (lasting : ¬ Ended p.env.driver.trace slot.device.id)
    {device pipeline : Nat} (binds : Binds p.env.driver.trace device pipeline x.id) :
    Destroyed p.env.driver.trace .pipeline pipeline := by
  have same : device = slot.device.id :=
    ((h.account.made hs hx).unique (h.near _ _ _ binds)).2
  rcases h.covers _ _ _ binds.made_pipeline with gone | ended | ⟨r, slot', y, hs', hy, rfl⟩
  · exact gone
  · exact absurd (same ▸ ended) lasting
  · have hr := object?_of_slot? hs' hy
    have kind : r.kind = .pipeline :=
      (object?_kind hr).symm.trans (binds.made_pipeline.unique (h.account.made hs' hy)).1
    cases r with
    | algorithm a =>
      have keeps := h.tied hr (object?_of_slot? hs hx) binds
      have gone := free t rfl _ keeps
      rw [isInit_iff.2 ⟨slot', y, hs', hy⟩] at gone
      cases gone
    | tensor i | sequence i => cases kind

/-- **A tensor that is destroyed when no algorithm binds it any more keeps the order**, and so does any
other resource. -/
theorem destroy (h : p.Ordered life) (free : p.Unbound r) : (p.destroy r).Ordered life := by
  have account := h.account.of_destroy r
  have covers := h.covers.destroy h.account r
  have he := empties_destroy r p
  have objects {r' : ResourceId} {x : Object d.recorded} (hx : (p.destroy r).object? r' = some x) :
      p.object? r' = some x := by
    obtain ⟨slot, hs, hx⟩ := exists_slot hx
    obtain ⟨slot', hs', -, same⟩ := he.slot_before hs
    exact object?_of_slot? hs' (same x hx).2
  rcases driver_destroy r p with ⟨same, -⟩ | ⟨slot, x, hs, hx, alive, hdriver⟩
  · refine ⟨account, covers, by rw [same]; exact h.first, by rw [same]; exact h.near, ?_⟩
    intro a t x y device hy hx binds
    rw [same] at binds
    rw [he.keeps]
    exact h.tied (objects hy) (objects hx) binds
  · have lasting := (h.account.alive_iff hs).1 alive
    have trace : (p.destroy r).env.driver.trace =
        p.env.driver.trace ++ [⟨.destroy slot.device.id x.kind x.id, true⟩] := by
      rw [hdriver, unmake_eq]
      rfl
    have old {device pipeline buffer : Nat} : Binds (p.destroy r).env.driver.trace device pipeline
        buffer ↔ Binds p.env.driver.trace device pipeline buffer := by
      rw [trace, binds_append_iff]
      refine or_iff_left fun binds => ?_
      obtain ⟨-, what, -, heq⟩ := made_singleton.1 binds.2.made_pipeline
      cases heq
    refine ⟨account, covers, ?_, ?_, ?_⟩
    · rw [trace, Always.snoc_iff]
      refine ⟨h.first, ?_⟩
      intro device buffer heq other pipeline binds
      simp only [Event.mk.injEq, Request.destroy.injEq, and_true] at heq
      obtain ⟨rfl, kind, rfl⟩ := heq
      cases r with
      | tensor t => exact h.pipeline_destroyed free hs hx lasting binds
      | algorithm i | sequence i => cases (object?_kind (object?_of_slot? hs hx)).symm.trans kind
    · intro device pipeline buffer binds
      rw [trace]
      exact (h.near _ _ _ (old.1 binds)).append _
    · intro a t x y device hy hx binds
      rw [he.keeps]
      exact h.tied (objects hy) (objects hx) (old.1 binds)

theorem binds_create {device : d.recorded.Device} {order : Order d.recorded} {on pipeline buffer : Nat}
    (h : Binds [⟨.create device.id order.creation, true⟩] on pipeline buffer) :
    pipeline = 0 ∧ on = device.id ∧ ∃ b ∈ order.binds, b.id = buffer := by
  obtain ⟨rfl, -⟩ := made_singleton.1 h.made_pipeline
  obtain ⟨what, hwhat, hmem⟩ := h
  simp only [List.getElem?_cons_zero, Option.some.injEq, Event.mk.injEq, Request.create.injEq,
    and_true] at hwhat
  obtain ⟨rfl, hwhat⟩ := hwhat
  refine ⟨rfl, rfl, ?_⟩
  cases order with
  | pipeline made =>
    cases hwhat
    simpa [Order.binds, numbers] using hmem
  | buffer | batch => cases hwhat

section

variable {T₁ T₂ : Trace} {device : d.recorded.Device} {order : Order d.recorded} (bare₁ : Bare T₁)
  (bare₂ : Bare T₂)
include bare₁ bare₂

/-- Where one object is made, no more is bound than its order says. -/
theorem binds_making {tr : Trace} {on pipeline buffer : Nat}
    (h : Binds (tr ++ (T₁ ++ ⟨.create device.id order.creation, true⟩ :: T₂)) on pipeline buffer) :
    Binds tr on pipeline buffer ∨
      pipeline = tr.length + T₁.length ∧ on = device.id ∧ ∃ b ∈ order.binds, b.id = buffer := by
  rw [← List.singleton_append, ← List.append_assoc, ← List.append_assoc, binds_append_bare bare₂,
    binds_append_iff, binds_append_bare bare₁] at h
  rcases h with h | ⟨hle, h⟩
  · exact .inl h
  · obtain ⟨hzero, on, b, hb, rfl⟩ := binds_create h
    rw [List.length_append] at hle hzero
    exact .inr ⟨by omega, on, b, hb, rfl⟩

theorem not_destroy_of_making (on buffer : Nat) : (⟨.destroy on .buffer buffer, true⟩ : Event) ∉
    T₁ ++ ⟨.create device.id order.creation, true⟩ :: T₂ := by
  intro hmem
  rcases List.mem_append.1 hmem with hmem | hmem
  · exact not_destroy_of_bare bare₁ _ _ hmem
  · rcases List.mem_cons.1 hmem with heq | hmem
    · cases heq
    · exact not_destroy_of_bare bare₂ _ _ hmem

end

/-- **A resource that is made keeps the order** if it keeps the tensors whose buffers its object
binds. -/
theorem of_makes (h : p.Ordered life) {device : d.recorded.Device} {order : Order d.recorded}
    (known : device ∈ p.env.driver.devices) (made : p.Makes device order r p')
    (bound : p.BindsKept device order r p') : p'.Ordered life := by
  have account := h.account.of_makes known made
  have covers := h.covers.of_makes life made
  obtain ⟨T₁, T₂, new, hT, idle₁, idle₂, slot, hid⟩ := made.trace_append life
  obtain ⟨e₁, new', e₂, -, -, -, adds⟩ := made
  have now : p'.object? r = some new := object?_of_slot? slot rfl
  have before {r' : ResourceId} {x : Object d.recorded} (hne : r' ≠ r) (hx : p'.object? r' = some x) :
      p.object? r' = some x := by
    rw [object?, adds.others r' hne] at hx
    exact hx
  have binds {on pipeline buffer : Nat} (h : Binds p'.env.driver.trace on pipeline buffer) :=
    binds_making idle₁.bare idle₂.bare (hT ▸ h)
  refine ⟨account, covers, ?_, ?_, ?_⟩
  · rw [hT]
    exact always_pipelinesFirst_append h.first (not_destroy_of_making idle₁.bare idle₂.bare)
  · intro on pipeline buffer hbinds
    rw [hT]
    refine Made.append ?_ _
    rcases binds hbinds with hbinds | ⟨rfl, rfl, b, hb, rfl⟩
    · exact h.near _ _ _ hbinds
    · obtain ⟨t, slot, hs, hx, rfl, -⟩ := bound b hb
      exact h.account.made hs hx
  · intro a t x y on hy hx hbinds
    by_cases ha : .algorithm a = r
    · have ht : ResourceId.tensor t ≠ r := by simp [← ha]
      cases (ha ▸ hy).symm.trans now
      have hx := before ht hx
      rcases binds hbinds with hbinds | ⟨-, -, b, hb, same⟩
      · have := hbinds.made_pipeline.lt_length
        omega
      · obtain ⟨t', slot', hs', hb', -, keeps⟩ := bound b hb
        obtain ⟨slot, hs, hx⟩ := exists_slot hx
        cases h.account.apart hs' hb' hs hx same
        rwa [ha]
    · have hy := before ha hy
      have young : y.id < p.env.driver.trace.length := by
        obtain ⟨slot, hs, hy⟩ := exists_slot hy
        exact (h.account.made hs hy).lt_length
      rcases binds hbinds with hbinds | ⟨same, -⟩
      · by_cases ht : .tensor t = r
        · cases (ht ▸ hx).symm.trans now
          have := (h.near _ _ _ hbinds).lt_length
          omega
        · rw [adds.keeps _ ha]
          exact h.tied hy (before ht hx) hbinds
      · omega

end Ordered

end Pool

/-! ## Giving up in order -/

namespace Pool

variable {p q q' : Pool d.recorded} {r : ResourceId} {l : List ResourceId}

/-- Calls leave objects alone, slots stay as they are, and so does what is bound. -/
structure Rests (life : d.Lifetimes) (p q : Pool d.recorded) : Prop where
  driver : p.env.driver.Spares life q.env.driver
  slots : q.slot? = p.slot?
  keeps : q.keeps = p.keeps

/-- Resources are destroyed, tensors only when no algorithm binds them any more; in between there are
calls that leave objects alone, holders change and tensors are edited. -/
def Retires (life : d.Lifetimes) : Pool d.recorded → Pool d.recorded → Prop :=
  Relation.ReflTransGen fun p q => (∃ r, p.Unbound r ∧ q = p.destroy r) ∨ p.Rests life q

namespace Retires

theorem refl (p : Pool d.recorded) : p.Retires life p := Relation.ReflTransGen.refl

theorem of_rests (h : p.Rests life q) : p.Retires life q := .single (.inr h)

theorem destroy_of_unbound (free : p.Unbound r) : p.Retires life (p.destroy r) :=
  .single (.inl ⟨r, free, rfl⟩)

theorem trans (h : p.Retires life q) (h' : q.Retires life q') : p.Retires life q' :=
  Relation.ReflTransGen.trans h h'

theorem of_same (driver : q.env.driver = p.env.driver) (slots : q.slot? = p.slot?)
    (keeps : q.keeps = p.keeps) : p.Retires life q := by
  refine of_rests ⟨?_, slots, keeps⟩
  rw [driver]
  exact (Recorder.Idles.refl _).spares

theorem write (record : Log.Record) (p : Pool d.recorded) :
    p.Retires life (p.onEnv (.write record)) := of_same rfl rfl rfl

theorem withHeld (holders : List (String × ResourceId)) (p : Pool d.recorded) :
    p.Retires life (p.withHeld holders) := of_same rfl rfl rfl

theorem withEnv_of_spares {e : Env d.recorded.State} (h : p.env.driver.Spares life e.driver) :
    p.Retires life (p.withEnv e) := of_rests ⟨h, rfl, rfl⟩

theorem withEnv_of_idles {e : Env d.recorded.State} (h : p.env.driver.Idles life e.driver) :
    p.Retires life (p.withEnv e) := withEnv_of_spares h.spares

theorem keeps_eq (h : p.Retires life q) : q.keeps = p.keeps := by
  induction h with
  | refl => rfl
  | tail _ h ih =>
    rcases h with ⟨r, -, rfl⟩ | rests
    · exact (empties_destroy r _).keeps.trans ih
    · exact rests.keeps.trans ih

theorem mem_devices (h : p.Retires life q) : ∀ x ∈ p.env.driver.devices, x ∈ q.env.driver.devices := by
  induction h with
  | refl => exact fun _ => id
  | tail _ h ih =>
    intro x hx
    rcases h with ⟨r, -, rfl⟩ | rests
    · rw [devices_destroy]
      exact ih x hx
    · exact rests.driver.devices x (ih x hx)

theorem ordered (h : p.Retires life q) (hp : p.Ordered life) : q.Ordered life := by
  induction h with
  | refl => exact hp
  | tail _ h ih =>
    rcases h with ⟨r, free, rfl⟩ | rests
    · exact ih.destroy free
    · exact ih.of_spares rests.driver rests.slots rests.keeps

end Retires

/-- What is unbound stays so when something is destroyed. -/
theorem Unbound.of_destroys (h : p.Unbound r) (hq : p.Destroys q) : q.Unbound r := by
  intro t ht a keeps
  rw [hq.keeps_eq] at keeps
  exact hq.isInit_eq_false (h t ht a keeps)

theorem retires_destroyEach (free : ∀ r ∈ l, p.Unbound r) :
    p.Retires life (p.destroyEach l) := by
  induction l generalizing p with
  | nil => exact .refl p
  | cons r l ih =>
    have first : p.Retires life _ := .destroy_of_unbound (free r List.mem_cons_self)
    exact first.trans (ih fun r' hr' =>
      (free r' (List.mem_cons_of_mem _ hr')).of_destroys (.of_destroy r p))

/-! ### Letting go -/

/-- The tensors of a resource that only it held. -/
def orphans (p : Pool d) : ResourceId → List ResourceId
  | .algorithm i =>
    (((p.algorithms[i]?).elim [] (·.tensors)).map .tensor).filter fun t => !p.isHeld t
  | _ => []

theorem foldl_reapTensor_eq (tensors : List Nat) (p : Pool d) : tensors.foldl reapTensor p =
    p.destroyEach ((tensors.map .tensor).filter fun t => !p.isHeld t) := by
  induction tensors generalizing p with
  | nil => rfl
  | cons i tensors ih =>
    rw [List.foldl_cons, List.map_cons, ih]
    by_cases held : p.isHeld (.tensor i)
    · rw [reapTensor, if_pos held, List.filter_cons_of_neg (by simp [held])]
    · rw [reapTensor, if_neg held, List.filter_cons_of_pos (by simp [held])]
      have same : (p.destroyTensor i).isHeld = p.isHeld := (empties_destroy (.tensor i) p).isHeld
      rw [same]
      rfl

/-- What is let go of is destroyed, and then what only it held. -/
theorem reap_eq (r : ResourceId) (p : Pool d) :
    p.reap r = if p.isHeld r then p else p.destroyEach (r :: p.orphans r) := by
  unfold reap
  split
  · rfl
  · cases r with
    | tensor i | sequence i => rfl
    | algorithm i =>
      have same : (p.destroyAlgorithm i).isHeld = p.isHeld :=
        (empties_destroy (.algorithm i) p).isHeld
      dsimp only
      rw [foldl_reapTensor_eq, same]
      rfl

variable {old : ResourceId} {holders : List (String × ResourceId)}

/-- Holders are taken away from one resource only. A tensor that has none any more is bound by no
pipeline, if the resource has no pipeline. -/
theorem unbound_of_lost (kept : p.Kept) (hsub : ∀ x ∈ p.held, x ∈ holders ∨ x.2 = old)
    (hq : p.Destroys q) (gone : ∀ t, p.keeps t old → q.isInit old = false)
    (lost : (p.withHeld holders).isHeld r = false) : q.Unbound r := by
  rintro t rfl a keeps
  rw [hq.keeps_eq] at keeps
  by_contra init
  rw [Bool.not_eq_false] at init
  obtain ⟨x, hx, carries⟩ := isHeld_iff.1 (kept a (hq.isInit init))
  rcases carries with rfl | ⟨i, rfl, -⟩
  · rcases hsub x hx with hx | heq
    · have held : (p.withHeld holders).isHeld (.tensor t) :=
        isHeld_iff.2 ⟨x, hx, .inr ⟨t, rfl, keeps⟩⟩
      rw [lost] at held
      cases held
    · rw [heq] at keeps init
      rw [gone t keeps] at init
      cases init
  · cases keeps

theorem Unbound.withHeld (h : p.Unbound r) (holders : List (String × ResourceId)) :
    (p.withHeld holders).Unbound r := by
  intro t ht a keeps
  rw [isInit_withHeld]
  exact h t ht a keeps

/-- **An algorithm goes before the tensors that are let go of with it.** -/
theorem retires_reap (kept : p.Kept) (hsub : ∀ x ∈ p.held, x ∈ holders ∨ x.2 = old) :
    p.Retires life ((p.withHeld holders).reap old) := by
  rw [reap_eq]
  split
  · exact .withHeld holders p
  · next lost =>
    rw [Bool.not_eq_true] at lost
    have first : p.Unbound old := by
      rintro t rfl
      exact unbound_of_lost kept hsub (.refl p) nofun lost t rfl
    refine (Retires.withHeld holders p).trans
      ((Retires.destroy_of_unbound (first.withHeld holders)).trans (retires_destroyEach ?_))
    intro r hr
    have lost : (p.withHeld holders).isHeld r = false := by
      cases old with
      | algorithm i => simpa using (List.mem_filter.1 hr).2
      | tensor i | sequence i => cases hr
    have gone (t : Nat) (_ : p.keeps t old) := isInit_destroy old p
    rw [destroy_withHeld]
    exact (unbound_of_lost kept hsub (.of_destroy old p) gone lost).withHeld holders

end Pool

/-! ### Tearing down -/

namespace Manager

variable {m : Manager d.recorded} {p : Pool d.recorded}

/-- A manager tracks what binds tensors that it tracks, as far as this still has its pipeline. -/
def TracksBinding (m : Manager d) (p : Pool d) : Prop :=
  ∀ t a, m.Tracks (.tensor t) → p.keeps t a → p.isInit a → m.Tracks a

theorem retires_registered (kind : String) (identify : Nat → ResourceId) (r : Registry Nat)
    (p : Pool d.recorded) (free : ∀ i ∈ r.entries, p.Unbound (identify i)) :
    p.Retires life (destroyRegistered kind identify r p) := by
  obtain ⟨count, heq⟩ := Pool.destroyRegistered_eq kind identify r p
  rw [heq]
  refine (Pool.retires_destroyEach fun r' hr => ?_).trans (.write _ _)
  obtain ⟨i, hi, rfl⟩ := List.mem_map.1 (List.mem_filter.1 hr).1
  exact free i hi

/-- **A manager destroys its algorithms before the tensors that they bind.** -/
theorem retires_destroyTracked (kept : p.Kept) (h : m.TracksBinding p) :
    p.Retires life (m.destroyTracked p) := by
  let p₁ := destroyRegistered "sequences" .sequence m.sequences p
  let p₂ := destroyRegistered "algorithms" .algorithm m.algorithms p₁
  obtain ⟨destroys₁, -⟩ : p.Destroys p₁ ∧ _ := Session.destroys_registered _ _ _ p
  obtain ⟨destroys₂, gone⟩ := Session.destroys_registered "algorithms" .algorithm m.algorithms p₁
  have first : p.Retires life p₁ :=
    retires_registered _ _ _ p fun i _ => Pool.unbound_of_kind nofun
  have second : p₁.Retires life p₂ :=
    retires_registered _ _ _ p₁ fun i _ => Pool.unbound_of_kind nofun
  refine (first.trans second).trans (retires_registered "tensors" .tensor m.tensors p₂ ?_)
  rintro t ht _ ⟨⟩ a keeps
  have destroys : p.Destroys p₂ := destroys₁.trans destroys₂
  rw [destroys.keeps_eq] at keeps
  by_contra init
  rw [Bool.not_eq_false] at init
  have before := destroys.isInit init
  cases a with
  | algorithm i =>
    have held : p₁.isHeld (.algorithm i) := by
      rw [destroys₁.isHeld]
      exact kept _ before
    rw [gone i (h t _ ht keeps before) held] at init
    cases init
  | tensor i | sequence i => cases keeps

theorem retires_cleared (kept : p.Kept) (h : m.config.manageResources → m.TracksBinding p) :
    p.Retires life (Session.cleared m p) := by
  have started : p.Retires life _ := .write { level := .debug, message := "manager destroy started" } p
  unfold Session.cleared
  split
  · next manages => exact started.trans (retires_destroyTracked kept (h manages))
  · exact started

/-- **A teardown keeps to the order.** -/
theorem retires_destroy (kept : p.Kept)
    (h : m.config.manageResources → m.device.isSome → m.TracksBinding p)
    (known : ∀ device, m.device = some device → device.handle ∈ p.env.driver.devices) :
    p.Retires life (m.destroy p).2 := by
  cases hd : m.device with
  | none =>
    unfold Manager.destroy
    rw [hd]
    exact (Pool.Retires.write _ _).trans (.write _ _)
  | some device =>
    have clears : p.Retires life _ := retires_cleared kept fun manages => h manages (by simp [hd])
    rw [(Session.destroy_of_device hd p).2.2]
    exact clears.trans (.withEnv_of_spares (spares_shut (clears.mem_devices _ (known device hd))))

theorem retires_drop (kept : p.Kept)
    (h : m.config.manageResources → m.device.isSome → m.TracksBinding p)
    (known : ∀ device, m.device = some device → device.handle ∈ p.env.driver.devices) :
    p.Retires life (m.drop p) := by
  unfold Manager.drop
  split
  · exact .refl p
  · exact retires_destroy kept h known

end Manager

end GpuCompute
