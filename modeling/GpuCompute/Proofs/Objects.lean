import GpuCompute.Manager
import GpuCompute.Proofs.Questions

/-!
# Resources as slots

Tensors, algorithms and sequences each have one object on a device: a buffer, a pipeline or a batch.
Here the three are looked at as one. `Pool.slot?` is the slot of a resource, `Driver.make` and
`Driver.unmake` are the calls that make and destroy an object, and the operations of a pool are
described by what they do to slots: one is given up (`Pool.destroy_cases`), or one is added
(`Pool.Adds`).
-/

namespace GpuCompute

variable {d : Driver}

/-! ## Objects -/

/-- An object of a resource on its device. -/
inductive Object (d : Driver)
  | buffer (b : d.Buffer)
  | pipeline (p : d.Pipeline)
  | batch (b : d.Batch)

/-- What a driver is asked to make on a device. -/
inductive Order (d : Driver)
  | buffer (size : UInt64) (usage : UInt32)
  | pipeline (what : PipelineDescriptor d.Buffer)
  | batch (family timestamps : UInt32)

/-- The buffers that an order binds. -/
def Order.binds : Order d → List d.Buffer
  | .pipeline what => what.bindings.map (·.buffer)
  | .buffer .. | .batch .. => []

namespace Driver

/-- Makes an object. -/
def make (d : Driver) (device : d.Device) : Order d → Act d.State (Object d)
  | .buffer size usage => .buffer <$> d.createBuffer device size usage
  | .pipeline what => .pipeline <$> d.createPipeline device what
  | .batch family timestamps => .batch <$> d.createBatch device family timestamps

/-- Destroys an object. -/
def unmake (d : Driver) (device : d.Device) : Object d → Env d.State → Env d.State
  | .buffer b => d.destroyBuffer device b
  | .pipeline p => d.destroyPipeline device p
  | .batch b => d.destroyBatch device b

/-- An object is given up: destroyed if its device is alive, and else only logged. -/
inductive GivesUp (device : d.Device) (x : Object d) (e : Env d.State) : Env d.State → Prop
  | destroyed (alive : d.isAlive device e.driver = true) (r : Log.Record) :
    GivesUp device x e ((d.unmake device x e).write r)
  | abandoned (gone : d.isAlive device e.driver = false) (r : Log.Record) :
    GivesUp device x e (e.write r)

end Driver

namespace Slot

variable {α : Type}

/-- A slot for objects of one kind as a slot for objects. -/
def as (kind : α → Object d) (s : Slot d α) : Slot d (Object d) := ⟨s.device, s.object.map kind⟩

@[simp] theorem device_as (kind : α → Object d) (s : Slot d α) : (s.as kind).device = s.device := rfl

@[simp] theorem object_as (kind : α → Object d) (s : Slot d α) :
    (s.as kind).object = s.object.map kind := rfl

/-- The slot without its object. -/
def emptied (s : Slot d α) : Slot d α := { s with object := none }

@[simp] theorem device_emptied (s : Slot d α) : s.emptied.device = s.device := rfl

@[simp] theorem object_emptied (s : Slot d α) : s.emptied.object = none := rfl

@[simp] theorem as_emptied (kind : α → Object d) (s : Slot d α) :
    s.emptied.as kind = (s.as kind).emptied := rfl

theorem emptied_of_none {s : Slot d α} (h : s.object = none) : s.emptied = s := by
  obtain ⟨device, object⟩ := s
  cases h
  rfl

theorem release_fst (how : Disposal d α) (s : Slot d α) (e : Env d.State) :
    (s.release how e).1 = s.emptied := by
  obtain ⟨device, _ | x⟩ := s <;> rfl

theorem givesUp_release {how : Disposal d α} {kind : α → Object d} {s : Slot d α} {x : Object d}
    (hd : ∀ device x, how.destroy device x = d.unmake device (kind x))
    (h : (s.as kind).object = some x) (e : Env d.State) :
    d.GivesUp s.device x e (s.release how e).2 := by
  obtain ⟨device, object⟩ := s
  obtain ⟨y, rfl, rfl⟩ := Option.map_eq_some_iff.1 h
  unfold release
  dsimp only
  split
  next alive =>
    rw [hd]
    exact .destroyed alive _
  next gone => exact .abandoned (Bool.not_eq_true _ ▸ gone) _

end Slot

/-! ## Slots -/

namespace Pool

variable {p p' p'' : Pool d} {r r' : ResourceId} {s : Slot d (Object d)}

/-- The slot of a resource. -/
def slot? (p : Pool d) : ResourceId → Option (Slot d (Object d))
  | .tensor i => (p.tensors[i]?).map fun t => t.buffer.as .buffer
  | .algorithm i => (p.algorithms[i]?).map fun a => a.pipeline.as .pipeline
  | .sequence i => (p.sequences[i]?).map fun s => s.batch.as .batch

theorem isInit_eq (p : Pool d) (r : ResourceId) :
    p.isInit r = (p.slot? r).any fun s => s.object.isSome := by
  cases r with
  | tensor i | algorithm i | sequence i =>
    simp only [isInit, slot?, Option.any_map]
    congr
    funext t
    simp [Tensor.isInit, Algorithm.isInit, Sequence.isInit, Slot.isInit]

theorem isInit_iff : p.isInit r ↔ ∃ s x, p.slot? r = some s ∧ s.object = some x := by
  rw [isInit_eq, Option.any_eq_true]
  constructor
  · rintro ⟨s, hs, h⟩
    obtain ⟨x, hx⟩ := Option.isSome_iff_exists.1 h
    exact ⟨s, x, hs, hx⟩
  · rintro ⟨s, x, hs, hx⟩
    exact ⟨s, hs, by simp [hx]⟩

/-! ## Giving up -/

/-- A list has at an index in use what is set there. -/
theorem getElem?_set_of_some {α : Type} {l : List α} {i : Nat} {a : α} (h : l[i]? = some a) (b : α) :
    (l.set i b)[i]? = some b :=
  List.getElem?_set_self (List.getElem?_eq_some_iff.1 h).1

/-- An edited tensor keeps its slot. -/
theorem slot?_set {i : Nat} {t t' : Tensor d} (h : p.tensors[i]? = some t)
    (buffer : t'.buffer = t.buffer) :
    ({ p with tensors := p.tensors.set i t' } : Pool d).slot? = p.slot? := by
  funext r
  cases r with
  | tensor j =>
    by_cases hij : i = j
    · subst hij
      simp only [slot?, getElem?_set_of_some h, h, Option.map_some, buffer]
    · simp only [slot?, List.getElem?_set_ne hij]
  | algorithm j | sequence j => rfl

/-- The slot of a resource is emptied, all else apart from the environment stays. -/
structure Empties (r : ResourceId) (p p' : Pool d) : Prop where
  slot : p'.slot? r = (p.slot? r).map Slot.emptied
  others : ∀ r', r' ≠ r → p'.slot? r' = p.slot? r'
  held : p'.held = p.held
  keeps : p'.keeps = p.keeps

theorem isHeld_congr (held : p'.held = p.held) (keeps : p'.keeps = p.keeps) :
    p'.isHeld = p.isHeld := by
  funext r
  unfold isHeld isNamed
  rw [held, keeps]

theorem Empties.isHeld (h : p.Empties r p') : p'.isHeld = p.isHeld := isHeld_congr h.held h.keeps

theorem destroyTensor_of_some {i : Nat} {t : Tensor d} (h : p.tensors[i]? = some t) :
    p.destroyTensor i = { p with
      env := (t.buffer.release t.disposal p.env).2
      tensors := p.tensors.set i { t with buffer := t.buffer.emptied } } := by
  unfold destroyTensor
  rw [h]
  simp only [Tensor.destroy, Slot.release_fst]

theorem destroyAlgorithm_of_some {i : Nat} {a : Algorithm d} (h : p.algorithms[i]? = some a) :
    p.destroyAlgorithm i = { p with
      env := (a.pipeline.release Algorithm.disposal p.env).2
      algorithms := p.algorithms.set i { a with pipeline := a.pipeline.emptied } } := by
  unfold destroyAlgorithm
  rw [h]
  simp only [Algorithm.destroy, Slot.release_fst]

theorem destroySequence_of_some {i : Nat} {q : Sequence d} (h : p.sequences[i]? = some q) :
    p.destroySequence i = { p with
      env := (q.batch.release q.disposal p.env).2
      sequences := p.sequences.set i { q with batch := q.batch.emptied } } := by
  unfold destroySequence
  rw [h]
  simp only [Sequence.destroy, Slot.release_fst]

/-- Whether an algorithm binds a tensor does not change when its pipeline is given up. -/
theorem keeps_destroyAlgorithm (i : Nat) (p : Pool d) : (p.destroyAlgorithm i).keeps = p.keeps := by
  cases h : p.algorithms[i]? with
  | none => simp only [destroyAlgorithm, h]
  | some a =>
    rw [destroyAlgorithm_of_some h]
    funext tensor r
    cases r with
    | tensor _ | sequence _ => rfl
    | algorithm j =>
      by_cases hij : i = j
      · subst hij
        simp only [keeps, getElem?_set_of_some h, h, Option.any_some]
      · simp only [keeps, List.getElem?_set_ne hij]

theorem empties_destroy (r : ResourceId) (p : Pool d) : p.Empties r (p.destroy r) := by
  cases r with
  | tensor i =>
    change p.Empties _ (p.destroyTensor i)
    cases h : p.tensors[i]? with
    | none => exact ⟨by simp [destroyTensor, slot?, h], by simp [destroyTensor, h],
        by simp [destroyTensor, h], by simp [destroyTensor, h]⟩
    | some t =>
      rw [destroyTensor_of_some h]
      refine ⟨?_, ?_, rfl, rfl⟩
      · simp only [slot?, getElem?_set_of_some h, h, Option.map_some, Slot.as_emptied]
      · rintro (j | j | j) hj
        · have : i ≠ j := fun h => hj (by rw [h])
          simp only [slot?, List.getElem?_set_ne this]
        · rfl
        · rfl
  | algorithm i =>
    change p.Empties _ (p.destroyAlgorithm i)
    cases h : p.algorithms[i]? with
    | none => exact ⟨by simp [destroyAlgorithm, slot?, h], by simp [destroyAlgorithm, h],
        by simp [destroyAlgorithm, h], by simp [destroyAlgorithm, h]⟩
    | some a =>
      have keeps := keeps_destroyAlgorithm i p
      rw [destroyAlgorithm_of_some h] at keeps ⊢
      refine ⟨?_, ?_, rfl, keeps⟩
      · simp only [slot?, getElem?_set_of_some h, h, Option.map_some, Slot.as_emptied]
      · rintro (j | j | j) hj
        · rfl
        · have : i ≠ j := fun h => hj (by rw [h])
          simp only [slot?, List.getElem?_set_ne this]
        · rfl
  | sequence i =>
    change p.Empties _ (p.destroySequence i)
    cases h : p.sequences[i]? with
    | none => exact ⟨by simp [destroySequence, slot?, h], by simp [destroySequence, h],
        by simp [destroySequence, h], by simp [destroySequence, h]⟩
    | some q =>
      rw [destroySequence_of_some h]
      refine ⟨?_, ?_, rfl, rfl⟩
      · simp only [slot?, getElem?_set_of_some h, h, Option.map_some, Slot.as_emptied]
      · rintro (j | j | j) hj
        · rfl
        · rfl
        · have : i ≠ j := fun h => hj (by rw [h])
          simp only [slot?, List.getElem?_set_ne this]

theorem givesUp_destroy {x : Object d} (h : p.slot? r = some s) (hx : s.object = some x) :
    d.GivesUp s.device x p.env (p.destroy r).env := by
  cases r with
  | tensor i =>
    obtain ⟨t, ht, rfl⟩ := Option.map_eq_some_iff.1 h
    rw [show p.destroy (.tensor i) = p.destroyTensor i from rfl, destroyTensor_of_some ht]
    exact Slot.givesUp_release (fun _ _ => rfl) hx _
  | algorithm i =>
    obtain ⟨a, ha, rfl⟩ := Option.map_eq_some_iff.1 h
    rw [show p.destroy (.algorithm i) = p.destroyAlgorithm i from rfl, destroyAlgorithm_of_some ha]
    exact Slot.givesUp_release (fun _ _ => rfl) hx _
  | sequence i =>
    obtain ⟨q, hq, rfl⟩ := Option.map_eq_some_iff.1 h
    rw [show p.destroy (.sequence i) = p.destroySequence i from rfl, destroySequence_of_some hq]
    exact Slot.givesUp_release (fun _ _ => rfl) hx _

/-- To destroy a resource whose object is gone does nothing. -/
theorem destroy_of_not_init (h : p.isInit r = false) : p.destroy r = p := by
  have same {α : Type} {l : List α} {i : Nat} {a : α} (h : l[i]? = some a) : l.set i a = l := by
    obtain ⟨hi, rfl⟩ := List.getElem?_eq_some_iff.1 h
    exact List.set_getElem_self hi
  cases r with
  | tensor i =>
    change p.destroyTensor i = p
    cases ht : p.tensors[i]? with
    | none => simp only [destroyTensor, ht]
    | some t =>
      simp only [isInit, ht, Option.any_some, Tensor.isInit, Slot.isInit,
        Option.isSome_eq_false_iff, Option.isNone_iff_eq_none] at h
      rw [destroyTensor_of_some ht, Slot.release_of_none h, Slot.emptied_of_none h, same ht]
  | algorithm i =>
    change p.destroyAlgorithm i = p
    cases ha : p.algorithms[i]? with
    | none => simp only [destroyAlgorithm, ha]
    | some a =>
      simp only [isInit, ha, Option.any_some, Algorithm.isInit, Slot.isInit,
        Option.isSome_eq_false_iff, Option.isNone_iff_eq_none] at h
      rw [destroyAlgorithm_of_some ha, Slot.release_of_none h, Slot.emptied_of_none h, same ha]
  | sequence i =>
    change p.destroySequence i = p
    cases hq : p.sequences[i]? with
    | none => simp only [destroySequence, hq]
    | some q =>
      simp only [isInit, hq, Option.any_some, Sequence.isInit, Slot.isInit,
        Option.isSome_eq_false_iff, Option.isNone_iff_eq_none] at h
      rw [destroySequence_of_some hq, Slot.release_of_none h, Slot.emptied_of_none h, same hq]

/-- What destroying a resource does to the environment. -/
theorem destroy_cases (r : ResourceId) (p : Pool d) :
    (p.isInit r = false ∧ (p.destroy r).env = p.env) ∨
      ∃ s x, p.slot? r = some s ∧ s.object = some x ∧
        d.GivesUp s.device x p.env (p.destroy r).env := by
  cases h : p.isInit r with
  | false => exact .inl ⟨rfl, congrArg Pool.env (destroy_of_not_init h)⟩
  | true =>
    obtain ⟨s, x, hs, hx⟩ := isInit_iff.1 h
    exact .inr ⟨s, x, hs, hx, givesUp_destroy hs hx⟩

/-- What destroying a resource does to the driver: nothing, if there is no object whose device is alive,
and else it destroys the object. -/
theorem driver_destroy (r : ResourceId) (p : Pool d) :
    ((p.destroy r).env.driver = p.env.driver ∧
      ∀ s x, p.slot? r = some s → s.object = some x → d.isAlive s.device p.env.driver = false) ∨
    ∃ s x, p.slot? r = some s ∧ s.object = some x ∧ d.isAlive s.device p.env.driver = true ∧
      (p.destroy r).env.driver = (d.unmake s.device x p.env).driver := by
  rcases destroy_cases r p with ⟨hinit, henv⟩ | ⟨s, x, hs, hx, hgives⟩
  · refine .inl ⟨by rw [henv], fun s x hs hx => ?_⟩
    rw [isInit_iff.2 ⟨s, x, hs, hx⟩] at hinit
    cases hinit
  · generalize (p.destroy r).env = env at hgives
    cases hgives with
    | destroyed alive record => exact .inr ⟨s, x, hs, hx, alive, rfl⟩
    | abandoned gone record =>
      refine .inl ⟨rfl, fun s' x' hs' _ => ?_⟩
      rw [hs, Option.some.injEq] at hs'
      exact hs' ▸ gone

/-! ## Making -/

/-- The pool in another environment. -/
def withEnv (e : Env d.State) (p : Pool d) : Pool d := { p with env := e }

@[simp] theorem env_withEnv (e : Env d.State) (p : Pool d) : (p.withEnv e).env = e := rfl

@[simp] theorem held_withEnv (e : Env d.State) (p : Pool d) : (p.withEnv e).held = p.held := rfl

@[simp] theorem slot?_withEnv (e : Env d.State) (p : Pool d) : (p.withEnv e).slot? = p.slot? := rfl

@[simp] theorem isHeld_withEnv (e : Env d.State) (p : Pool d) : (p.withEnv e).isHeld = p.isHeld := rfl

/-- A resource is added in a new slot; nothing else changes in the slots, and the others bind what they
did. -/
structure Adds (r : ResourceId) (s : Slot d (Object d)) (p p' : Pool d) : Prop where
  fresh : p.slot? r = none
  slot : p'.slot? r = some s
  others : ∀ r', r' ≠ r → p'.slot? r' = p.slot? r'
  held : p'.held = p.held
  isHeld : ∀ r', p.isHeld r' → p'.isHeld r'
  keeps : ∀ r', r' ≠ r → ∀ t, p'.keeps t r' = p.keeps t r'

/-- A resource is made: its object on a device, and the slot for it. -/
def Makes (device : d.Device) (order : Order d) (r : ResourceId) (p p' : Pool d) : Prop :=
  ∃ e₁ x e₂, d.Asked Driver.nothing Driver.nothing p.env e₁ ∧
    d.make device order e₁ = .ok x e₂ ∧ d.Asked Driver.nothing Driver.nothing e₂ p'.env ∧
    p.Adds r ⟨device, some x⟩ p'

/-- A resource cannot be made: it is not asked for, or the driver refuses. -/
inductive Refuses (device : d.Device) (order : Order d) (p : Pool d) : Pool d → Prop
  | asking {e : Env d.State} (h : d.Asked Driver.nothing Driver.nothing p.env e) :
    Refuses device order p (p.withEnv e)
  | making {e₁ e : Env d.State} {error : Error}
    (asked : d.Asked Driver.nothing Driver.nothing p.env e₁)
    (failed : d.make device order e₁ = .error error e) : Refuses device order p (p.withEnv e)

/-- An order binds only buffers of the given tensors. -/
def BindsOnly (p : Pool d) (tensors : List Nat) (order : Order d) : Prop :=
  ∀ b ∈ order.binds, ∃ i ∈ tensors, ∃ s, p.slot? (.tensor i) = some s ∧ s.object = some (.buffer b)

end Pool

end GpuCompute
