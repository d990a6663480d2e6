import GpuCompute.Proofs.Moves
import GpuCompute.Proofs.Recording
import Mathlib.Data.List.Forall2

/-!
# Making resources

The methods by which a manager makes a tensor, an algorithm or a sequence all do the same: they check
the request, have the driver make one object, put it into a slot of its own, and track the resource if
the manager manages resources. `Pool.Orders` says this of the part that calls the driver and
`Session.Produces` of the whole.
-/

namespace GpuCompute

variable {d : Driver}

/-- The binding of a tensor's buffer, if it is still there. -/
def Tensor.binding? (t : Tensor d) : Option (Binding d.Buffer) := t.buffer.object.map t.binding

namespace Pool

variable {p p' : Pool d} {r : ResourceId}

variable {device : d.Device} {error : Error}

/-- A list has at an index what it had before an entry was added at its end. -/
theorem getElem?_append_of_ne {α : Type} {l : List α} {i : Nat} (h : i ≠ l.length) (a : α) :
    (l ++ [a])[i]? = l[i]? := by
  rw [List.getElem?_append]
  split
  · rfl
  · rw [List.getElem?_eq_none (by simp; omega), List.getElem?_eq_none (by omega)]

theorem adds_tensor (t : Tensor d) (e : Env d.State) (p : Pool d) :
    p.Adds (.tensor p.tensors.length) (t.buffer.as .buffer)
      { p with env := e, tensors := p.tensors ++ [t] } where
  fresh := by simp [slot?]
  slot := by simp [slot?]
  others r h := by
    cases r with
    | tensor i =>
      have hi : i ≠ p.tensors.length := fun hi => h (by rw [hi])
      simp only [slot?, getElem?_append_of_ne hi]
    | algorithm i | sequence i => rfl
  held := rfl
  isHeld _ h := h
  keeps _ _ _ := rfl

theorem adds_algorithm (a : Algorithm d) (e : Env d.State) (p : Pool d) :
    p.Adds (.algorithm p.algorithms.length) (a.pipeline.as .pipeline)
      { p with env := e, algorithms := p.algorithms ++ [a] } where
  fresh := by simp [slot?]
  slot := by simp [slot?]
  others r h := by
    cases r with
    | algorithm i =>
      have hi : i ≠ p.algorithms.length := fun hi => h (by rw [hi])
      simp only [slot?, getElem?_append_of_ne hi]
    | tensor i | sequence i => rfl
  held := rfl
  isHeld r h := by
    unfold isHeld at h ⊢
    rw [Bool.or_eq_true] at h ⊢
    refine h.imp id fun h => ?_
    cases r with
    | tensor i =>
      refine List.any_eq_true.2 ?_
      obtain ⟨x, hx, hkeeps⟩ := List.any_eq_true.1 h
      refine ⟨x, hx, ?_⟩
      generalize x.2 = r at hkeeps
      cases r with
      | algorithm j =>
        obtain ⟨b, hb, hc⟩ := (Option.any_eq_true _ _).1 hkeeps
        refine (Option.any_eq_true _ _).2 ⟨b, ?_, hc⟩
        rw [List.getElem?_append_left (List.getElem?_eq_some_iff.1 hb).1, hb]
      | tensor _ | sequence _ => exact hkeeps
    | algorithm i | sequence i => exact h
  keeps r h t := by
    cases r with
    | algorithm i =>
      have hi : i ≠ p.algorithms.length := fun hi => h (by rw [hi])
      simp only [keeps, getElem?_append_of_ne hi]
    | tensor i | sequence i => rfl

theorem adds_sequence (q : Sequence d) (e : Env d.State) (p : Pool d) :
    p.Adds (.sequence p.sequences.length) (q.batch.as .batch)
      { p with env := e, sequences := p.sequences ++ [q] } where
  fresh := by simp [slot?]
  slot := by simp [slot?]
  others r h := by
    cases r with
    | sequence i =>
      have hi : i ≠ p.sequences.length := fun hi => h (by rw [hi])
      simp only [slot?, getElem?_append_of_ne hi]
    | tensor i | algorithm i => rfl
  held := rfl
  isHeld _ h := h
  keeps _ _ _ := rfl

/-- An action that makes one object on a device and puts it into a slot. -/
structure Orders {α : Type} (device : d.Device) (order : Order d) (slot : α → Slot d (Object d))
    (act : Act d.State α) : Prop where
  ok : ∀ {e a e'}, act e = .ok a e' → ∃ x e₁, d.make device order e = .ok x e₁ ∧
    d.Asked Driver.nothing Driver.nothing e₁ e' ∧ slot a = ⟨device, some x⟩
  error : ∀ {e error e'}, act e = .error error e' → d.make device order e = .error error e'

theorem orders_of_calls {α β : Type} {device : d.Device} {order : Order d} {kind : β → Object d}
    {slot : α → Slot d (Object d)} {call : Act d.State β} {record : Log.Record} {result : β → α}
    (hcall : d.make device order = kind <$> call)
    (hslot : ∀ x, slot (result x) = ⟨device, some (kind x)⟩) :
    Orders device order slot do
      let x ← call
      Act.write record
      return result x where
  ok h := by
    obtain ⟨x, e₁, made, h⟩ := Attempt.bind_eq_ok.1 h
    cases h
    exact ⟨kind x, e₁, hcall ▸ Attempt.map_eq_ok.2 ⟨x, made, rfl⟩, .write _ _, hslot x⟩
  error h := by
    rcases Attempt.bind_eq_error.1 h with failed | ⟨x, e₁, _, h⟩
    · exact hcall ▸ Attempt.map_eq_error.2 failed
    · cases h

theorem Orders.makes {α : Type} {order : Order d} {slot : α → Slot d (Object d)}
    {act : Act d.State α} (h : Orders device order slot act) {a : α}
    (created : act p.env = .ok a p'.env) (adds : p.Adds r (slot a) p') :
    p.Makes device order r p' := by
  obtain ⟨x, e₁, made, asked, hslot⟩ := h.ok created
  exact ⟨p.env, x, e₁, .refl _, made, asked, hslot ▸ adds⟩

/-! ## Tensors -/

theorem tensor_create_eq (device : d.Device) (bytes : List UInt8) (count size : UInt64)
    (dataType : DataType) :
    (∃ error, Tensor.create device bytes count size dataType = throw error) ∨
      Orders device (.buffer (.ofNat bytes.length) Tensor.bufferUsage)
        (fun t => t.buffer.as .buffer) (Tensor.create device bytes count size dataType) := by
  unfold Tensor.create
  split
  · exact .inl ⟨_, rfl⟩
  · exact .inr (orders_of_calls rfl fun _ => rfl)

theorem addTensor_ok {bytes : List UInt8} {count size : UInt64} {dataType : DataType} {i : Nat}
    (h : addTensor device bytes count size dataType p = .ok i p') :
    p.Makes device (.buffer (.ofNat bytes.length) Tensor.bufferUsage) (.tensor i) p' := by
  obtain ⟨t, p₁, h₁, h⟩ := Attempt.bind_eq_ok.1 h
  obtain ⟨e, created, rfl⟩ := Attempt.within_eq_ok.1 h₁
  cases h
  rcases tensor_create_eq device bytes count size dataType with ⟨error, hthrow⟩ | orders
  · rw [hthrow] at created
    cases created
  · exact orders.makes created (adds_tensor t e p)

theorem addTensor_error {bytes : List UInt8} {count size : UInt64} {dataType : DataType}
    (h : addTensor device bytes count size dataType p = .error error p') :
    p.Refuses device (.buffer (.ofNat bytes.length) Tensor.bufferUsage) p' := by
  rcases Attempt.bind_eq_error.1 h with h₁ | ⟨t, p₁, h₁, h⟩
  · obtain ⟨e, created, rfl⟩ := Attempt.within_eq_error.1 h₁
    rcases tensor_create_eq device bytes count size dataType with ⟨error', hthrow⟩ | orders
    · rw [hthrow] at created
      cases created
      exact .asking (.refl _)
    · exact .making (.refl _) (orders.error created)
  · cases h

/-! ## Algorithms -/

/-- Where all tensors have their buffers, these are what the slots are found to hold. -/
theorem forall₂_guards {find? : Nat → Option (Tensor d)} {position : Nat} {tensors : List Nat}
    {guards : List (Option d.Buffer)} (h : Algorithm.guards find? position tensors = .ok guards) :
    List.Forall₂ (fun i guard => ∃ t buffer, find? i = some t ∧ t.buffer.object = some buffer ∧
      guard = some buffer) tensors guards := by
  induction tensors generalizing position guards with
  | nil =>
    cases h
    exact .nil
  | cons i tensors ih =>
    unfold Algorithm.guards at h
    split at h
    · cases h
    · next buffer hbuffer =>
      cases hrest : Algorithm.guards find? (position + 1) tensors with
      | error fault => simp [hrest, Except.map] at h
      | ok rest =>
        simp only [hrest, Except.map, Except.ok.injEq] at h
        subst h
        obtain ⟨t, ht, hobject⟩ := Option.bind_eq_some_iff.1 hbuffer
        exact .cons ⟨t, buffer, ht, hobject, rfl⟩ (ih hrest)

/-- No tensor is left out, and none takes the place of another: each is bound by its buffer, in order. -/
theorem forall₂_bindings {find? : Nat → Option (Tensor d)} {tensors : List Nat}
    {guards : List (Option d.Buffer)}
    (h : List.Forall₂ (fun i guard => ∃ t buffer, find? i = some t ∧ t.buffer.object = some buffer ∧
      guard = some buffer) tensors guards) :
    List.Forall₂ (fun i b => (find? i).bind Tensor.binding? = some b) tensors
      (Algorithm.bindings find? guards tensors) := by
  induction h with
  | nil => exact .nil
  | @cons i guard tensors guards there _ ih =>
    obtain ⟨t, buffer, ht, hobject, rfl⟩ := there
    have first : Algorithm.bindings find? (some buffer :: guards) (i :: tensors) =
        t.binding buffer :: Algorithm.bindings find? guards tensors := by
      simp [Algorithm.bindings, ht]
    rw [first]
    exact .cons (by simp [Tensor.binding?, ht, hobject]) ih

theorem forall₂_request {find? : Nat → Option (Tensor d)} {tensors : List Nat} {code : List UInt32}
    {workgroup : Extent} {pushConstants : List UInt8} {what : PipelineDescriptor d.Buffer}
    (h : Algorithm.request find? tensors code workgroup pushConstants = .ok what) :
    List.Forall₂ (fun i b => (find? i).bind Tensor.binding? = some b) tensors what.bindings := by
  unfold Algorithm.request at h
  iterate 4 (split at h; · cases h)
  cases hguards : Algorithm.guards find? 0 tensors with
  | error fault => simp [hguards, Except.map] at h
  | ok guards =>
    simp only [hguards, Except.map, Except.ok.injEq] at h
    subst h
    exact forall₂_bindings (forall₂_guards hguards)

theorem bindsOnly_request {tensors : List Nat} {code : List UInt32} {workgroup : Extent}
    {pushConstants : List UInt8} {what : PipelineDescriptor d.Buffer}
    (h : Algorithm.request (fun i => p.tensors[i]?) tensors code workgroup pushConstants = .ok what) :
    p.BindsOnly tensors (.pipeline what) := by
  intro buffer hbuffer
  obtain ⟨b, hb, rfl⟩ := List.mem_map.1 hbuffer
  obtain ⟨k, rfl⟩ := List.get_of_mem hb
  have bound := forall₂_request h
  have hk : k.1 < tensors.length := bound.length_eq.symm ▸ k.2
  obtain ⟨t, ht, hbinding⟩ := Option.bind_eq_some_iff.1 (bound.get hk k.2)
  obtain ⟨buffer, hobject, hb⟩ := Option.map_eq_some_iff.1 hbinding
  have same : buffer = (what.bindings.get k).buffer := congrArg (·.buffer) hb
  exact ⟨tensors.get ⟨k, hk⟩, List.get_mem _ _, t.buffer.as .buffer,
    by simp only [slot?, ht, Option.map_some], by simpa [hobject] using same⟩

theorem algorithm_create_eq (device : d.Device) (p : Pool d) (tensors : List Nat)
    (code : List UInt32) (workgroup : Extent) (pushConstants : List UInt8) :
    (∃ error, Algorithm.create device (fun i => p.tensors[i]?) tensors code workgroup pushConstants =
      throw error) ∨
      ∃ order, p.BindsOnly tensors order ∧ Orders device order (fun a => a.pipeline.as .pipeline)
        (Algorithm.create device (fun i => p.tensors[i]?) tensors code workgroup pushConstants) := by
  unfold Algorithm.create
  cases h : Algorithm.request (fun i => p.tensors[i]?) tensors code workgroup pushConstants with
  | error fault => exact .inl ⟨.invalidState fault, rfl⟩
  | ok what =>
    exact .inr ⟨.pipeline what, bindsOnly_request h, orders_of_calls rfl fun _ => rfl⟩

/-- An algorithm is made with the tensors that it was asked to bind. -/
theorem tensors_create {find? : Nat → Option (Tensor d)} {tensors : List Nat} {code : List UInt32}
    {workgroup : Extent} {pushConstants : List UInt8} {e e' : Env d.State} {a : Algorithm d}
    (h : Algorithm.create device find? tensors code workgroup pushConstants e = .ok a e') :
    a.tensors = tensors := by
  obtain ⟨what, e₁, -, h⟩ := Attempt.bind_eq_ok.1 h
  obtain ⟨pipeline, e₂, -, h⟩ := Attempt.bind_eq_ok.1 h
  obtain ⟨_, e₃, -, h⟩ := Attempt.bind_eq_ok.1 h
  cases h
  rfl

theorem addAlgorithm_ok {tensors : List Nat} {code : List UInt32} {workgroup : Extent}
    {pushConstants : List UInt8} {i : Nat}
    (h : addAlgorithm device tensors code workgroup pushConstants p = .ok i p') :
    ∃ order, p.BindsOnly tensors order ∧ p.Makes device order (.algorithm i) p' ∧
      ∀ t ∈ tensors, p'.keeps t (.algorithm i) := by
  rw [addAlgorithm, Attempt.get_bind] at h
  obtain ⟨a, p₁, h₁, h⟩ := Attempt.bind_eq_ok.1 h
  obtain ⟨e, created, rfl⟩ := Attempt.within_eq_ok.1 h₁
  have same := tensors_create created
  cases h
  obtain ⟨error, hthrow⟩ | ⟨order, binds, orders⟩ :=
    algorithm_create_eq device p tensors code workgroup pushConstants
  · rw [hthrow] at created
    cases created
  · refine ⟨order, binds, orders.makes created (adds_algorithm a e p), fun t ht => ?_⟩
    simp [keeps, same, ht]

theorem addAlgorithm_error {tensors : List Nat} {code : List UInt32} {workgroup : Extent}
    {pushConstants : List UInt8}
    (h : addAlgorithm device tensors code workgroup pushConstants p = .error error p') :
    ∃ order, p.BindsOnly tensors order ∧ p.Refuses device order p' := by
  rw [addAlgorithm, Attempt.get_bind] at h
  rcases Attempt.bind_eq_error.1 h with h₁ | ⟨t, p₁, h₁, h⟩
  · obtain ⟨e, created, rfl⟩ := Attempt.within_eq_error.1 h₁
    obtain ⟨error', hthrow⟩ | ⟨order, binds, orders⟩ :=
      algorithm_create_eq device p tensors code workgroup pushConstants
    · rw [hthrow] at created
      cases created
      exact ⟨.batch 0 0, by simp [BindsOnly, Order.binds], .asking (.refl _)⟩
    · exact ⟨order, binds, .making (.refl _) (orders.error created)⟩
  · cases h

/-! ## Sequences -/

theorem sequence_create_eq (device : d.Device) (adapter : AdapterHandle) (queue : Queue.Handle)
    (family timestamps : UInt32) :
    Orders device (.batch family timestamps) (fun q => q.batch.as .batch)
      (Sequence.create device adapter queue family timestamps) :=
  orders_of_calls rfl fun _ => rfl

theorem addSequence_ok {adapter : AdapterHandle} {queue : Queue.Handle} {family timestamps : UInt32}
    {i : Nat} (h : addSequence device adapter queue family timestamps p = .ok i p') :
    p.Makes device (.batch family timestamps) (.sequence i) p' := by
  obtain ⟨q, p₁, h₁, h⟩ := Attempt.bind_eq_ok.1 h
  obtain ⟨e, created, rfl⟩ := Attempt.within_eq_ok.1 h₁
  cases h
  exact (sequence_create_eq ..).makes created (adds_sequence q e p)

theorem addSequence_error {adapter : AdapterHandle} {queue : Queue.Handle}
    {family timestamps : UInt32}
    (h : addSequence device adapter queue family timestamps p = .error error p') :
    p.Refuses device (.batch family timestamps) p' := by
  rcases Attempt.bind_eq_error.1 h with h₁ | ⟨t, p₁, h₁, h⟩
  · obtain ⟨e, created, rfl⟩ := Attempt.within_eq_error.1 h₁
    exact .making (.refl _) ((sequence_create_eq ..).error created)
  · cases h

end Pool

/-! ## Methods of managers -/

/-- The kind of the objects of a resource. -/
def ResourceId.kind : ResourceId → Trace.Kind
  | .tensor _ => .buffer
  | .algorithm _ => .pipeline
  | .sequence _ => .batch

/-- The resources of a kind that a manager tracks, in order. -/
def Manager.tracked (m : Manager d) : Trace.Kind → List ResourceId
  | .buffer => m.tensors.entries.map .tensor
  | .pipeline => m.algorithms.entries.map .algorithm
  | .batch => m.sequences.entries.map .sequence

theorem Manager.tracks_iff {m : Manager d} {r : ResourceId} : m.Tracks r ↔ r ∈ m.tracked r.kind := by
  cases r <;> simp [Tracks, tracked, ResourceId.kind]

namespace Session

open Driver

variable {m : Manager d}

/-- A manager after it made a resource: if it manages resources, it tracks the new one, behind those of
its kind that it tracked before. -/
structure Registers (m : Manager d) (r : ResourceId) (m' : Manager d) : Prop where
  like : m.Like m'
  tracked : ∀ kind, m'.tracked kind =
    m.tracked kind ++ if m.config.manageResources ∧ r.kind = kind then [r] else []

namespace Registers

variable {m' : Manager d} {r : ResourceId}

theorem tracks_old (h : Registers m r m') (r' : ResourceId) (hr : m.Tracks r') : m'.Tracks r' := by
  rw [Manager.tracks_iff, h.tracked]
  exact List.mem_append_left _ (Manager.tracks_iff.1 hr)

theorem tracks_new (h : Registers m r m') (manages : m.config.manageResources) : m'.Tracks r := by
  rw [Manager.tracks_iff, h.tracked, if_pos ⟨manages, rfl⟩]
  exact List.mem_append_right _ (List.mem_singleton.2 rfl)

/-- A manager that does not manage resources goes on tracking none. -/
theorem tracked_of_passive (h : Registers m r m')
    (none : m.config.manageResources = false → ∀ kind, m.tracked kind = []) :
    m'.config.manageResources = false → ∀ kind, m'.tracked kind = [] := by
  intro passive kind
  rw [h.like.config] at passive
  rw [h.tracked, none passive, passive]
  rfl

end Registers

theorem registers_tensor (m : Manager d) (i : Nat) : Registers m (.tensor i)
    (if m.config.manageResources then { m with tensors := m.tensors.register i } else m) := by
  split
  · next h =>
    refine ⟨⟨rfl, rfl, rfl, rfl, rfl, rfl, rfl⟩, fun kind => ?_⟩
    cases kind <;> simp [Manager.tracked, Registry.register, ResourceId.kind, h]
  · next h => exact ⟨.refl m, fun kind => by simp [h]⟩

theorem registers_algorithm (m : Manager d) (i : Nat) : Registers m (.algorithm i)
    (if m.config.manageResources then { m with algorithms := m.algorithms.register i } else m) := by
  split
  · next h =>
    refine ⟨⟨rfl, rfl, rfl, rfl, rfl, rfl, rfl⟩, fun kind => ?_⟩
    cases kind <;> simp [Manager.tracked, Registry.register, ResourceId.kind, h]
  · next h => exact ⟨.refl m, fun kind => by simp [h]⟩

theorem registers_sequence (m : Manager d) (i : Nat) : Registers m (.sequence i)
    (if m.config.manageResources then { m with sequences := m.sequences.register i } else m) := by
  split
  · next h =>
    refine ⟨⟨rfl, rfl, rfl, rfl, rfl, rfl, rfl⟩, fun kind => ?_⟩
    cases kind <;> simp [Manager.tracked, Registry.register, ResourceId.kind, h]
  · next h => exact ⟨.refl m, fun kind => by simp [h]⟩

/-- A method of a manager that makes a resource of which the pipeline, if it is one, binds the given
tensors, which the resource keeps from then on. -/
structure Produces (m : Manager d) (identify : Nat → ResourceId) (tensors : List Nat)
    (act : Attempt (Pool d) (Nat × Manager d)) : Prop where
  ok : ∀ {p i m' p'}, act p = .ok (i, m') p' → ∃ device order, m.device = some device ∧
    p.BindsOnly tensors order ∧ p.Makes device.handle order (identify i) p' ∧
    Registers m (identify i) m' ∧ ∀ t ∈ tensors, p'.keeps t (identify i)
  error : ∀ {p error p'}, act p = .error error p' →
    (∃ e, d.Asked nothing nothing p.env e ∧ p' = p.withEnv e) ∨
      ∃ device order, m.device = some device ∧ p.BindsOnly tensors order ∧
        p.Refuses device.handle order p'

theorem liveDevice_ok {device : d.Device} (h : m.liveDevice = .ok device) :
    ∃ o, m.device = some o ∧ o.handle = device := by
  unfold Manager.liveDevice at h
  split at h
  · next o ho => exact ⟨o, ho, Except.ok.inj h⟩
  · cases h

theorem produces_of_live {identify : Nat → ResourceId} {tensors : List Nat}
    {add : d.Device → Attempt (Pool d) Nat} {register : Nat → Manager d}
    (hregister : ∀ i, Registers m (identify i) (register i))
    (ok : ∀ {device p i p'}, add device p = .ok i p' →
      ∃ order, p.BindsOnly tensors order ∧ p.Makes device order (identify i) p' ∧
        ∀ t ∈ tensors, p'.keeps t (identify i))
    (error : ∀ {device p error p'}, add device p = .error error p' →
      ∃ order, p.BindsOnly tensors order ∧ p.Refuses device order p') :
    Produces m identify tensors do
      let device ← Attempt.ofExcept m.liveDevice
      let i ← add device
      return (i, register i) where
  ok h := by
    obtain ⟨device, p₁, h₁, h⟩ := Attempt.bind_eq_ok.1 h
    obtain ⟨hlive, rfl⟩ := Attempt.ofExcept_eq_ok.1 h₁
    obtain ⟨o, ho, rfl⟩ := liveDevice_ok hlive
    obtain ⟨i, p₂, h₂, h⟩ := Attempt.bind_eq_ok.1 h
    cases h
    obtain ⟨order, binds, made, keeps⟩ := ok h₂
    exact ⟨o, order, ho, binds, made, hregister _, keeps⟩
  error h := by
    rcases Attempt.bind_eq_error.1 h with h₁ | ⟨device, p₁, h₁, h⟩
    · obtain ⟨-, rfl⟩ := Attempt.ofExcept_eq_error.1 h₁
      exact .inl ⟨_, .refl _, rfl⟩
    obtain ⟨hlive, rfl⟩ := Attempt.ofExcept_eq_ok.1 h₁
    obtain ⟨o, ho, rfl⟩ := liveDevice_ok hlive
    rcases Attempt.bind_eq_error.1 h with h₂ | ⟨i, p₂, h₂, h⟩
    · obtain ⟨order, binds, refused⟩ := error h₂
      exact .inr ⟨o, order, ho, binds, refused⟩
    · cases h

theorem bindsOnly_of_binds_nil {p : Pool d} {order : Order d} (h : order.binds = [])
    (tensors : List Nat) : p.BindsOnly tensors order := by
  intro b hb
  rw [h] at hb
  cases hb

theorem produces_tensorOfBytes (m : Manager d) (bytes : List UInt8) (count size : UInt64)
    (dataType : DataType) :
    Produces m .tensor [] (m.tensorOfBytes bytes count size dataType) :=
  produces_of_live (registers_tensor m)
    (fun h => ⟨_, bindsOnly_of_binds_nil rfl _, Pool.addTensor_ok h, List.forall_mem_nil _⟩)
    (fun h => ⟨_, bindsOnly_of_binds_nil rfl _, Pool.addTensor_error h⟩)

theorem produces_algorithmWith (m : Manager d) (tensors : List Nat) (code : List UInt32)
    (workgroup : Extent) (pushConstants : List UInt8) :
    Produces m .algorithm tensors (m.algorithmWith tensors code workgroup pushConstants) :=
  produces_of_live (registers_algorithm m) Pool.addAlgorithm_ok Pool.addAlgorithm_error

theorem produces_algorithm (m : Manager d) (tensors : List Nat) (code : List UInt32) :
    Produces m .algorithm tensors (m.algorithm tensors code) where
  ok h := by
    rw [Manager.algorithm, Attempt.get_bind] at h
    obtain ⟨workgroup, p₁, h₁, h₂⟩ := Attempt.bind_eq_ok.1 h
    obtain ⟨-, rfl⟩ := Attempt.ofExcept_eq_ok.1 h₁
    exact (produces_algorithmWith m tensors code workgroup []).ok h₂
  error h := by
    rw [Manager.algorithm, Attempt.get_bind] at h
    rcases Attempt.bind_eq_error.1 h with h₁ | ⟨workgroup, p₁, h₁, h₂⟩
    · obtain ⟨-, rfl⟩ := Attempt.ofExcept_eq_error.1 h₁
      exact .inl ⟨_, .refl _, rfl⟩
    · obtain ⟨-, rfl⟩ := Attempt.ofExcept_eq_ok.1 h₁
      exact (produces_algorithmWith m tensors code workgroup []).error h₂

/-- What is made after some questions is made. -/
theorem makes_of_asked {p p' : Pool d} {device : d.Device} {order : Order d} {r : ResourceId}
    {e : Env d.State} (asked : d.Asked nothing nothing p.env e)
    (h : (p.withEnv e).Makes device order r p') : p.Makes device order r p' := by
  obtain ⟨e₁, x, e₂, asked', made, again, adds⟩ := h
  exact ⟨e₁, x, e₂, asked.trans asked', made, again,
    ⟨adds.fresh, adds.slot, adds.others, adds.held, adds.isHeld, adds.keeps⟩⟩

theorem refuses_of_asked {p p' : Pool d} {device : d.Device} {order : Order d} {e : Env d.State}
    (asked : d.Asked nothing nothing p.env e) (h : (p.withEnv e).Refuses device order p') :
    p.Refuses device order p' := by
  cases h with
  | asking h => exact .asking (asked.trans h)
  | making asked' failed => exact .making (asked.trans asked') failed

theorem produces_sequence (m : Manager d) (index : UInt64) (timestamps : UInt32) :
    Produces m .sequence [] (m.sequence index timestamps) where
  ok {p i m' p'} h := by
    obtain ⟨_, p₁, h₁, h⟩ := Attempt.bind_eq_ok.1 h
    obtain ⟨e, hwrite, rfl⟩ := Attempt.within_eq_ok.1 h₁
    have asked : d.Asked nothing nothing p.env e := (onlyAsks_write _).of_ok hwrite
    obtain ⟨device, p₂, h₂, h⟩ := Attempt.bind_eq_ok.1 h
    obtain ⟨hlive, rfl⟩ := Attempt.ofExcept_eq_ok.1 h₂
    obtain ⟨o, ho, rfl⟩ := liveDevice_ok hlive
    obtain ⟨queue, p₃, h₃, h⟩ := Attempt.bind_eq_ok.1 h
    obtain ⟨-, rfl⟩ := Attempt.ofExcept_eq_ok.1 h₃
    obtain ⟨j, p₄, h₄, h⟩ := Attempt.bind_eq_ok.1 h
    cases h
    exact ⟨o, _, ho, bindsOnly_of_binds_nil rfl _, makes_of_asked asked (Pool.addSequence_ok h₄),
      registers_sequence m _, List.forall_mem_nil _⟩
  error {p error p'} h := by
    rcases Attempt.bind_eq_error.1 h with h₁ | ⟨_, p₁, h₁, h⟩
    · obtain ⟨e, hwrite, -⟩ := Attempt.within_eq_error.1 h₁
      cases hwrite
    obtain ⟨e, hwrite, rfl⟩ := Attempt.within_eq_ok.1 h₁
    have asked : d.Asked nothing nothing p.env e := (onlyAsks_write _).of_ok hwrite
    rcases Attempt.bind_eq_error.1 h with h₂ | ⟨device, p₂, h₂, h⟩
    · obtain ⟨-, rfl⟩ := Attempt.ofExcept_eq_error.1 h₂
      exact .inl ⟨e, asked, rfl⟩
    obtain ⟨hlive, rfl⟩ := Attempt.ofExcept_eq_ok.1 h₂
    obtain ⟨o, ho, rfl⟩ := liveDevice_ok hlive
    rcases Attempt.bind_eq_error.1 h with h₃ | ⟨queue, p₃, h₃, h⟩
    · obtain ⟨-, rfl⟩ := Attempt.ofExcept_eq_error.1 h₃
      exact .inl ⟨e, asked, rfl⟩
    obtain ⟨-, rfl⟩ := Attempt.ofExcept_eq_ok.1 h₃
    rcases Attempt.bind_eq_error.1 h with h₄ | ⟨j, p₄, h₄, h⟩
    · exact .inr ⟨o, _, ho, bindsOnly_of_binds_nil rfl _,
        refuses_of_asked asked (Pool.addSequence_error h₄)⟩
    · cases h

end Session

end GpuCompute
