import GpuCompute.Proofs.Vulkan.Calls

/-!
# Sequences of calls, and memory

Calls of the API one after the other are `Api.Calls P`, where `P` says which calls. A library that manages
the memory of devices only makes calls that handle memory, and its allocators stay with their devices:
this is all that is asked of it (`MemoryLibrary.Lawful`), and the driver's own library is one of this kind.
-/

namespace GpuCompute.Vulkan

variable {α : Type} {P Q : Request → Prop} {request : Request} {a a' a'' : Api} {error : Error}
  {device : Nat}

/-! ## Sequences -/

/-- Calls of the API one after the other, each of which satisfies `P`. -/
def Api.Calls (P : Request → Prop) : Api → Api → Prop :=
  Relation.ReflTransGen fun a a' => ∃ request outcome, P request ∧ Api.Adds request outcome a a'

namespace Api

namespace Calls

theorem refl (a : Api) : Calls P a a := Relation.ReflTransGen.refl

theorem trans (a a' a'' : Api) (h : Calls P a a') (h' : Calls P a' a'') : Calls P a a'' :=
  Relation.ReflTransGen.trans h h'

theorem of_adds {outcome : Outcome} (h : Adds request outcome a a') (hP : P request) : Calls P a a' :=
  .single ⟨request, outcome, hP, h⟩

theorem of_call (hP : P request) (a : Api) : Calls P a (a.call request) := of_adds (adds_call request a) hP

theorem mono (h : Calls P a a') (hPQ : ∀ request, P request → Q request) : Calls Q a a' := by
  refine Relation.ReflTransGen.mono ?_ _ _ h
  rintro a a' ⟨request, outcome, hP, adds⟩
  exact ⟨request, outcome, hPQ _ hP, adds⟩

/-- What each call preserves is preserved by any number of them. -/
theorem induct {R : Api → Api → Prop} (h : Calls P a a') (start : R a a)
    (step : ∀ {a₁ a₂ request outcome}, R a a₁ → P request → Adds request outcome a₁ a₂ → R a a₂) :
    R a a' := by
  induction h with
  | refl => exact start
  | tail _ h ih =>
    obtain ⟨request, outcome, hP, adds⟩ := h
    exact step ih hP adds

/-- What is added to the trace are these calls. -/
theorem exists_events (h : Calls P a a') :
    ∃ l : List Event, a'.trace = a.trace ++ l ∧ ∀ event ∈ l, P event.request := by
  refine h.induct (R := fun a a' => ∃ l : List Event, a'.trace = a.trace ++ l ∧
    ∀ event ∈ l, P event.request) ⟨[], (List.append_nil _).symm, nofun⟩ ?_
  rintro a₁ a₂ request outcome ⟨l, trace, all⟩ hP adds
  refine ⟨l ++ [⟨request, outcome⟩], by rw [adds.trace, trace, List.append_assoc], ?_⟩
  exact List.forall_mem_append.2 ⟨all, List.forall_mem_singleton.2 hP⟩

theorem host_eq (h : Calls P a a') : a'.host = a.host :=
  h.induct (R := fun a a' => a'.host = a.host) rfl fun ih _ adds => adds.host.trans ih

/-- Calls are added to the trace. -/
theorem prefix_trace (h : Calls P a a') : a.trace <+: a'.trace := by
  refine h.induct (R := fun a a' => a.trace <+: a'.trace) List.prefix_rfl fun ih _ adds => ?_
  rw [adds.trace]
  exact ih.trans (List.prefix_append _ _)

end Calls

/-! ## Single calls -/

theorem calls_check (hP : P request) (fault : ResultCode → Error) :
    Attempt.Leaves (Calls P) (check request fault) := by
  refine .of_cases (fun a _ a' h => .of_adds (check_ok h) hP) (fun a error a' h => ?_)
  obtain ⟨code, adds⟩ := check_error h
  exact .of_adds adds hP

theorem calls_make (hP : P request) : Attempt.Leaves (Calls P) (make request) := by
  intro a
  obtain ⟨outcome, adds⟩ := adds_make request a
  exact .of_adds adds hP

theorem calls_makePipeline {what : Creation} (hP : P (.create device what))
    (hdestroy : ∀ id, P (.destroy device .pipeline id)) :
    Attempt.Leaves (Calls P) (makePipeline device what) := by
  refine .of_cases (fun a id a' h => .of_adds (makePipeline_ok h) hP) (fun a error a' h => ?_)
  rcases makePipeline_error h with ⟨code, adds⟩ | ⟨id, code, a₁, adds, rfl⟩
  · exact .of_adds adds hP
  · exact .trans _ _ _ (.of_adds adds hP) (.of_call (hdestroy id) a₁)

theorem calls_modify (hP : P request) :
    Attempt.Leaves (Calls P) (modify (call request) : Attempt Api Unit) :=
  .change (Calls.of_call hP)

end Api

open Api

/-! ## Memory -/

/-- A question about the memory of an adapter. -/
def Request.OfAdapter (inst : Nat) (adapter : AdapterHandle) (request : Request) : Prop :=
  request ∈ [.adapterMemory inst adapter, .adapterProperties inst adapter]

/-- A call that handles blocks of memory of a device. -/
def Request.OfMemory (device : Nat) (request : Request) : Prop :=
  request ∈ [.allocateMemory device, .mapMemory device, .unmapMemory device, .freeMemory device]

/-- A call that gives a block of memory of a device back. -/
def Request.Frees (device : Nat) (request : Request) : Prop :=
  request ∈ [.unmapMemory device, .freeMemory device]

theorem Request.Frees.ofMemory (h : request.Frees device) : request.OfMemory device := by
  simp only [Request.Frees, List.mem_cons, List.not_mem_nil, or_false] at h
  obtain rfl | rfl := h <;> simp [Request.OfMemory]

/-- What is known of a library that manages memory: an allocator stays with the device that it was made
for, and the calls that the library makes are questions about the adapter at first, and then such as
handle memory of the device. -/
class MemoryLibrary.Lawful (M : MemoryLibrary) : Prop where
  device_newAllocator : ∀ {inst adapter device m a a'},
    M.newAllocator inst adapter device a = .ok m a' → m.device = device
  device_allocate : ∀ {r m m' allocation a a'},
    M.allocate r m a = .ok (allocation, m') a' → m'.device = m.device
  device_free : ∀ {allocation m m' a a'},
    M.free allocation m a = .ok (m', a') → m'.device = m.device
  calls_newAllocator : ∀ inst adapter device,
    Attempt.Leaves (Calls (Request.OfAdapter inst adapter)) (M.newAllocator inst adapter device)
  calls_allocate : ∀ r m, Attempt.Leaves (Calls (Request.OfMemory m.device)) (M.allocate r m)
  calls_free : ∀ {allocation m m' a a'},
    M.free allocation m a = .ok (m', a') → Calls (Request.Frees m.device) a a'
  calls_close : ∀ m a, Calls (Request.Frees m.device) a (M.close m a)

/-! ## The driver's own library -/

theorem calls_mapBlock (device : Nat) :
    Attempt.Leaves (Calls (Request.OfMemory device)) (MemoryPool.mapBlock device) :=
  .bind Calls.trans (calls_check (by simp [Request.OfMemory]) _) fun _ =>
    .undoing Calls.trans (calls_check (by simp [Request.OfMemory]) _)
      (Calls.of_call (by simp [Request.OfMemory]))

theorem calls_unmapBlock (device : Nat) (a : Api) :
    Calls (Request.Frees device) a (MemoryPool.unmapBlock device a) :=
  .trans _ _ _ (.of_call (by simp [Request.Frees]) a) (.of_call (by simp [Request.Frees]) _)

theorem calls_allocatePool (device size alignment : Nat) (p : MemoryPool) :
    Attempt.Leaves (Calls (Request.OfMemory device)) (p.allocate device size alignment) := by
  unfold MemoryPool.allocate
  split
  · exact .bind Calls.trans (calls_mapBlock device) fun _ => .pure Calls.refl _
  · split
    · exact .pure Calls.refl _
    · exact .bind Calls.trans (calls_mapBlock device) fun _ => .pure Calls.refl _

theorem Allocator.calls_allocateIn (type : Nat) (r : Requirements) (m : Allocator) :
    Attempt.Leaves (Calls (Request.OfMemory m.device)) (m.allocateIn type r) := by
  unfold Allocator.allocateIn
  cases m.pools[type]? with
  | none => exact .throw Calls.refl _
  | some pool =>
    exact .bind Calls.trans (calls_allocatePool _ _ _ pool) fun _ => .pure Calls.refl _

theorem Allocator.calls_allocate (r : Requirements) (m : Allocator) :
    Attempt.Leaves (Calls (Request.OfMemory m.device)) (m.allocate r) := by
  unfold Allocator.allocate
  split
  · exact .throw Calls.refl _
  · cases (m.findType? preferredFlags r).or (m.findType? requiredFlags r) with
    | none => exact .throw Calls.refl _
    | some type =>
      refine .otherwise Calls.trans ?_ ?_
      · split
        · exact .throw Calls.refl _
        · exact Allocator.calls_allocateIn type r m
      · cases m.findType? requiredFlags r with
        | none => exact .throw Calls.refl _
        | some type => exact Allocator.calls_allocateIn type r m

theorem calls_freePool {block chunk : Nat} {p p' : MemoryPool}
    (h : p.free device block chunk a = .ok (p', a')) : Calls (Request.Frees device) a a' := by
  unfold MemoryPool.free at h
  cases hb : p.blocks[block]?.join with
  | none =>
    rw [hb] at h
    cases h
  | some b =>
    rw [hb] at h
    cases hg : b.giveBack chunk with
    | error fault => simp [hg, bind, Except.bind] at h
    | ok b' =>
      simp only [hg, bind, Except.bind, pure, Except.pure] at h
      split at h <;> cases h
      · exact calls_unmapBlock device a
      · exact .refl a

theorem Allocator.calls_free {allocation : Allocation} {m m' : Allocator}
    (h : m.free allocation a = .ok (m', a')) : Calls (Request.Frees m.device) a a' := by
  unfold Allocator.free at h
  cases hp : m.pools[allocation.pool]? with
  | none =>
    rw [hp] at h
    cases h
  | some pool =>
    rw [hp] at h
    cases hf : pool.free m.device allocation.block allocation.chunk a with
    | error fault => simp [hf, bind, Except.bind] at h
    | ok freed =>
      obtain ⟨pool', a₁⟩ := freed
      simp only [hf, bind, Except.bind, pure, Except.pure, Except.ok.injEq, Prod.mk.injEq] at h
      obtain ⟨-, rfl⟩ := h
      exact calls_freePool hf

theorem Allocator.calls_close (m : Allocator) (a : Api) :
    Calls (Request.Frees m.device) a (m.close a) := by
  unfold Allocator.close
  generalize List.range m.blockCount = blocks
  induction blocks generalizing a with
  | nil => exact .refl a
  | cons _ blocks ih => exact .trans _ _ _ (calls_unmapBlock m.device a) (ih _)

theorem Allocator.forDevice_ok {inst : Nat} {adapter : AdapterHandle} {m : Allocator}
    (h : forDevice inst adapter device a = .ok m a') :
    m = .ofMemory device a.host.memory ∧
      a' = (a.call (.adapterMemory inst adapter)).call (.adapterProperties inst adapter) := by
  unfold forDevice at h
  split at h <;> cases h
  exact ⟨rfl, rfl⟩

theorem Allocator.calls_forDevice (inst : Nat) (adapter : AdapterHandle) (device : Nat) :
    Attempt.Leaves (Calls (Request.OfAdapter inst adapter)) (forDevice inst adapter device) := by
  have asks {request : Request} (h : request.OfAdapter inst adapter) :
      Attempt.Leaves (Calls (Request.OfAdapter inst adapter))
        (modify (Api.call request) : Attempt Api Unit) := calls_modify h
  unfold forDevice
  split
  · exact .throw Calls.refl _
  · exact .bind Calls.trans (asks (by simp [Request.OfAdapter])) fun _ =>
      .bind Calls.trans (asks (by simp [Request.OfAdapter])) fun _ =>
        .bind Calls.trans (fun a => .refl a) fun _ => .pure Calls.refl _

theorem Allocator.device_allocateIn {type : Nat} {r : Requirements} {a a' : Allocator}
    {api api' : Api}
    {allocation : Allocation} (h : a.allocateIn type r api = .ok (allocation, a') api') :
    a'.device = a.device := by
  unfold Allocator.allocateIn at h
  cases hp : a.pools[type]? with
  | none =>
    rw [hp] at h
    cases h
  | some pool =>
    rw [hp] at h
    obtain ⟨placed, api₁, -, h⟩ := Attempt.bind_eq_ok.1 h
    cases h
    rfl

theorem Allocator.device_allocate {r : Requirements} {a a' : Allocator} {api api' : Api}
    {allocation : Allocation} (h : a.allocate r api = .ok (allocation, a') api') :
    a'.device = a.device := by
  unfold Allocator.allocate at h
  split at h
  · cases h
  · cases ht : (a.findType? preferredFlags r).or (a.findType? requiredFlags r) with
    | none =>
      rw [ht] at h
      cases h
    | some type =>
      rw [ht] at h
      rcases Attempt.otherwise_eq_ok.1 h with h | ⟨error, api₁, -, h⟩
      · split at h
        · cases h
        · exact Allocator.device_allocateIn h
      · cases hr : a.findType? requiredFlags r with
        | none =>
          rw [hr] at h
          cases h
        | some type =>
          rw [hr] at h
          exact Allocator.device_allocateIn h

theorem Allocator.device_free {allocation : Allocation} {a a' : Allocator} {api api' : Api}
    (h : a.free allocation api = .ok (a', api')) : a'.device = a.device := by
  unfold Allocator.free at h
  cases hp : a.pools[allocation.pool]? with
  | none => simp [hp] at h
  | some pool =>
    rw [hp] at h
    cases hf : pool.free a.device allocation.block allocation.chunk api with
    | error fault => simp [hf, bind, Except.bind] at h
    | ok freed =>
      simp only [hf, bind, Except.bind, pure, Except.pure, Except.ok.injEq, Prod.mk.injEq] at h
      rw [← h.1]

instance : MemoryLibrary.own.Lawful where
  device_newAllocator h := by rw [(Allocator.forDevice_ok h).1]; rfl
  device_allocate := Allocator.device_allocate
  device_free := Allocator.device_free
  calls_newAllocator := Allocator.calls_forDevice
  calls_allocate := Allocator.calls_allocate
  calls_free := Allocator.calls_free
  calls_close := Allocator.calls_close

end GpuCompute.Vulkan
