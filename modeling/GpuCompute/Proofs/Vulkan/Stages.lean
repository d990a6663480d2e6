import GpuCompute.Proofs.Vulkan.Memory
import GpuCompute.Vulkan.CommandBatch
import GpuCompute.Vulkan.Pipeline

/-!
# Making in stages

Pipelines and command batches are made on a site, and when a part cannot be made, the routine that
destroys them takes down what is there (`assemble`). The routine looks at handles: a part whose handle is
null is not there. Since no call hands out the null handle, that comes to the same as taking each stage
back when a later one fails, the last stage first (`Pipeline.create_eq`, `CommandBatch.create_eq`).
-/

namespace GpuCompute.Vulkan

variable {α : Type} {device : Nat} {a a' : Api}

/-! ## Handles -/

/-- An attempt does not hand out the null handle. -/
def Api.Hands (act : Attempt Api Nat) : Prop := ∀ a handle a', act a = .ok handle a' → handle ≠ 0

theorem Api.next_ne_zero (a : Api) : a.next ≠ 0 := Nat.succ_ne_zero a.issued

theorem Api.Adds.ne_zero {request : Request} {outcome : Outcome} {id : Nat}
    (h : Adds request outcome a a') (hid : outcome.handle? = some id) : id ≠ 0 :=
  h.fresh id hid ▸ a.next_ne_zero

theorem Api.hands_make (request : Request) : Hands (make request) :=
  fun _ _ _ h => (make_ok h).ne_zero rfl

theorem Api.hands_makePipeline (device : Nat) (what : Creation) : Hands (makePipeline device what) :=
  fun _ _ _ h => (makePipeline_ok h).ne_zero rfl

theorem Api.destroyObject_of_ne_zero {kind : ObjectKind} {object : Nat} (h : object ≠ 0) :
    a.destroyObject device kind object = a.call (.destroy device kind object) := if_neg h

/-! ## Sites -/

section

variable {p : α} {takeDown : α → Api → Api} {put : α → Nat → α} {act : α → Attempt Api Nat}
  {undo : Nat → Api → Api} {build : Attempt (Site α) Unit} {next : Nat → Attempt Api α}

theorem assemble_done : assemble p takeDown (pure ()) = Attempt.undoing (takeDown p) (pure p) := rfl

/-- A stage, of which the routine takes down what `undo` takes back. -/
theorem assemble_fill (hands : Api.Hands (act p))
    (back : ∀ handle ≠ 0, ∀ a, takeDown (put p handle) a = takeDown p (undo handle a))
    (later : ∀ handle ≠ 0, assemble (put p handle) takeDown build =
      Attempt.undoing (takeDown (put p handle)) (next handle)) :
    assemble p takeDown (Site.fill put act >>= fun _ => build) =
      Attempt.undoing (takeDown p) (act p >>= fun handle =>
        Attempt.undoing (undo handle) (next handle)) := by
  funext a
  unfold Attempt.undoing
  simp only [assemble, bind, EStateM.bind, Site.fill]
  cases made : act p a with
  | error error a' => rfl
  | ok handle a' =>
    have rest := congrFun (later handle (hands _ _ _ made)) a'
    unfold Attempt.undoing at rest
    simp only [assemble] at rest ⊢
    rw [rest]
    cases next handle a' with
    | ok x b => rfl
    | error error b => simp only [back handle (hands _ _ _ made)]

/-- A stage that the routine does not take back. -/
theorem assemble_fill_kept (hands : Api.Hands (act p))
    (back : ∀ handle, takeDown (put p handle) = takeDown p)
    (later : ∀ handle ≠ 0, assemble (put p handle) takeDown build =
      Attempt.undoing (takeDown (put p handle)) (next handle)) :
    assemble p takeDown (Site.fill put act >>= fun _ => build) =
      Attempt.undoing (takeDown p) (act p >>= next) := by
  have kept : ∀ handle ≠ 0, ∀ a, takeDown (put p handle) a = takeDown p (id a) :=
    fun handle _ a => congrFun (back handle) a
  have stage := assemble_fill hands kept later
  simpa only [Attempt.undoing_id] using stage

/-- The last stage. -/
theorem assemble_last :
    assemble p takeDown (Site.fill put act) =
      Attempt.undoing (takeDown p) (act p >>= fun handle => pure (put p handle)) := by
  funext a
  unfold Attempt.undoing
  simp only [assemble, bind, EStateM.bind, Site.fill]
  cases act p a <;> rfl

/-- A call between two stages. -/
theorem assemble_call {request : α → Request} {next : Attempt Api α}
    (later : assemble p takeDown build = Attempt.undoing (takeDown p) next) :
    assemble p takeDown (Site.call request >>= fun _ => build) =
      Attempt.undoing (takeDown p) (modify (Api.call (request p)) >>= fun _ => next) :=
  funext fun a => congrFun later (a.call (request p))

end

/-! ## Pipelines -/

namespace Pipeline

/-- Makes a pipeline in stages, each of which is taken back when a later one fails. -/
def staged (device : Nat) (what : PipelineDescriptor Nat) : Attempt Api Pipeline := do
  let undo (kind : ObjectKind) (object : Nat) : Api → Api := Api.call (.destroy device kind object)
  let shaderModule ← Api.make (.create device (.shaderModule what.code))
  Attempt.undoing (undo .shaderModule shaderModule) do
  let setLayout ← Api.make (.create device (.setLayout (layoutBindings what.bindings)))
  Attempt.undoing (undo .setLayout setLayout) do
  let descriptorPool ← Api.make (.create device (.descriptorPool 1 (poolSizes what.bindings)))
  Attempt.undoing (undo .descriptorPool descriptorPool) do
  let descriptorSet ← Api.make (.create device (.descriptorSets descriptorPool [setLayout]))
  modify (Api.call (.updateDescriptorSets device (writes descriptorSet what.bindings)))
  let layout ← Api.make
    (.create device (.pipelineLayout [setLayout] (pushRanges what.pushConstantSize)))
  Attempt.undoing (undo .pipelineLayout layout) do
  let pipeline ← Api.makePipeline device
    (.computePipeline computeStage shaderModule entryPoint layout)
  return { shaderModule, setLayout, descriptorPool, descriptorSet, layout, pipeline }

/-- **What is taken down when a pipeline cannot be made are the stages before, one by one.** -/
theorem create_eq (device : Nat) (what : PipelineDescriptor Nat) :
    create device what = staged device what := by
  have make (what : Creation) := Api.hands_make (.create device what)
  have blank : destroy device {} = id := rfl
  have stages : create device what = Attempt.undoing (destroy device {}) (staged device what) := by
    refine assemble_fill (make _) (fun h hne a => ?_) fun shaderModule h₁ => ?_
    · simp [destroy, objects, Api.destroyObject, hne]
    refine assemble_fill (make _) (fun h hne a => ?_) fun setLayout h₂ => ?_
    · simp [destroy, objects, Api.destroyObject, hne]
    refine assemble_fill (make _) (fun h hne a => ?_) fun descriptorPool h₃ => ?_
    · simp [destroy, objects, Api.destroyObject, hne]
    refine assemble_fill_kept (make _) (fun h => rfl) fun descriptorSet h₄ => ?_
    refine assemble_call ?_
    refine assemble_fill (make _) (fun h hne a => ?_) fun layout h₅ => ?_
    · simp [destroy, objects, Api.destroyObject, hne]
    exact assemble_last
  rw [stages, blank, Attempt.undoing_id]

/-- All objects of a pipeline are there. -/
def Whole (p : Pipeline) : Prop := ∀ object ∈ p.objects, object.2 ≠ 0

theorem whole_of_create {what : PipelineDescriptor Nat} {p : Pipeline}
    (h : create device what a = .ok p a') : p.Whole := by
  rw [create_eq] at h
  obtain ⟨shaderModule, a₁, h₁, h⟩ := Attempt.bind_eq_ok.1 h
  obtain ⟨setLayout, a₂, h₂, h⟩ := Attempt.bind_eq_ok.1 (Attempt.undoing_eq_ok.1 h)
  obtain ⟨descriptorPool, a₃, h₃, h⟩ := Attempt.bind_eq_ok.1 (Attempt.undoing_eq_ok.1 h)
  obtain ⟨descriptorSet, a₄, -, h⟩ := Attempt.bind_eq_ok.1 (Attempt.undoing_eq_ok.1 h)
  rw [Attempt.modify_bind] at h
  obtain ⟨layout, a₅, h₅, h⟩ := Attempt.bind_eq_ok.1 h
  obtain ⟨pipeline, a₆, h₆, h⟩ := Attempt.bind_eq_ok.1 (Attempt.undoing_eq_ok.1 h)
  cases h
  simp only [Whole, objects, List.forall_mem_cons, List.not_mem_nil, false_implies, implies_true,
    and_true]
  exact ⟨Api.hands_makePipeline _ _ _ _ _ h₆, Api.hands_make _ _ _ _ h₅, Api.hands_make _ _ _ _ h₃,
    Api.hands_make _ _ _ _ h₂, Api.hands_make _ _ _ _ h₁⟩

/-- The calls that destroy a pipeline. -/
def destruction (device : Nat) (p : Pipeline) : List Event :=
  p.objects.map fun object => ⟨.destroy device object.1 object.2, .done⟩

theorem Whole.trace_destroy {p : Pipeline} (h : p.Whole) (device : Nat) (a : Api) :
    (p.destroy device a).trace = a.trace ++ p.destruction device := by
  have all : ∀ object ∈ p.objects, object.2 ≠ 0 := h
  unfold destroy destruction
  generalize p.objects = objects at all
  induction objects generalizing a with
  | nil => exact (List.append_nil _).symm
  | cons object objects ih =>
    obtain ⟨there, rest⟩ := List.forall_mem_cons.1 all
    rw [List.foldl_cons, Api.destroyObject_of_ne_zero there, ih _ rest, Api.call, Api.trace_note,
      List.append_assoc]
    rfl

end Pipeline

/-! ## Command batches -/

namespace CommandBatch

/-- Makes the query pool for a number of timestamps; none if no timestamps are taken. -/
def createTimestampPool (device : Nat) (timestamps : UInt32) : Attempt Api (Option Nat) :=
  if timestamps = 0 then return none
  else return some (← Api.make (.create device (.queryPool timestampQuery (queryCount timestamps))))

/-- Each timestamp has a query, and there is one more, unless that many do not fit 32 bits. -/
theorem toNat_queryCount (timestamps : UInt32) :
    (queryCount timestamps).toNat =
      if timestamps = 0xFFFFFFFF then 0 else timestamps.toNat + 1 := by
  by_cases most : timestamps = 0xFFFFFFFF
  · rw [if_pos most, most]
    rfl
  · have lt : timestamps.toNat + 1 < 2 ^ 32 := by
      have ne : timestamps.toNat ≠ 0xFFFFFFFF := fun h => most (UInt32.toNat_inj.1 h)
      have := timestamps.toNat_lt
      omega
    rw [if_neg most, queryCount, UInt32.toNat_add]
    exact Nat.mod_eq_of_lt lt

/-- The largest number of timestamps is not refused: a pool without queries is asked for. -/
theorem createTimestampPool_most (device : Nat) :
    createTimestampPool device 0xFFFFFFFF =
      some <$> Api.make (.create device (.queryPool timestampQuery 0)) := rfl

/-- Makes a command batch in stages, each of which is taken back when a later one fails. -/
def staged (device : Nat) (family timestamps : UInt32) : Attempt Api CommandBatch := do
  let pool ← Api.make (.create device (.commandPool family resettable))
  Attempt.undoing (Api.call (.destroy device .commandPool pool)) do
  let buffer ← Api.make (.create device (.commandBuffers pool primaryLevel 1))
  Attempt.undoing (Api.call (.freeCommandBuffers device pool [buffer])) do
  let fence ← Api.make (.create device (.fence 0))
  Attempt.undoing (Api.call (.destroy device .fence fence)) do
  let timestampPool ← createTimestampPool device timestamps
  return { pool, buffer, fence, timestampPool }

/-- **What is taken down when a command batch cannot be made are the stages before, one by one.** -/
theorem create_eq (device : Nat) (family timestamps : UInt32) :
    create device family timestamps = staged device family timestamps := by
  have make (what : Creation) := Api.hands_make (.create device what)
  have blank : destroy device {} = id := rfl
  have stages : create device family timestamps =
      Attempt.undoing (destroy device {}) (staged device family timestamps) := by
    refine assemble_fill (make _) (fun h hne a => ?_) fun pool h₁ => ?_
    · simp [destroy, Api.destroyObject, hne]
    refine assemble_fill (make _) (fun h hne a => ?_) fun buffer h₂ => ?_
    · simp [destroy, Api.destroyObject, h₁, hne]
    refine assemble_fill (make _) (fun h hne a => ?_) fun fence h₃ => ?_
    · simp [destroy, Api.destroyObject, hne]
    unfold createTimestampPool
    by_cases none : timestamps = 0
    · rw [if_pos none, if_neg (not_not_intro none)]
      exact assemble_done
    · rw [if_neg none, if_pos none]
      simp only [bind_assoc, pure_bind]
      exact assemble_last
  rw [stages, blank, Attempt.undoing_id]

/-- All objects of a command batch are there; the query pool need not be. -/
structure Whole (b : CommandBatch) : Prop where
  pool : b.pool ≠ 0
  buffer : b.buffer ≠ 0
  fence : b.fence ≠ 0

theorem whole_of_create {family timestamps : UInt32} {b : CommandBatch}
    (h : create device family timestamps a = .ok b a') : b.Whole := by
  rw [create_eq] at h
  obtain ⟨pool, a₁, h₁, h⟩ := Attempt.bind_eq_ok.1 h
  obtain ⟨buffer, a₂, h₂, h⟩ := Attempt.bind_eq_ok.1 (Attempt.undoing_eq_ok.1 h)
  obtain ⟨fence, a₃, h₃, h⟩ := Attempt.bind_eq_ok.1 (Attempt.undoing_eq_ok.1 h)
  obtain ⟨queries, a₄, -, h⟩ := Attempt.bind_eq_ok.1 (Attempt.undoing_eq_ok.1 h)
  cases h
  exact ⟨Api.hands_make _ _ _ _ h₁, Api.hands_make _ _ _ _ h₂, Api.hands_make _ _ _ _ h₃⟩

/-- The calls that destroy a command batch. -/
def destruction (device : Nat) (b : CommandBatch) : List Event :=
  (b.timestampPool.map fun q => (⟨.destroy device .queryPool q, .done⟩ : Event)).toList ++
  [⟨.destroy device .fence b.fence, .done⟩, ⟨.freeCommandBuffers device b.pool [b.buffer], .done⟩,
    ⟨.destroy device .commandPool b.pool, .done⟩]

theorem Whole.trace_destroy {b : CommandBatch} (h : b.Whole) (device : Nat) (a : Api) :
    (b.destroy device a).trace = a.trace ++ b.destruction device := by
  cases hq : b.timestampPool <;>
    simp [destroy, destruction, hq, Api.destroyObject, h.pool, h.buffer, h.fence, Api.call,
      Api.trace_note]

end CommandBatch

end GpuCompute.Vulkan
