import GpuCompute.Proofs.Tallies
import GpuCompute.Proofs.Vulkan.Chains

/-!
# Descriptor sets of pipelines

The layout of a pipeline's descriptor set, the sizes of its pool and the writes into the set are made
from the same bindings by three loops. They agree: the pool has exactly the descriptors that the layout
calls for, and each binding of the layout is written once, with its own type
(`Pipeline.describes_writes`, `Pipeline.fits_writes`). These are what a pipeline's set is made of and
filled with, unless one of the four calls fails that come before (`descriptors_agree`).
-/

namespace GpuCompute.Vulkan

/-! ## What is made from bindings -/

namespace Pipeline

variable {β : Type} {bindings : List (Binding β)}

/-- The types of bindings, in order. -/
def types (bindings : List (Binding β)) : List DescriptorType :=
  bindings.map (·.descriptorType)

@[simp] theorem length_types (bindings : List (Binding β)) :
    (types bindings).length = bindings.length := List.length_map _

/-- The numbers of bindings, in order. -/
def numbers (bindings : List (Binding β)) : List UInt32 :=
  (List.range bindings.length).map UInt32.ofNat

theorem nodup_numbers (short : bindings.length < UInt32.size) : (numbers bindings).Nodup := by
  refine List.nodup_range.map_on fun i hi j hj same => ?_
  rw [List.mem_range] at hi hj
  rw [← UInt32.toNat_ofNat_of_lt' (hi.trans short), same, UInt32.toNat_ofNat_of_lt' (hj.trans short)]

theorem map_zipIdx_snd (bindings : List (Binding β)) :
    (bindings.zipIdx.map fun entry => UInt32.ofNat entry.2) = numbers bindings := by
  rw [numbers, List.range_eq_range', ← List.zipIdx_map_snd 0 bindings, List.map_map]
  rfl

theorem map_zipIdx_fst (bindings : List (Binding β)) :
    (bindings.zipIdx.map fun entry => entry.1.descriptorType) = types bindings := by
  conv_rhs => rw [types, ← List.zipIdx_map_fst 0 bindings, List.map_map]
  rfl

theorem length_layoutBindings (bindings : List (Binding β)) :
    (layoutBindings bindings).length = bindings.length := by
  rw [layoutBindings, List.length_map, List.length_zipIdx]

theorem map_binding_layoutBindings (bindings : List (Binding β)) :
    (layoutBindings bindings).map LayoutBinding.binding = numbers bindings := by
  rw [layoutBindings, List.map_map]
  exact map_zipIdx_snd bindings

theorem map_type_layoutBindings (bindings : List (Binding β)) :
    (layoutBindings bindings).map LayoutBinding.type = types bindings := by
  rw [layoutBindings, List.map_map]
  exact map_zipIdx_fst bindings

theorem getElem?_layoutBindings (bindings : List (Binding β)) (i : Nat) :
    (layoutBindings bindings)[i]? =
      bindings[i]?.map fun b => ⟨.ofNat i, b.descriptorType, 1, computeStage⟩ := by
  rw [layoutBindings, List.getElem?_map, List.getElem?_zipIdx, Option.map_map, Nat.zero_add]
  rfl

theorem map_binding_writes (set : Nat) (bindings : List (Binding Nat)) :
    (writes set bindings).map DescriptorWrite.binding = numbers bindings := by
  rw [writes, List.map_map]
  exact map_zipIdx_snd bindings

theorem getElem?_writes (set : Nat) (bindings : List (Binding Nat)) (i : Nat) :
    (writes set bindings)[i]? = bindings[i]?.map fun b =>
      ⟨set, .ofNat i, b.descriptorType, [⟨b.buffer, 0, max b.size 1⟩]⟩ := by
  rw [writes, List.getElem?_map, List.getElem?_zipIdx, Option.map_map, Nat.zero_add]
  rfl

/-! ### Pool sizes -/

/-- The size that an entry of a tally stands for. -/
def sizeOfEntry (entry : DescriptorType × UInt32) : PoolSize := ⟨entry.1, entry.2⟩

theorem addSize_ofEntry (type : DescriptorType) (t : List (DescriptorType × UInt32)) :
    addSize type (t.map sizeOfEntry) = (Tally.add type t).map sizeOfEntry := by
  induction t with
  | nil => rfl
  | cons entry t ih =>
    rw [List.map_cons, addSize, Tally.add, ih, apply_ite (List.map sizeOfEntry)]
    rfl

theorem poolSizes_eq (bindings : List (Binding β)) :
    poolSizes bindings =
      (types bindings).eraseDups.map fun type => ⟨type, .ofNat ((types bindings).count type)⟩ :=
  List.foldl_map.symm.trans (Tally.foldl_eq addSize_ofEntry (types bindings))

theorem mem_poolSizes {s : PoolSize} : s ∈ poolSizes bindings ↔
    s.type ∈ types bindings ∧ s.count = .ofNat ((types bindings).count s.type) := by
  rw [poolSizes_eq, List.mem_map]
  constructor
  · rintro ⟨type, htype, rfl⟩
    exact ⟨List.mem_eraseDups.1 htype, rfl⟩
  · rintro ⟨htype, hcount⟩
    exact ⟨s.type, List.mem_eraseDups.2 htype, by rw [← hcount]⟩

theorem sum_map_ofNat (l : List Nat) : (l.map UInt32.ofNat).sum = .ofNat l.sum := by
  induction l with
  | nil => rfl
  | cons n l ih => rw [List.map_cons, List.sum_cons, ih, List.sum_cons, UInt32.ofNat_add]

theorem sum_poolSizes (bindings : List (Binding β)) :
    ((poolSizes bindings).map PoolSize.count).sum = .ofNat bindings.length := by
  rw [poolSizes_eq, List.map_map, ← length_types, ← Tally.sum_count_eraseDups, ← sum_map_ofNat,
    List.map_map]
  rfl

/-! ### Agreement -/

/-- A layout, the sizes of a pool and the writes into a set are what bindings call for. -/
structure Describes (bindings : List (Binding Nat)) (layout : List LayoutBinding)
    (sizes : List PoolSize) (set : Nat) (writes : List DescriptorWrite) : Prop where
  layout_length : layout.length = bindings.length
  /-- The layout has one descriptor for each binding, in order. -/
  layout_entry : ∀ (i : Nat) b, bindings[i]? = some b →
    layout[i]? = some ⟨.ofNat i, b.descriptorType, 1, computeStage⟩
  /-- The pool has as many descriptors of a type as there are bindings of it. -/
  types : (sizes.map PoolSize.type).Nodup
  count : ∀ s, s ∈ sizes ↔ (∃ b ∈ bindings, b.descriptorType = s.type) ∧
    s.count = .ofNat ((bindings.map (·.descriptorType)).count s.type)
  total : (sizes.map PoolSize.count).sum = .ofNat bindings.length
  writes_length : writes.length = bindings.length
  /-- Each binding is written with its own type and buffer. -/
  write : ∀ (i : Nat) b, bindings[i]? = some b →
    writes[i]? = some ⟨set, .ofNat i, b.descriptorType, [⟨b.buffer, 0, max b.size 1⟩]⟩

/-- The set fits its pool exactly, and each binding of the layout is written exactly once. -/
structure Fits (layout : List LayoutBinding) (sizes : List PoolSize) (set : Nat)
    (writes : List DescriptorWrite) : Prop where
  /-- The pool has as many descriptors of a type as the layout calls for. -/
  filled : ∀ s ∈ sizes, s.count = .ofNat ((layout.map LayoutBinding.type).count s.type)
  provided : ∀ b ∈ layout, ∃ s ∈ sizes, s.type = b.type
  needed : ∀ s ∈ sizes, ∃ b ∈ layout, b.type = s.type
  total : (sizes.map PoolSize.count).sum = .ofNat layout.length
  /-- The writes go through the layout: one for each binding, with its type. -/
  written : (writes.map fun w => (w.binding, w.type)) = layout.map fun b => (b.binding, b.type)
  own : ∀ w ∈ writes, w.set = set

/-- No number wraps around: the bindings have different numbers, and counts are the numbers themselves. -/
structure FitsPlainly (layout : List LayoutBinding) (sizes : List PoolSize)
    (writes : List DescriptorWrite) : Prop where
  numbered : ∀ (i : Nat) b, layout[i]? = some b → b.binding.toNat = i
  filled : ∀ s ∈ sizes, s.count.toNat = (layout.map LayoutBinding.type).count s.type
  total : (sizes.map fun s => s.count.toNat).sum = layout.length
  once : ∀ b ∈ layout, (writes.map DescriptorWrite.binding).count b.binding = 1

theorem describes_writes (bindings : List (Binding Nat)) (set : Nat) :
    Describes bindings (layoutBindings bindings) (poolSizes bindings) set
      (Pipeline.writes set bindings) where
  layout_length := length_layoutBindings bindings
  layout_entry i b hb := by rw [getElem?_layoutBindings, hb]; rfl
  types := by
    rw [poolSizes_eq, List.map_map]
    exact (List.map_id _).symm ▸ Tally.nodup_eraseDups (Pipeline.types bindings)
  count s := mem_poolSizes.trans (and_congr_left' List.mem_map)
  total := sum_poolSizes bindings
  writes_length := by rw [Pipeline.writes, List.length_map, List.length_zipIdx]
  write i b hb := by rw [getElem?_writes, hb]; rfl

/-- In a list that is not too long, no count wraps around. -/
theorem toNat_ofNat_count (short : bindings.length < UInt32.size) (type : DescriptorType) :
    (UInt32.ofNat ((types bindings).count type)).toNat = (types bindings).count type :=
  UInt32.toNat_ofNat_of_lt'
    (lt_of_le_of_lt (List.count_le_length.trans_eq (length_types bindings)) short)

theorem fits_writes (bindings : List (Binding Nat)) (set : Nat) :
    Fits (layoutBindings bindings) (poolSizes bindings) set (Pipeline.writes set bindings) where
  filled s hs := by
    rw [map_type_layoutBindings]
    exact (mem_poolSizes.1 hs).2
  provided b hb := by
    have typed : b.type ∈ types bindings :=
      map_type_layoutBindings bindings ▸ List.mem_map_of_mem hb
    exact ⟨⟨b.type, .ofNat ((types bindings).count b.type)⟩, mem_poolSizes.2 ⟨typed, rfl⟩, rfl⟩
  needed s hs := by
    have typed := (mem_poolSizes.1 hs).1
    rw [← map_type_layoutBindings] at typed
    exact List.mem_map.1 typed
  total := by rw [sum_poolSizes, length_layoutBindings]
  written := by
    rw [Pipeline.writes, layoutBindings, List.map_map, List.map_map]
    rfl
  own w hw := by
    obtain ⟨entry, -, rfl⟩ := List.mem_map.1 hw
    rfl

theorem fitsPlainly {bindings : List (Binding Nat)} (short : bindings.length < UInt32.size)
    (set : Nat) :
    FitsPlainly (layoutBindings bindings) (poolSizes bindings) (Pipeline.writes set bindings) where
  numbered i b hb := by
    rw [getElem?_layoutBindings, Option.map_eq_some_iff] at hb
    obtain ⟨_, entry, rfl⟩ := hb
    exact UInt32.toNat_ofNat_of_lt' ((List.getElem?_eq_some_iff.1 entry).1.trans short)
  filled s hs := by
    rw [(mem_poolSizes.1 hs).2, toNat_ofNat_count short, map_type_layoutBindings]
  total := by
    rw [poolSizes_eq, List.map_map, length_layoutBindings, ← length_types,
      ← Tally.sum_count_eraseDups]
    exact congrArg List.sum (List.map_congr_left fun type _ => toNat_ofNat_count short type)
  once b hb := by
    rw [map_binding_writes, ← map_binding_layoutBindings]
    refine List.count_eq_one_of_mem ?_ (List.mem_map_of_mem hb)
    rw [map_binding_layoutBindings]
    exact nodup_numbers short

end Pipeline

/-! ## What is called -/

/-- Whether a call writes into descriptor sets. -/
def Request.Writes : Request → Prop
  | .updateDescriptorSets .. => True
  | _ => False

/-- Calls of which none writes into descriptor sets. -/
def Quiet (l : List Event) : Prop := ∀ event ∈ l, ¬ event.request.Writes

theorem Quiet.singleton {request : Request} {outcome : Outcome} (h : ¬ request.Writes) :
    Quiet [⟨request, outcome⟩] := List.forall_mem_singleton.2 h

namespace Api

variable {α : Type} {request : Request} {done done' : List Event → Prop}
  {failed failed' : Error → List Event → Prop} {act : Attempt Api α} {rest : Nat → Attempt Api α}

/-- What an attempt adds to the trace when it succeeds, and what it adds when it fails with an error. -/
structure Logs (done : List Event → Prop) (failed : Error → List Event → Prop)
    (act : Attempt Api α) : Prop where
  ok : ∀ {a x a'}, act a = .ok x a' → ∃ l, a'.trace = a.trace ++ l ∧ done l
  error : ∀ {a error a'}, act a = .error error a' → ∃ l, a'.trace = a.trace ++ l ∧ failed error l

namespace Logs

theorem make_bind (stops : ∀ code, failed (.vulkan request.name code) [⟨request, .failed code⟩])
    (next : ∀ id, Logs (fun l => done (⟨request, .made id⟩ :: l))
      (fun error l => failed error (⟨request, .made id⟩ :: l)) (rest id)) :
    Logs done failed (make request >>= rest) := by
  have cons {id : Nat} {a a₁ a' : Api} {l : List Event} (made : make request a = .ok id a₁)
      (trace : a'.trace = a₁.trace ++ l) : a'.trace = a.trace ++ ⟨request, .made id⟩ :: l := by
    rw [trace, (make_ok made).trace, List.append_assoc]
    rfl
  refine ⟨fun h => ?_, fun h => ?_⟩
  · obtain ⟨id, a₁, made, h⟩ := Attempt.bind_eq_ok.1 h
    obtain ⟨l, trace, holds⟩ := (next id).ok h
    exact ⟨_, cons made trace, holds⟩
  · rcases Attempt.bind_eq_error.1 h with h | ⟨id, a₁, made, h⟩
    · obtain ⟨code, rfl, adds⟩ := make_stops h
      exact ⟨_, adds.trace, stops code⟩
    · obtain ⟨l, trace, holds⟩ := (next id).error h
      exact ⟨_, cons made trace, holds⟩

theorem call_bind {rest : Unit → Attempt Api α}
    (h : Logs (fun l => done (⟨request, .done⟩ :: l))
      (fun error l => failed error (⟨request, .done⟩ :: l)) (rest ())) :
    Logs done failed ((modify (call request) : Attempt Api Unit) >>= rest) where
  ok {a x a'} hact := by
    obtain ⟨l, trace, holds⟩ := h.ok (a := a.call request) hact
    exact ⟨_, trace.trans (List.append_assoc a.trace _ l), holds⟩
  error {a error a'} hact := by
    obtain ⟨l, trace, holds⟩ := h.error (a := a.call request) hact
    exact ⟨_, trace.trans (List.append_assoc a.trace _ l), holds⟩

/-- Errors that may be followed by a call. -/
theorem undoing (h : Logs done failed act)
    (more : ∀ error l, failed error l → failed error (l ++ [⟨request, .done⟩])) :
    Logs done failed (Attempt.undoing (call request) act) where
  ok hact := h.ok (Attempt.undoing_eq_ok.1 hact)
  error hact := by
    obtain ⟨a₁, failed, rfl⟩ := Attempt.undoing_eq_error.1 hact
    obtain ⟨l, trace, holds⟩ := h.error failed
    exact ⟨l ++ [⟨request, .done⟩], by rw [(adds_call request a₁).trace, trace, List.append_assoc],
      more _ l holds⟩

theorem mono (h : Logs done failed act) (hdone : ∀ l, done l → done' l)
    (hfailed : ∀ error l, failed error l → failed' error l) : Logs done' failed' act where
  ok hact := (h.ok hact).imp fun l holds => ⟨holds.1, hdone l holds.2⟩
  error hact := (h.error hact).imp fun l holds => ⟨holds.1, hfailed _ l holds.2⟩

/-- What is added, however the attempt ends. -/
theorem after {P : List Event → Prop} (h : Logs done failed act) (a : Api)
    (hdone : ∀ l, done l → P l) (hfailed : ∀ error l, failed error l → P l) :
    ∃ l, (act.after a).trace = a.trace ++ l ∧ P l := by
  cases hact : act a with
  | ok x a' => exact Attempt.after_of_ok hact ▸ (h.ok hact).imp fun l holds => holds.imp id (hdone l)
  | error error a' =>
    exact Attempt.after_of_error hact ▸ (h.error hact).imp fun l holds => holds.imp id (hfailed _ l)

theorem of_calls {P : Request → Prop} (h : Attempt.Leaves (Calls P) act) :
    Logs (fun l => ∀ event ∈ l, P event.request) (fun _ l => ∀ event ∈ l, P event.request) act where
  ok hact := (h.of_ok hact).exists_events
  error hact := (h.of_error hact).exists_events

/-- A stage of which all that follows a failure is quiet. -/
theorem stage {undo : Nat → Request} (hundo : ∀ id, ¬ (undo id).Writes)
    (stops : ∀ code, failed (.vulkan request.name code) [⟨request, .failed code⟩])
    (more : ∀ error l l', failed error l → Quiet l' → failed error (l ++ l'))
    (next : ∀ id, Logs (fun l => done (⟨request, .made id⟩ :: l))
      (fun error l => failed error (⟨request, .made id⟩ :: l)) (rest id)) :
    Logs done failed (make request >>= fun id => Attempt.undoing (call (undo id)) (rest id)) :=
  make_bind stops fun id => (next id).undoing fun error l holds =>
    more error (_ :: l) _ holds (Quiet.singleton (hundo id))

end Logs

end Api

open Api

/-! ## Setting up a descriptor set -/

/-- The calls that set up a pipeline's code and its descriptor set. -/
def setup (device : Nat) (code : List UInt32) (layout : List LayoutBinding) (sizes : List PoolSize)
    (writes : List DescriptorWrite) (shader setLayout pool set : Nat) : List Event :=
  [⟨.create device (.shaderModule code), .made shader⟩,
    ⟨.create device (.setLayout layout), .made setLayout⟩,
    ⟨.create device (.descriptorPool 1 sizes), .made pool⟩,
    ⟨.create device (.descriptorSets pool [setLayout]), .made set⟩,
    ⟨.updateDescriptorSets device writes, .done⟩]

/-- A pipeline's descriptor set was set up and written into, once, and what it was made of and written
with is what the bindings call for. -/
def SetsUp (device : Nat) (what : PipelineDescriptor Nat) (l : List Event) : Prop :=
  ∃ layout sizes writes shader setLayout pool set rest,
    l = setup device what.code layout sizes writes shader setLayout pool set ++ rest ∧ Quiet rest ∧
    Pipeline.Describes what.bindings layout sizes set writes ∧
    Pipeline.Fits layout sizes set writes ∧
    (what.bindings.length < UInt32.size → Pipeline.FitsPlainly layout sizes writes)

/-- One of the calls before the set is written into failed, with this error, and none writes later. -/
def StopsShort (device : Nat) (what : PipelineDescriptor Nat) (error : Error) (l : List Event) :
    Prop :=
  ∃ layout sizes writes shader setLayout pool set, ∃ i < 4, ∃ request code rest,
    ((setup device what.code layout sizes writes shader setLayout pool set)[i]?).map
      Event.request = some request ∧
    l = (setup device what.code layout sizes writes shader setLayout pool set).take i ++
      ⟨request, .failed code⟩ :: rest ∧ Quiet rest ∧ error = .vulkan request.name code

namespace Pipeline

variable {device : Nat} {what : PipelineDescriptor Nat} {error : Error} {l l' : List Event}

theorem stopsShort_append (h : StopsShort device what error l) (quiet : Quiet l') :
    StopsShort device what error (l ++ l') := by
  obtain ⟨layout, sizes, writes, shader, setLayout, pool, set, i, hi, request, code, rest, called,
    rfl, quietRest, failed⟩ := h
  exact ⟨layout, sizes, writes, shader, setLayout, pool, set, i, hi, request, code, rest ++ l', called,
    List.append_assoc _ _ _, List.forall_mem_append.2 ⟨quietRest, quiet⟩, failed⟩

theorem setsUp_append (h : SetsUp device what l) (quiet : Quiet l') :
    SetsUp device what (l ++ l') := by
  obtain ⟨layout, sizes, writes, shader, setLayout, pool, set, rest, rfl, quietRest, agree⟩ := h
  exact ⟨layout, sizes, writes, shader, setLayout, pool, set, rest ++ l', List.append_assoc _ _ _,
    List.forall_mem_append.2 ⟨quietRest, quiet⟩, agree⟩

/-- What is done once the descriptor set was written into. -/
theorem logs_finish (what : PipelineDescriptor Nat) (shader setLayout pool set : Nat) :
    Logs Quiet (fun _ => Quiet) (do
      let layout ← Api.make
        (.create device (.pipelineLayout [setLayout] (pushRanges what.pushConstantSize)))
      Attempt.undoing (Api.call (.destroy device .pipelineLayout layout)) do
      let pipeline ← Api.makePipeline device
        (.computePipeline computeStage shader entryPoint layout)
      return Pipeline.mk shader setLayout pool set layout pipeline) := by
  refine .of_calls (P := fun request => ¬ request.Writes) ?_
  refine .bind Calls.trans (calls_make id) fun layout => .undoing Calls.trans ?_ (.of_call id)
  exact .bind Calls.trans (calls_makePipeline id fun _ => id) fun pipeline => .pure Calls.refl _

/-- **A pipeline that is made was set up.** When it cannot be made, a call failed before its set was
written into, or it was set up all the same. -/
theorem logs_create (device : Nat) (what : PipelineDescriptor Nat) :
    Logs (SetsUp device what)
      (fun error l => StopsShort device what error l ∨ SetsUp device what l) (create device what) := by
  let failed (error : Error) (l : List Event) : Prop :=
    StopsShort device what error l ∨ SetsUp device what l
  have more (before : List Event) (error : Error) (l l' : List Event)
      (h : failed error (before ++ l)) (quiet : Quiet l') : failed error (before ++ (l ++ l')) := by
    rw [← List.append_assoc]
    exact h.imp (stopsShort_append · quiet) (setsUp_append · quiet)
  let layout := layoutBindings what.bindings
  let sizes := poolSizes what.bindings
  have stops (i : Nat) (hi : i < 4) (shader setLayout pool : Nat) {request : Request}
      (called : ((setup device what.code layout sizes [] shader setLayout pool 0)[i]?).map
        Event.request = some request) (code : ResultCode) :
      failed (.vulkan request.name code)
        ((setup device what.code layout sizes [] shader setLayout pool 0).take i ++
          [⟨request, .failed code⟩]) :=
    .inl ⟨layout, sizes, [], shader, setLayout, pool, 0, i, hi, request, code, [], called, rfl, nofun,
      rfl⟩
  rw [create_eq]
  refine .stage (fun _ => id) (stops 0 (by decide) 0 0 0 rfl) (more []) fun shader => ?_
  refine .stage (fun _ => id) (stops 1 (by decide) shader 0 0 rfl) (more [_]) fun setLayout => ?_
  refine .stage (fun _ => id) (stops 2 (by decide) shader setLayout 0 rfl) (more [_, _]) fun pool => ?_
  refine .make_bind (stops 3 (by decide) shader setLayout pool rfl) fun set => .call_bind ?_
  have setsUp (rest : List Event) (quiet : Quiet rest) : SetsUp device what
      (setup device what.code layout sizes (Pipeline.writes set what.bindings) shader setLayout pool
        set ++ rest) :=
    ⟨_, _, _, shader, setLayout, pool, set, rest, rfl, quiet, describes_writes what.bindings set,
      fits_writes what.bindings set, fun short => fitsPlainly short set⟩
  exact (logs_finish what shader setLayout pool set).mono setsUp fun error rest quiet =>
    .inr (setsUp rest quiet)

end Pipeline

/-! ## The driver -/

/-- A pipeline's bindings by the handles of their buffers. -/
def onHandles (what : PipelineDescriptor Buffer) : PipelineDescriptor Nat :=
  { what with bindings := what.bindings.map fun b => { b with buffer := b.buffer.handle } }

/-- **Layout, pool and writes agree.** A pipeline that is made had its descriptor set set up, and then the
layout, the pool and the writes are what the bindings call for, and fit each other. When it cannot be
made, then because the API refused one of the calls that come before the set is written into; else the set
was set up as well. -/
theorem descriptors_agree (x : Device) (what : PipelineDescriptor Buffer) (e : Env State) :
    ∃ l, ((createPipeline x what).after e).driver.api.trace = e.driver.api.trace ++ l ∧
      match ((createPipeline x what).outcome e).1 with
      | .ok _ => SetsUp x.handle (onHandles what) l
      | .error error => StopsShort x.handle (onHandles what) error l ∨
        SetsUp x.handle (onHandles what) l := by
  have logs := Pipeline.logs_create x.handle (onHandles what)
  cases h : createPipeline x what e with
  | ok p e' =>
    simp only [Attempt.outcome, h]
    rw [Attempt.after_of_ok h]
    -- Besides the calls that make the pipeline there is only a record.
    obtain ⟨p, e₁, made, h⟩ := Attempt.bind_eq_ok.1 h
    cases h
    obtain ⟨a, create, rfl⟩ := withApi_eq_ok.1 made
    exact logs.ok create
  | error error e' =>
    simp only [Attempt.outcome, h]
    rw [Attempt.after_of_error h]
    rcases Attempt.bind_eq_error.1 h with failed | ⟨_, _, _, h⟩
    · obtain ⟨a, create, rfl⟩ := withApi_eq_error.1 failed
      exact logs.error create
    · cases h

/-- Bindings of two types in turn. -/
def mixed : List (Binding Buffer) :=
  [⟨⟨3, ⟨0, 0, 0⟩⟩, 7, 4⟩, ⟨⟨4, ⟨0, 0, 1⟩⟩, 6, 0⟩, ⟨⟨5, ⟨0, 0, 2⟩⟩, 7, 8⟩]

/-- A device on an API that keeps to rules. -/
def plentiful (rules : List (String × List (Script.Rule Failure))) : Env State where
  driver := { api := { host := {}, script := .start rules, issued := 5 } }

/-- A device on an API that makes no pools of descriptors. -/
def poolless : Env State := plentiful [("vkCreateDescriptorPool", [⟨0, ⟨⟨-1⟩, false⟩⟩])]

/-- A pipeline of such bindings. -/
def mixing : PipelineDescriptor Buffer := ⟨[7], mixed, 0⟩

/-- The pipeline is made and its set set up; without a pool it stops short, two calls in. -/
theorem descriptors_agree_mixed :
    ((createPipeline ⟨2, 0⟩ mixing).outcome (plentiful [])).1 = .ok ⟨6, 7, 8, 9, 10, 11⟩ ∧
    (∃ l, ((createPipeline ⟨2, 0⟩ mixing).after (plentiful [])).driver.api.trace = l ∧
      l.take 5 = setup 2 [7]
        [⟨0, 7, 1, 0x20⟩, ⟨1, 6, 1, 0x20⟩, ⟨2, 7, 1, 0x20⟩] [⟨7, 2⟩, ⟨6, 1⟩]
        [⟨9, 0, 7, [⟨3, 0, 4⟩]⟩, ⟨9, 1, 6, [⟨4, 0, 1⟩]⟩, ⟨9, 2, 7, [⟨5, 0, 8⟩]⟩] 6 7 8 9 ∧
      SetsUp 2 (onHandles mixing) l) ∧
    ((createPipeline ⟨2, 0⟩ mixing).outcome poolless).1 =
      .error (.vulkan "vkCreateDescriptorPool" ⟨-1⟩) ∧
    ∃ l, ((createPipeline ⟨2, 0⟩ mixing).after poolless).driver.api.trace = l ∧ l.length = 5 ∧
      (StopsShort 2 (onHandles mixing) (.vulkan "vkCreateDescriptorPool" ⟨-1⟩) l ∨
        SetsUp 2 (onHandles mixing) l) := by
  have made : ((createPipeline ⟨2, 0⟩ mixing).outcome (plentiful [])).1 =
      .ok ⟨6, 7, 8, 9, 10, 11⟩ := rfl
  have refused : ((createPipeline ⟨2, 0⟩ mixing).outcome poolless).1 =
      .error (.vulkan "vkCreateDescriptorPool" ⟨-1⟩) := rfl
  obtain ⟨l, trace, agree⟩ := descriptors_agree ⟨2, 0⟩ mixing (plentiful [])
  obtain ⟨l', trace', agree'⟩ := descriptors_agree ⟨2, 0⟩ mixing poolless
  rw [made] at agree
  rw [refused] at agree'
  refine ⟨made, ⟨l, trace, ?_, agree⟩, refused, l', trace', ?_, agree'⟩
  · exact congrArg (List.take 5) trace.symm
  · exact congrArg List.length trace'.symm

end GpuCompute.Vulkan
