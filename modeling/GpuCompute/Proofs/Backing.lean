import GpuCompute.Proofs.Contents
import GpuCompute.Proofs.Disposal
import GpuCompute.Proofs.Estates

/-!
# The buffers of tensors

Each tensor has a buffer of its own, which was made for it with as many bytes as the tensor takes. For
every session on a recorded driver, whoever calls, the calls that have made the buffers stand in the trace
in the order of the tensors (`Session.backed_steps`), so that no two tensors ever have the same buffer.
-/

namespace GpuCompute

variable {d : Driver}

open Trace

/-- The call that has made the buffer of a tensor stands at a place of the trace; it asked for as many
bytes as the tensor takes. If the tensor still has a buffer, it is this one. -/
structure Tensor.Backed (tr : Trace) (t : Tensor d.recorded) (id : Nat) : Prop where
  made : tr[id]? = some ⟨.create t.buffer.device.id (.buffer t.memorySize Tensor.bufferUsage), true⟩
  own : ∀ b, t.buffer.object = some b → b.id = id

namespace Tensor.Backed

variable {tr tr' : Trace} {t t' : Tensor d.recorded} {id : Nat}

theorem lt_length (h : t.Backed tr id) : id < tr.length := (List.getElem?_eq_some_iff.1 h.made).1

theorem mono (h : t.Backed tr id) (grows : tr <+: tr') : t.Backed tr' id := by
  obtain ⟨T, rfl⟩ := grows
  exact ⟨by rw [List.getElem?_append_left h.lt_length, h.made], h.own⟩

theorem of_lasts (h : t.Backed tr id) (lasts : t.Lasts t') : t'.Backed tr id where
  made := by
    rw [Tensor.memorySize, lasts.elementCount, lasts.elementSize, lasts.device]
    exact h.made
  own b hb := h.own b (lasts.object b hb)

theorem setElements (h : t.Backed tr id) {data : Elements} (set : t.setElements data = .ok t') :
    t'.Backed tr id := by
  obtain ⟨-, -, rfl⟩ := Tensor.setElements_ok set
  exact ⟨h.made, h.own⟩

theorem of_create {device : d.recorded.Device} {bytes : List UInt8} {count size : UInt64}
    {dataType : DataType} {e e' : Env d.recorded.State}
    (h : Tensor.create device bytes count size dataType e = .ok t e') :
    t.Backed e'.driver.trace e.driver.trace.length := by
  have size := (Tensor.whole_create h).memorySize_eq
  obtain ⟨-, buffer, e₁, made, same, rfl⟩ := Tensor.create_ok h
  obtain ⟨hid, inner, -, rfl⟩ := Recorder.make_eq_ok.1 made
  refine ⟨?_, fun b hb => ?_⟩
  · rw [same, Recorder.trace_note, List.getElem?_concat_length, size]
  · cases hb
    exact hid

end Tensor.Backed

namespace Session

variable {s : Session d.recorded} {births : List Nat}

/-- The places in the trace of the calls that have made the buffers of all tensors, in order. -/
structure Backed (s : Session d.recorded) (births : List Nat) : Prop where
  length : births.length = s.pool.tensors.length
  tensor : ∀ {i : Nat} {t : Tensor d.recorded}, s.pool.tensors[i]? = some t →
    ∃ id, births[i]? = some id ∧ t.Backed s.trace id
  sorted : births.Pairwise (· < ·)

/-- The calls that have made the buffers were made before. -/
theorem Backed.lt_length (h : s.Backed births) {id : Nat} (hid : id ∈ births) : id < s.trace.length := by
  obtain ⟨i, hi⟩ := List.mem_iff_getElem?.1 hid
  have inside : i < s.pool.tensors.length := h.length ▸ (List.getElem?_eq_some_iff.1 hi).1
  obtain ⟨id', hid', backed⟩ := h.tensor (List.getElem?_eq_getElem inside)
  rw [hi, Option.some.injEq] at hid'
  exact hid' ▸ backed.lt_length

/-- No two tensors have the same buffer. -/
theorem Backed.eq_of_id_eq (h : s.Backed births) {i j : Nat} {t t' : Tensor d.recorded}
    (ht : s.pool.tensors[i]? = some t) (ht' : s.pool.tensors[j]? = some t') {b b' : d.recorded.Buffer}
    (hb : t.buffer.object = some b) (hb' : t'.buffer.object = some b') (same : b.id = b'.id) : i = j := by
  obtain ⟨id, hid, backed⟩ := h.tensor ht
  obtain ⟨id', hid', backed'⟩ := h.tensor ht'
  rw [backed.own b hb, backed'.own b' hb'] at same
  subst same
  have nodup : births.Nodup := h.sorted.imp Nat.ne_of_lt
  exact (List.getElem?_inj (List.getElem?_eq_some_iff.1 hid).1 nodup).1 (hid.trans hid'.symm)

theorem grows_drives {e e' : Env d.recorded.State} (h : d.recorded.Drives e e') :
    e.driver.trace <+: e'.driver.trace :=
  h.induct (P := fun e₁ : Env (Recorder d) => e.driver.trace <+: e₁.driver.trace)
    (fun _ _ h ih => ih.trans (Recorder.prefix_calls h)) List.prefix_rfl

/-- At most one buffer is made by an operation, for the tensor that it adds. -/
theorem backed_step (hs : s.Named) (backed : s.Backed births) (o : Operation) :
    ∃ births', ((step o).after s).Backed births' := by
  have alters := alters_step o s
  have grows := grows_drives (driven_step hs o)
  obtain ⟨more, hmore, length⟩ : ∃ more : List Nat, (more = [] ∨ more = [s.trace.length]) ∧
      ((step o).after s).pool.tensors.length = s.pool.tensors.length + more.length := by
    rcases alters.length_tensors with same | one
    · exact ⟨[], .inl rfl, same⟩
    · exact ⟨[s.trace.length], .inr rfl, one⟩
  refine ⟨births ++ more, ?_, fun {i t'} ht' => ?_, ?_⟩
  · rw [List.length_append, backed.length, length]
  · have older {t : Tensor d.recorded} (ht : s.pool.tensors[i]? = some t) :
        ∃ id, (births ++ more)[i]? = some id ∧ t.Backed ((step o).after s).trace id := by
      obtain ⟨id, hid, h⟩ := backed.tensor ht
      have inside := (List.getElem?_eq_some_iff.1 hid).1
      exact ⟨id, by rw [List.getElem?_append_left inside, hid], h.mono grows⟩
    cases alters.origin ht' with
    | lasts ht lasts =>
      obtain ⟨id, hid, h⟩ := older ht
      exact ⟨id, hid, h.of_lasts lasts⟩
    | stores ht set =>
      obtain ⟨id, hid, h⟩ := older ht
      exact ⟨id, hid, h.setElements set⟩
    | adds hi made lasts drives =>
      have inside := (List.getElem?_eq_some_iff.1 ht').1
      obtain rfl : more = [s.trace.length] := by
        refine hmore.resolve_left fun none => ?_
        rw [none, List.length_nil] at length
        omega
      refine ⟨s.trace.length, ?_,
        ((Tensor.Backed.of_create made).mono (grows_drives drives)).of_lasts lasts⟩
      rw [hi, ← backed.length, List.getElem?_concat_length]
  · refine List.pairwise_append.2 ⟨backed.sorted, ?_, fun id hid id' hid' => ?_⟩
    · rcases hmore with rfl | rfl <;> simp
    · rcases hmore with rfl | rfl
      · cases hid'
      · exact List.mem_singleton.1 hid' ▸ backed.lt_length hid

/-- **Each tensor has a buffer of its own, of the size of the tensor.** -/
theorem backed_steps (hs : s.Named) (backed : s.Backed births) (os : List Operation) :
    ∃ births', (steps os s).Backed births' := by
  induction os generalizing s births with
  | nil => exact ⟨births, backed⟩
  | cons o os ih =>
    obtain ⟨births', backed'⟩ := backed_step hs backed o
    exact ih (named_step hs o) backed'

theorem backed_recordedRun (inner : d.State) (ops : List Operation) :
    ∃ births, (recordedRun inner ops).Backed births := by
  have start : (recordedStart inner).Backed [] := ⟨rfl, nofun, .nil⟩
  exact backed_steps (named_start _) start ops

end Session

end GpuCompute
