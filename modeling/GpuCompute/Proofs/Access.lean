import GpuCompute.Proofs.Contents
import GpuCompute.Proofs.Settlement

/-!
# Access to the elements of tensors

The bytes of a tensor are at all times those that were last given to it, by the call that has made it or
by one that has stored elements in it. Elements of the tensor's own type, and of no other, can be read and
stored; they are as many as the tensor says, none of their bits is lost, and no access fails to return,
whatever else has been done and whether or not the buffer is still there (`Session.elements_kept`).
-/

namespace GpuCompute

variable {d : Driver}

/-! ## Reading and storing -/

namespace Tensor

variable {t t' : Tensor d} {type : ElementType} {data : Elements}

/-- As `elements`, where what is read may fail to return. -/
def elements? (t : Tensor d) (type : ElementType) : Option (Except Error (List type.Word)) :=
  if t.holds type then do
    let pieces ← pieces? t.elementSize.toNat t.bytes
    let words ← pieces.mapM type.read?
    return .ok words
  else some (.error (.invalidState (.elementType t.dataType type.dataType)))

/-- As `setElements`, where what is stored may fail to return. -/
def setElements? (t : Tensor d) (data : Elements) : Option (Except Error (Tensor d)) :=
  if !t.holds data.type then
    some (.error (.invalidState (.elementType t.dataType data.type.dataType)))
  else if data.words.length ≠ t.elementCount.toNat then
    some (.error (.invalidState (.elementCount t.elementCount data.words.length)))
  else do
    let bytes ← overwrite? data.bytes t.bytes
    return .ok { t with bytes }

theorem elements_ok {words : List type.Word} (h : t.elements type = .ok words) :
    t.holds type = true ∧ words = type.decode (t.bytes.length / t.elementSize.toNat) t.bytes := by
  unfold elements at h
  split at h
  · next holds =>
    cases h
    exact ⟨holds, rfl⟩
  · cases h

theorem elements_eq_ok_iff :
    (∃ words, t.elements type = .ok words) ↔
      t.dataType = type.dataType ∧ t.elementSize.toNat = type.size := by
  rw [← holds_iff]
  constructor
  · rintro ⟨words, h⟩
    exact (elements_ok h).1
  · intro holds
    exact ⟨_, if_pos holds⟩

theorem setElements_eq_ok_iff :
    (∃ t', t.setElements data = .ok t') ↔ (t.dataType = data.type.dataType ∧
      t.elementSize.toNat = data.type.size) ∧ data.words.length = t.elementCount.toNat := by
  rw [← holds_iff]
  constructor
  · rintro ⟨t', h⟩
    obtain ⟨holds, count, -⟩ := setElements_ok h
    exact ⟨holds, count⟩
  · rintro ⟨holds, count⟩
    refine ⟨{ t with bytes := data.bytes }, ?_⟩
    rw [setElements, holds, Bool.not_true, if_neg Bool.false_ne_true, if_neg (not_not.2 count)]

/-- Elements whose bytes the tensor has are read. -/
theorem elements_of_bytes (holds : t.holds data.type = true) (bytes : t.bytes = data.bytes) :
    t.elements data.type = .ok data.words := by
  have size := (holds_iff.1 holds).2
  rw [elements, if_pos holds, bytes, size, data.length_bytes, Nat.mul_div_cancel _ data.type.size_pos,
    Elements.bytes, data.type.decode_encode]

/-- Elements that were stored are read back. -/
theorem elements_of_setElements (set : t.setElements data = .ok t') :
    t'.elements data.type = .ok data.words := by
  obtain ⟨holds, -, rfl⟩ := setElements_ok set
  exact elements_of_bytes holds rfl

/-- Reading returns: the pieces are not empty, and all have the length of an element. -/
theorem elements?_eq (t : Tensor d) (type : ElementType) : t.elements? type = some (t.elements type) := by
  unfold elements? elements
  split
  · next holds =>
    have size := (holds_iff.1 holds).2
    have enough : t.bytes.length / type.size * type.size ≤ t.bytes.length := Nat.div_mul_le_self ..
    rw [size, pieces?, if_neg type.size_pos.ne', Option.bind_eq_bind, Option.bind_some,
      type.mapM_read?_pieces enough]
    rfl
  · rfl

/-- What can be done with the elements of a tensor, and what comes of it. -/
structure Accessible (t : Tensor d) : Prop where
  reads : ∀ type, (∃ words, t.elements type = .ok words) ↔
    t.dataType = type.dataType ∧ t.elementSize.toNat = type.size
  stores : ∀ data, (∃ t', t.setElements data = .ok t') ↔ (t.dataType = data.type.dataType ∧
    t.elementSize.toNat = data.type.size) ∧ data.words.length = t.elementCount.toNat
  /-- What is read is all there is. -/
  whole : ∀ {type words}, t.elements type = .ok words →
    words.length = t.elementCount.toNat ∧ type.encode words = t.bytes
  /-- What is stored is read back. -/
  readsBack : ∀ {data t'}, t.setElements data = .ok t' →
    t'.bytes = data.bytes ∧ t'.elements data.type = .ok data.words
  /-- Reading returns, and so does storing. -/
  returns : (∀ type, t.elements? type = some (t.elements type)) ∧
    ∀ data, t.setElements? data = some (t.setElements data)

namespace Whole

/-- There are as many pieces of bytes as elements. -/
theorem div_eq (h : t.Whole) : t.bytes.length / t.elementSize.toNat = t.elementCount.toNat := by
  have positive : 0 < t.elementSize.toNat := by
    refine Nat.pos_of_ne_zero fun zero => h.size ?_
    rw [← UInt64.toNat_inj, zero]
    rfl
  rw [h.length, Nat.mul_div_cancel _ positive]

/-- The elements that are read are as many as the tensor says, and the bytes are theirs. -/
theorem encode_elements (h : t.Whole) {words : List type.Word} (read : t.elements type = .ok words) :
    words.length = t.elementCount.toNat ∧ type.encode words = t.bytes := by
  obtain ⟨holds, rfl⟩ := elements_ok read
  have size := (holds_iff.1 holds).2
  refine ⟨by rw [type.length_decode, h.div_eq], type.encode_decode ?_⟩
  rw [h.div_eq, ← size, h.length]

/-- Storing returns: there are as many new bytes as old ones. -/
theorem setElements?_eq (h : t.Whole) (data : Elements) :
    t.setElements? data = some (t.setElements data) := by
  unfold setElements? Tensor.setElements
  split
  · rfl
  · next holds =>
    split
    · rfl
    · next count =>
      have size := (holds_iff.1 (by simpa using holds)).2
      have length : data.bytes.length = t.bytes.length := by
        rw [data.length_bytes, not_not.1 count, h.length, size]
      rw [overwrite?, if_pos length]
      rfl

theorem accessible (h : t.Whole) : t.Accessible where
  reads _ := elements_eq_ok_iff
  stores _ := setElements_eq_ok_iff
  whole := h.encode_elements
  readsBack set := by
    obtain ⟨-, -, rfl⟩ := setElements_ok set
    exact ⟨rfl, elements_of_setElements set⟩
  returns := ⟨t.elements?_eq, h.setElements?_eq⟩

end Whole

end Tensor

/-! ## Operations -/

namespace Pool

variable {p p' : Pool d}

/-- The bytes of a tensor. -/
def bytes? (p : Pool d) (i : Nat) : Option (List UInt8) := (p.tensors[i]?).map (·.bytes)

theorem Lasts.bytes?_eq (h : p.Lasts p') (i : Nat) : p'.bytes? i = p.bytes? i := by
  unfold Pool.bytes?
  cases ht : p.tensors[i]? with
  | none =>
    rw [List.getElem?_eq_none_iff, ← h.length, ← List.getElem?_eq_none_iff] at ht
    rw [ht]
  | some t =>
    obtain ⟨t', ht', lasts⟩ := h.tensor ht
    rw [ht', Option.map_some, Option.map_some, lasts.bytes]

end Pool

namespace Session

variable {s s' : Session d} {o : Operation} {name : String} {i : Nat} {t : Tensor d}

/-- The bytes that operations have given a tensor at last. -/
def lastPut (i : Nat) : List Operation → Session d → Option (List UInt8)
  | [], _ => none
  | o :: os, s =>
    (lastPut i os ((step o).after s)).or
      ((s.puts? o).bind fun (j, bytes) => if j = i then some bytes else none)

/-- The bytes are those that an operation has given the tensor, if it has given any. -/
theorem bytes?_step (o : Operation) (s : Session d) (i : Nat) :
    ((step o).after s).pool.bytes? i =
      ((s.puts? o).bind fun (j, bytes) => if j = i then some bytes else none).or (s.pool.bytes? i) := by
  cases alters_step o s with
  | lasts h quiet =>
    rw [quiet, h.bytes?_eq i]
    rfl
  | adds made added h drives puts =>
    obtain ⟨-, _, _, -, -, rfl⟩ := Tensor.create_ok made
    rw [puts, h.bytes?_eq i, added, Option.bind_some]
    by_cases hi : s.pool.tensors.length = i
    · subst hi
      simp [Pool.bytes?]
    · simp [Pool.bytes?, hi, Pool.getElem?_append_of_ne (Ne.symm hi)]
  | @stores j t t' data ht set puts tensors =>
    obtain ⟨-, -, rfl⟩ := Tensor.setElements_ok set
    rw [puts, Pool.bytes?, tensors, Option.bind_some]
    by_cases hij : j = i
    · subst hij
      simp [Pool.getElem?_set_of_some ht]
    · simp [Pool.bytes?, hij]

theorem bytes?_steps (os : List Operation) (s : Session d) (i : Nat) :
    (steps os s).pool.bytes? i = (lastPut i os s).or (s.pool.bytes? i) := by
  induction os generalizing s with
  | nil => rfl
  | cons o os ih =>
    change (steps os ((step o).after s)).pool.bytes? i = _
    rw [ih, bytes?_step, lastPut, Option.or_assoc]

theorem readBytes_ok (ht : s.tensor? name = some (i, t)) :
    step (.readBytes name) s = .ok (.bytes t.bytes) s :=
  withTensor_apply ht _

theorem readElements_ok (ht : s.tensor? name = some (i, t)) {type : ElementType}
    {words : List type.Word} (h : t.elements type = .ok words) :
    step (.readElements name type) s = .ok (.elements ⟨type, words⟩) s := by
  refine (withTensor_apply ht _).trans ?_
  rw [h]
  rfl

theorem readElements_error (ht : s.tensor? name = some (i, t)) {type : ElementType} {error : Error}
    (h : t.elements type = .error error) : step (.readElements name type) s = .error error s := by
  refine (withTensor_apply ht _).trans ?_
  rw [h]
  rfl

theorem tensor?_eq_some_iff : s.tensor? name = some (i, t) ↔
    s.pool.find? name = some (.tensor i) ∧ s.pool.tensors[i]? = some t := by
  unfold tensor?
  split
  · next j hname =>
    rw [hname, Option.map_eq_some_iff]
    constructor
    · rintro ⟨t', ht, same⟩
      cases same
      exact ⟨rfl, ht⟩
    · rintro ⟨same, ht⟩
      cases same
      exact ⟨t, ht, rfl⟩
  · next other =>
    constructor
    · nofun
    · rintro ⟨hname, -⟩
      exact absurd hname (other i)

theorem tensor?_setTensor (ht : s.tensor? name = some (i, t)) (t' : Tensor d) :
    (setTensor i t' s).tensor? name = some (i, t') := by
  obtain ⟨hname, hi⟩ := tensor?_eq_some_iff.1 ht
  exact tensor?_eq_some_iff.2 ⟨hname, Pool.getElem?_set_of_some hi t'⟩

/-- The elements that a tensor was made with are read back. -/
theorem readElements_tensor {n : String} {data : Elements}
    (h : step (.tensor n name data) s = .ok .created s') :
    step (.readElements name data.type) s' = .ok (.elements data) s' := by
  change addResource n name .tensor (fun m => m.tensor data) s = _ at h
  cases hm : s.managers.lookup n with
  | none =>
    rw [addResource_unknown hm] at h
    cases h
  | some m =>
    cases made : m.tensor data s.pool with
    | error error p =>
      rw [addResource_error hm made] at h
      cases h
    | ok result p =>
      obtain ⟨i, m'⟩ := result
      rw [addResource_ok hm made] at h
      cases h
      obtain ⟨rfl, device, t, e, create, rfl⟩ := tensorOfBytes_ok made
      obtain ⟨-, buffer, _, -, -, ht⟩ := Tensor.create_ok create
      let p : Pool d := { s.pool with env := e, tensors := s.pool.tensors ++ [t] }
      have added : p.tensors[s.pool.tensors.length]? = some t := List.getElem?_concat_length
      obtain ⟨t', ht', lasts⟩ := (Pool.lasts_hold name (.tensor s.pool.tensors.length) p).tensor added
      have size : (UInt64.ofNat data.type.size).toNat = data.type.size := by
        cases data.type <;> rfl
      have holds : t'.holds data.type = true := by
        rw [Tensor.holds_iff, lasts.dataType, lasts.elementSize, ht]
        exact ⟨rfl, size⟩
      have bytes : t'.bytes = data.bytes := by rw [lasts.bytes, ht]
      exact readElements_ok (tensor?_eq_some_iff.2 ⟨find?_hold name _ _, ht'⟩)
        (Tensor.elements_of_bytes holds bytes)

/-- What a tensor says of its elements stays. -/
theorem same_step (o : Operation) (ht : s.pool.tensors[i]? = some t) :
    ∃ t', ((step o).after s).pool.tensors[i]? = some t' ∧ t'.dataType = t.dataType ∧
      t'.elementCount = t.elementCount ∧ t'.elementSize = t.elementSize := by
  cases alters_step o s with
  | lasts h =>
    obtain ⟨t', ht', lasts⟩ := h.tensor ht
    exact ⟨t', ht', lasts.dataType, lasts.elementCount, lasts.elementSize⟩
  | @adds _ _ _ _ _ added _ p _ same h =>
    have before : p.tensors[i]? = some t := by
      rw [same, ← ht]
      exact List.getElem?_append_left (List.getElem?_eq_some_iff.1 ht).1
    obtain ⟨t', ht', lasts⟩ := h.tensor before
    exact ⟨t', ht', lasts.dataType, lasts.elementCount, lasts.elementSize⟩
  | @stores j old _ _ hold set _ tensors =>
    obtain ⟨-, -, rfl⟩ := Tensor.setElements_ok set
    rw [tensors]
    by_cases hij : j = i
    · subst hij
      obtain rfl : old = t := Option.some.inj (hold.symm.trans ht)
      exact ⟨_, Pool.getElem?_set_of_some hold _, rfl, rfl, rfl⟩
    · exact ⟨t, by rw [List.getElem?_set_ne hij, ht], rfl, rfl, rfl⟩

theorem same_steps (os : List Operation) (ht : s.pool.tensors[i]? = some t) :
    ∃ t', (steps os s).pool.tensors[i]? = some t' ∧ t'.dataType = t.dataType ∧
      t'.elementCount = t.elementCount ∧ t'.elementSize = t.elementSize := by
  induction os generalizing s t with
  | nil => exact ⟨t, ht, rfl, rfl, rfl⟩
  | cons o os ih =>
    obtain ⟨t₁, ht₁, type, count, size⟩ := same_step o ht
    obtain ⟨t', ht', type', count', size'⟩ := ih ht₁
    exact ⟨t', ht', type'.trans type, count'.trans count, size'.trans size⟩

/-- **No bit of the elements of a tensor is lost.** After any run a tensor has the bytes that it was given
last and still is of the type it was made for. Whatever its elements can be read as, reading and storing
succeed exactly if the types match and do not change anything but what is stored; what was stored, or what
the tensor was made with, is read. -/
theorem elements_kept (driver : d.State) (os : List Operation) :
    let s := steps os (start driver)
    (∀ {i : Nat} {t : Tensor d}, s.pool.tensors[i]? = some t →
      lastPut i os (start driver) = some t.bytes ∧ t.Accessible ∧
      ∀ os', ∃ t', (steps os' s).pool.tensors[i]? = some t' ∧ t'.dataType = t.dataType ∧
        t'.elementCount = t.elementCount ∧ t'.elementSize = t.elementSize) ∧
    (∀ {name : String} {i : Nat} {t : Tensor d}, s.tensor? name = some (i, t) →
      step (.readBytes name) s = .ok (.bytes t.bytes) s ∧
      (∀ type,
        (∀ words, t.elements type = .ok words →
          step (.readElements name type) s = .ok (.elements ⟨type, words⟩) s) ∧
        ∀ error, t.elements type = .error error → step (.readElements name type) s = .error error s) ∧
      ∀ data,
        (∀ t', t.setElements data = .ok t' → ∃ s',
          step (.writeElements name data) s = .ok (.bytes data.bytes) s' ∧
          s'.tensor? name = some (i, t') ∧
          step (.readElements name data.type) s' = .ok (.elements data) s') ∧
        ∀ error, t.setElements data = .error error →
          step (.writeElements name data) s = .error error s) ∧
    ∀ {n name : String} {data : Elements} {s' : Session d},
      step (.tensor n name data) s = .ok .created s' →
        step (.readElements name data.type) s' = .ok (.elements data) s' := by
  intro s
  have whole : ∀ t ∈ s.pool.tensors, t.Whole := whole_steps (s := start driver) nofun os
  refine ⟨fun {i t} ht => ⟨?_, (whole t (List.mem_of_getElem? ht)).accessible, fun os' => same_steps os' ht⟩,
    fun {name i t} ht => ⟨readBytes_ok ht, fun type => ⟨fun words => readElements_ok ht, fun error =>
      readElements_error ht⟩, fun data => ⟨fun t' set => ?_, fun error => writeElements_error ht⟩⟩,
    readElements_tensor⟩
  · have given := bytes?_steps os (start driver) i
    have none : (start driver).pool.bytes? i = none := rfl
    rw [none, Option.or_none, Pool.bytes?] at given
    rw [← given, ht]
    rfl
  · have hread := Tensor.elements_of_setElements set
    have bytes : t'.bytes = data.bytes := by
      obtain ⟨-, -, rfl⟩ := Tensor.setElements_ok set
      rfl
    have ht' := tensor?_setTensor ht t'
    exact ⟨setTensor i t' s, bytes ▸ writeElements_ok ht set, ht', readElements_ok ht' hread⟩

/-- A tensor in which not-a-numbers were stored, whose buffer and whose manager are gone. -/
def overwritten : List Operation :=
  [.createManager "m" {} {}, .createManager "n" {} {}, .tensor "m" "a" ⟨.f32, [0x3FC00000, 0x80000000]⟩,
    .writeElements "a" ⟨.f32, [0x7FC00001, 0xFF800002]⟩, .writeElements "a" ⟨.i32, [1, 2]⟩,
    .destroyManager "m"]

theorem elements_kept_overwritten :
    let s := steps overwritten (start computing)
    (∃ t, s.pool.tensors[0]? = some t ∧ t.isInit = false ∧
      t.bytes = [0x01, 0, 0xC0, 0x7F, 0x02, 0, 0x80, 0xFF] ∧ t.Accessible) ∧
    step (.readElements "a" .f32) s = .ok (.elements ⟨.f32, [0x7FC00001, 0xFF800002]⟩) s ∧
    ∃ s', step (.tensor "n" "b" ⟨.f64, [0x7FF0000000000001]⟩) s = .ok .created s' ∧
      step (.readElements "b" .f64) s' = .ok (.elements ⟨.f64, [0x7FF0000000000001]⟩) s' := by
  intro s
  obtain ⟨kept, access, made⟩ := elements_kept computing overwritten
  obtain ⟨t, ht, gone, hread⟩ : ∃ t, s.tensor? "a" = some (0, t) ∧ t.isInit = false ∧
      t.elements .f32 = .ok [0x7FC00001, 0xFF800002] := ⟨_, rfl, rfl, rfl⟩
  obtain ⟨given, accessible, -⟩ := kept (tensor?_some ht)
  have bytes : lastPut 0 overwritten (start computing) =
    some [0x01, 0, 0xC0, 0x7F, 0x02, 0, 0x80, 0xFF] := rfl
  obtain ⟨s', hstep⟩ : ∃ s', step (.tensor "n" "b" ⟨.f64, [0x7FF0000000000001]⟩) s = .ok .created s' :=
    ⟨_, rfl⟩
  exact ⟨⟨t, tensor?_some ht, gone, Option.some.inj (given.symm.trans bytes), accessible⟩,
    ((access ht).2.1 .f32).1 _ hread, s', hstep, made hstep⟩

end Session

end GpuCompute
