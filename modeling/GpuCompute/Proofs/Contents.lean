import GpuCompute.Proofs.Atomicity
import GpuCompute.Proofs.Driving
import GpuCompute.Proofs.Elements

/-!
# What tensors contain

A tensor has the bytes it was made with until elements are stored in it, and these until others are.
Nothing else that is done in a session changes them, whatever becomes of the buffer: what an operation
does to the tensors of a session is one of the cases of `Session.Alters`. So there are at all times as
many bytes as the elements take (`Session.whole_steps`).
-/

namespace GpuCompute

variable {d : Driver}

/-! ## Resources that last -/

/-- The same tensor at a later time. Its buffer may be gone, and its descriptor type another one. -/
structure Tensor.Lasts (t t' : Tensor d) : Prop where
  dataType : t'.dataType = t.dataType
  elementCount : t'.elementCount = t.elementCount
  elementSize : t'.elementSize = t.elementSize
  bytes : t'.bytes = t.bytes
  device : t'.buffer.device = t.buffer.device
  object : ∀ b, t'.buffer.object = some b → t.buffer.object = some b

theorem Tensor.Lasts.refl (t : Tensor d) : t.Lasts t := ⟨rfl, rfl, rfl, rfl, rfl, fun _ h => h⟩

theorem Tensor.Lasts.trans {t t' t'' : Tensor d} (h : t.Lasts t') (h' : t'.Lasts t'') : t.Lasts t'' where
  dataType := h'.dataType.trans h.dataType
  elementCount := h'.elementCount.trans h.elementCount
  elementSize := h'.elementSize.trans h.elementSize
  bytes := h'.bytes.trans h.bytes
  device := h'.device.trans h.device
  object b hb := h.object b (h'.object b hb)

/-- The same algorithm at a later time. Its pipeline may be gone. -/
structure Algorithm.Lasts (a a' : Algorithm d) : Prop where
  tensors : a'.tensors = a.tensors
  workgroup : a'.workgroup = a.workgroup
  pushConstants : a'.pushConstants = a.pushConstants

theorem Algorithm.Lasts.refl (a : Algorithm d) : a.Lasts a := ⟨rfl, rfl, rfl⟩

theorem Algorithm.Lasts.trans {a a' a'' : Algorithm d} (h : a.Lasts a') (h' : a'.Lasts a'') :
    a.Lasts a'' where
  tensors := h'.tensors.trans h.tensors
  workgroup := h'.workgroup.trans h.workgroup
  pushConstants := h'.pushConstants.trans h.pushConstants

namespace Pool

variable {p p' p'' : Pool d} {i : Nat}

/-- The tensors and algorithms of a pool last, and no tensors are added. -/
structure Lasts (p p' : Pool d) : Prop where
  length : p'.tensors.length = p.tensors.length
  tensor : ∀ {i : Nat} {t : Tensor d}, p.tensors[i]? = some t → ∃ t', p'.tensors[i]? = some t' ∧ t.Lasts t'
  algorithm : ∀ {i : Nat} {a : Algorithm d}, p.algorithms[i]? = some a →
    ∃ a', p'.algorithms[i]? = some a' ∧ a.Lasts a'

theorem Lasts.of_eq (tensors : p'.tensors = p.tensors) (algorithms : p'.algorithms = p.algorithms) :
    p.Lasts p' where
  length := congrArg List.length tensors
  tensor {_ t} h := ⟨t, tensors ▸ h, .refl t⟩
  algorithm {_ a} h := ⟨a, algorithms ▸ h, .refl a⟩

theorem Lasts.trans (h : p.Lasts p') (h' : p'.Lasts p'') : p.Lasts p'' where
  length := h'.length.trans h.length
  tensor ht := by
    obtain ⟨t₁, ht₁, lasts₁⟩ := h.tensor ht
    obtain ⟨t₂, ht₂, lasts₂⟩ := h'.tensor ht₁
    exact ⟨t₂, ht₂, lasts₁.trans lasts₂⟩
  algorithm ha := by
    obtain ⟨a₁, ha₁, lasts₁⟩ := h.algorithm ha
    obtain ⟨a₂, ha₂, lasts₂⟩ := h'.algorithm ha₁
    exact ⟨a₂, ha₂, lasts₁.trans lasts₂⟩

/-- A tensor that is there later was there before. -/
theorem Lasts.exists_earlier (h : p.Lasts p') {t' : Tensor d} (ht' : p'.tensors[i]? = some t') :
    ∃ t, p.tensors[i]? = some t ∧ t.Lasts t' := by
  have hi : i < p.tensors.length := h.length ▸ (List.getElem?_eq_some_iff.1 ht').1
  obtain ⟨t₁, ht₁, lasts⟩ := h.tensor (List.getElem?_eq_getElem hi)
  rw [ht', Option.some.injEq] at ht₁
  exact ⟨p.tensors[i], List.getElem?_eq_getElem hi, ht₁ ▸ lasts⟩

/-- What holds of an entry after one entry was replaced. -/
theorem exists_of_set {α : Type} {R : α → α → Prop} (refl : ∀ a, R a a) {l : List α} {j : Nat} {b b' : α}
    (hb : l[j]? = some b) (hR : R b b') {a : α} (ha : l[i]? = some a) :
    ∃ a', (l.set j b')[i]? = some a' ∧ R a a' := by
  by_cases hij : j = i
  · subst hij
    rw [hb, Option.some.injEq] at ha
    exact ⟨b', getElem?_set_of_some hb _, ha ▸ hR⟩
  · exact ⟨a, by rw [List.getElem?_set_ne hij, ha], refl a⟩

theorem Lasts.setTensor {t t' : Tensor d} (ht : p.tensors[i]? = some t) (lasts : t.Lasts t')
    (e : Env d.State) :
    p.Lasts { p with env := e, tensors := p.tensors.set i t' } where
  length := List.length_set
  tensor := exists_of_set .refl ht lasts
  algorithm {_ a} ha := ⟨a, ha, .refl a⟩

theorem lasts_destroy (r : ResourceId) (p : Pool d) : p.Lasts (p.destroy r) := by
  cases r with
  | tensor i =>
    change p.Lasts (p.destroyTensor i)
    cases ht : p.tensors[i]? with
    | none => exact .of_eq (by simp only [destroyTensor, ht]) (by simp only [destroyTensor, ht])
    | some t =>
      have emptied : t.Lasts { t with buffer := t.buffer.emptied } :=
        ⟨rfl, rfl, rfl, rfl, rfl, fun _ h => by cases h⟩
      rw [destroyTensor_of_some ht]
      exact .setTensor ht emptied _
  | algorithm i =>
    change p.Lasts (p.destroyAlgorithm i)
    cases ha : p.algorithms[i]? with
    | none => exact .of_eq (by simp only [destroyAlgorithm, ha]) (by simp only [destroyAlgorithm, ha])
    | some a =>
      rw [destroyAlgorithm_of_some ha]
      exact ⟨rfl, fun {_ t} ht => ⟨t, ht, .refl t⟩, exists_of_set .refl ha ⟨rfl, rfl, rfl⟩⟩
  | sequence i =>
    change p.Lasts (p.destroySequence i)
    unfold destroySequence
    cases p.sequences[i]? <;> exact .of_eq rfl rfl

theorem Destroys.lasts (h : p.Destroys p') : p.Lasts p' := by
  induction h with
  | refl => exact .of_eq rfl rfl
  | tail _ h ih =>
    rcases h with ⟨r, rfl⟩ | ⟨record, rfl⟩
    · exact ih.trans (lasts_destroy r _)
    · exact ih.trans (.of_eq rfl rfl)

theorem lasts_reap (old : ResourceId) (holders : List (String × ResourceId)) (p : Pool d) :
    p.Lasts ((p.withHeld holders).reap old) := by
  obtain ⟨q, hq, destroys, -⟩ := reap_cases old holders p
  rw [hq]
  exact destroys.lasts.trans (.of_eq rfl rfl)

theorem lasts_hold (name : String) (r : ResourceId) (p : Pool d) : p.Lasts (p.hold name r) := by
  unfold hold
  cases p.find? name with
  | none => exact .of_eq rfl rfl
  | some old => exact lasts_reap old _ p

theorem lasts_drop (name : String) (p : Pool d) : p.Lasts (p.drop name) := by
  unfold drop
  cases p.find? name with
  | none => exact .of_eq rfl rfl
  | some old => exact lasts_reap old _ p

theorem lasts_destroyManager (m : Manager d) (p : Pool d) : p.Lasts (m.destroy p).2 := by
  cases hd : m.device with
  | none =>
    unfold Manager.destroy
    rw [hd]
    exact .of_eq rfl rfl
  | some device =>
    rw [(Session.destroy_of_device hd p).2.2]
    exact (Session.destroys_cleared m p).1.lasts.trans (.of_eq rfl rfl)

theorem lasts_dropManager (m : Manager d) (p : Pool d) : p.Lasts (m.drop p) := by
  unfold Manager.drop
  split
  · exact .of_eq rfl rfl
  · exact lasts_destroyManager m p

end Pool

/-! ## Operations -/

namespace Session

variable {s s' : Session d} {o : Operation} {n name : String}

/-- Whether an operation has answered that it did what it was asked for. -/
def accepted : EStateM.Result Error (Session d) (Reply d) → Bool
  | .ok .created _ | .ok (.bytes _) _ => true
  | _ => false

/-- The tensor to which an operation gives its contents, with the bytes: a tensor that it makes, or one
in which it stores elements. -/
def puts? (s : Session d) (o : Operation) : Option (Nat × List UInt8) :=
  match o with
  | .tensorOfBytes _ _ bytes _ _ _ =>
    if accepted (step o s) then some (s.pool.tensors.length, bytes) else none
  | .tensor _ _ data => if accepted (step o s) then some (s.pool.tensors.length, data.bytes) else none
  | .writeElements name data =>
    if accepted (step o s) then (s.tensor? name).map fun (i, _) => (i, data.bytes) else none
  | _ => none

/-- What an operation does to the tensors of a session. -/
inductive Alters (s : Session d) (o : Operation) (s' : Session d) : Prop
  | lasts (h : s.pool.Lasts s'.pool) (quiet : s.puts? o = none)
  /-- A tensor is added. -/
  | adds {device : d.Device} {bytes : List UInt8} {count size : UInt64} {dataType : DataType}
    {t : Tensor d} {e : Env d.State} {p : Pool d}
    (made : Tensor.create device bytes count size dataType s.pool.env = .ok t e)
    (added : p = { s.pool with env := e, tensors := s.pool.tensors ++ [t] })
    (h : p.Lasts s'.pool) (drives : d.Drives e s'.pool.env)
    (puts : s.puts? o = some (s.pool.tensors.length, bytes))
  /-- Elements are stored in a tensor. -/
  | stores {i : Nat} {t t' : Tensor d} {data : Elements} (ht : s.pool.tensors[i]? = some t)
    (set : t.setElements data = .ok t') (puts : s.puts? o = some (i, data.bytes))
    (tensors : s'.pool.tensors = s.pool.tensors.set i t')

theorem Alters.refl (s : Session d) (quiet : s.puts? o = none) : s.Alters o s :=
  .lasts (.of_eq rfl rfl) quiet

theorem tensorOfBytes_ok {m m' : Manager d} {p p' : Pool d} {bytes : List UInt8} {count size : UInt64}
    {dataType : DataType} {i : Nat} (h : m.tensorOfBytes bytes count size dataType p = .ok (i, m') p') :
    i = p.tensors.length ∧ ∃ device t e, Tensor.create device bytes count size dataType p.env = .ok t e ∧
      p' = { p with env := e, tensors := p.tensors ++ [t] } := by
  obtain ⟨device, p₁, live, h₁⟩ := Attempt.bind_eq_ok.1 h
  obtain ⟨_, p₂, added, h₂⟩ := Attempt.bind_eq_ok.1 h₁
  obtain ⟨-, rfl⟩ := Attempt.ofExcept_eq_ok.1 live
  cases h₂
  obtain ⟨t, p₁, h₁, h⟩ := Attempt.bind_eq_ok.1 added
  obtain ⟨e, made, rfl⟩ := Attempt.within_eq_ok.1 h₁
  cases h
  exact ⟨rfl, device, t, e, made, rfl⟩

theorem find?_hold (name : String) (r : ResourceId) (p : Pool d) :
    (p.hold name r).find? name = some r := by
  rw [Pool.find?, held_hold]
  exact lookup_store_self _ _ _

theorem drives_hold (name : String) (r : ResourceId) (p : Pool d) :
    d.Drives p.env (p.hold name r).env := by
  obtain ⟨q, destroys, env⟩ := destroys_hold name r p
  exact env ▸ destroys.drives

theorem alters_tensorOfBytes {bytes : List UInt8} {count size : UInt64} {dataType : DataType}
    (puts : s.puts? o = if accepted (addResource n name .tensor (fun m =>
      m.tensorOfBytes bytes count size dataType) s) then some (s.pool.tensors.length, bytes) else none) :
    s.Alters o ((addResource n name .tensor fun m =>
      m.tensorOfBytes bytes count size dataType).after s) := by
  let make (m : Manager d) : Attempt (Pool d) (Nat × Manager d) :=
    m.tensorOfBytes bytes count size dataType
  cases hm : s.managers.lookup n with
  | none =>
    have unknown : addResource n name .tensor make s = .ok (.unknown n) s := addResource_unknown hm
    rw [unknown] at puts
    rw [Attempt.after_of_ok unknown]
    exact .refl s puts
  | some m =>
    cases h : m.tensorOfBytes bytes count size dataType s.pool with
    | ok result p =>
      obtain ⟨i, m'⟩ := result
      obtain ⟨-, device, t, e, made, rfl⟩ := tensorOfBytes_ok h
      have hstep := @addResource_ok d s n name .tensor make m m' i _ hm h
      rw [hstep] at puts
      rw [Attempt.after_of_ok hstep]
      exact .adds made rfl (Pool.lasts_hold name _ _) (drives_hold name (.tensor i)
        { s.pool with env := e, tensors := s.pool.tensors ++ [t] }) puts
    | error error p =>
      have hstep := @addResource_error d s error n name .tensor make m p hm h
      have same : p = s.pool.withEnv p.env :=
        Factory.withEnv_of_error (f := .tensorOfBytes bytes count size dataType) h
      rw [hstep] at puts
      rw [Attempt.after_of_error hstep, same]
      exact .lasts (.of_eq rfl rfl) puts

/-- A resource that is no tensor is made. -/
theorem lasts_makes {f : Factory} (hf : ∀ i j, f.identify i ≠ .tensor j) :
    s.pool.Lasts ((addResource n name f.identify (f.run ·)).after s).pool := by
  rw [after_addResource]
  cases hm : s.managers.lookup n with
  | none => exact .of_eq rfl rfl
  | some m =>
    dsimp only
    cases h : f.run m s.pool with
    | ok result p =>
      obtain ⟨i, m'⟩ := result
      refine Pool.Lasts.trans ?_ (Pool.lasts_hold name (f.identify i) p)
      have appends := Factory.appends_of_run h
      generalize hr : f.identify i = r at appends
      cases appends with
      | tensor t e => exact absurd hr (hf i _)
      | algorithm a e =>
        refine ⟨rfl, fun {_ t} ht => ⟨t, ht, .refl t⟩, fun {j b} hb => ⟨b, ?_, .refl b⟩⟩
        change (s.pool.algorithms ++ [a])[j]? = some b
        rw [List.getElem?_append_left (List.getElem?_eq_some_iff.1 hb).1, hb]
      | sequence q e => exact .of_eq rfl rfl
    | error error p =>
      have same : p = s.pool.withEnv p.env := Factory.withEnv_of_error h
      dsimp only
      rw [same]
      exact .of_eq rfl rfl

theorem alters_makes {f : Factory} (ho : s.factory? o = some (n, name, f))
    (hf : ∀ i j, f.identify i ≠ .tensor j) (quiet : s.puts? o = none) :
    s.Alters o ((step o).after s) := by
  have after : (step o).after s = (addResource n name f.identify (f.run ·)).after s := by
    unfold Attempt.after Attempt.outcome
    rw [step_of_factory? ho]
  rw [after]
  exact .lasts (lasts_makes hf) quiet

theorem lasts_dropManager (n : String) (s : Session d) : s.pool.Lasts (dropManager n s).pool := by
  unfold dropManager
  cases s.managers.lookup n with
  | none => exact .of_eq rfl rfl
  | some m => exact Pool.lasts_dropManager m s.pool

theorem lasts_addManager {make : Act d.State (Manager d)} :
    s.pool.Lasts ((addManager n make).after s).pool := by
  rw [after_addManager]
  cases make s.pool.env with
  | error error e => exact .of_eq rfl rfl
  | ok m e =>
    dsimp only
    unfold storeManager
    cases (s.withEnv e).managers.lookup n with
    | none => exact .of_eq rfl rfl
    | some old =>
      have same : s.pool.Lasts (s.withEnv e).pool := .of_eq rfl rfl
      exact same.trans (Pool.lasts_dropManager old _)

theorem alters_algorithm {names : List String} {f : List Nat → Factory}
    (ho : s.factory? o = (s.tensorNumbers names).toOption.map fun numbers => (n, name, f numbers))
    (hstep : ∀ tensor, s.tensorNumbers names = .error tensor → (step o).after s = s)
    (hf : ∀ numbers i j, (f numbers).identify i ≠ .tensor j) (quiet : s.puts? o = none) :
    s.Alters o ((step o).after s) := by
  cases h : s.tensorNumbers names with
  | error tensor =>
    rw [hstep tensor h]
    exact .refl s quiet
  | ok numbers =>
    rw [h] at ho
    exact alters_makes ho (hf numbers) quiet

theorem withTensor_apply {i : Nat} {t : Tensor d} (ht : s.tensor? name = some (i, t))
    (act : Nat → Tensor d → Attempt (Session d) (Reply d)) : withTensor name act s = act i t s := by
  unfold withTensor
  rw [Attempt.get_bind, ht]

theorem writeElements_unknown (ht : s.tensor? name = none) (data : Elements) :
    step (.writeElements name data) s = .ok (.unknown name) s := by
  change withTensor name _ s = _
  unfold withTensor
  rw [Attempt.get_bind, ht]
  rfl

theorem writeElements_ok {i : Nat} {t t' : Tensor d} {data : Elements} (ht : s.tensor? name = some (i, t))
    (h : t.setElements data = .ok t') :
    step (.writeElements name data) s = .ok (.bytes t'.bytes) (setTensor i t' s) := by
  refine (withTensor_apply ht _).trans ?_
  rw [h]
  rfl

theorem writeElements_error {i : Nat} {t : Tensor d} {data : Elements} {error : Error}
    (ht : s.tensor? name = some (i, t)) (h : t.setElements data = .error error) :
    step (.writeElements name data) s = .error error s := by
  refine (withTensor_apply ht _).trans ?_
  rw [h]
  rfl

theorem alters_writeElements (name : String) (data : Elements) :
    s.Alters (.writeElements name data) ((step (.writeElements name data)).after s) := by
  have puts : s.puts? (.writeElements name data) =
    if accepted (step (.writeElements name data) s) then
      (s.tensor? name).map fun (i, _) => (i, data.bytes) else none := rfl
  cases ht : s.tensor? name with
  | none =>
    have unknown := writeElements_unknown ht data
    rw [Attempt.after_of_ok unknown]
    rw [unknown] at puts
    exact .refl s puts
  | some found =>
    obtain ⟨i, t⟩ := found
    cases h : t.setElements data with
    | error error =>
      have hstep := writeElements_error ht h
      rw [Attempt.after_of_error hstep]
      rw [hstep] at puts
      exact .refl s puts
    | ok t' =>
      have hstep := writeElements_ok ht h
      rw [Attempt.after_of_ok hstep]
      rw [hstep, ht] at puts
      exact .stores (tensor?_some ht) h puts rfl

/-- **What an operation does to tensors.** -/
theorem alters_step (o : Operation) (s : Session d) : s.Alters o ((step o).after s) := by
  cases o with
  | tensor | tensorOfBytes => exact alters_tensorOfBytes rfl
  | sequence => exact alters_makes rfl nofun rfl
  | algorithm n name names code =>
    refine alters_algorithm (f := (.algorithm · code)) rfl (fun tensor h => ?_) nofun rfl
    unfold step addAlgorithm
    rw [Attempt.after_get_bind, h]
    rfl
  | algorithmWith n name names code workgroup pushConstants =>
    refine alters_algorithm (f := (.algorithmWith · code workgroup pushConstants)) rfl
      (fun tensor h => ?_) nofun rfl
    unfold step addAlgorithm
    rw [Attempt.after_get_bind, h]
    rfl
  | createManager => exact .lasts lasts_addManager rfl
  | borrow =>
    exact after_withInstance_induct (.refl s rfl) fun _ _ =>
      after_withDevice_induct (.refl s rfl) fun _ _ => .lasts lasts_addManager rfl
  | keepHandles | describeManager | counts =>
    exact after_withManager_induct (.refl s rfl) fun _ _ => .lasts (.of_eq rfl rfl) rfl
  | properties | adapters =>
    refine after_withManager_induct (.refl s rfl) fun m _ => ?_
    rw [after_run_bind fun _ _ => rfl]
    exact .lasts (.of_eq rfl rfl) rfl
  | clear n =>
    refine after_withManager_induct (.refl s rfl) fun m _ => .lasts ?_ rfl
    change s.pool.Lasts (m.clear s.pool).2
    obtain h | ⟨_, _, h, -⟩ := clear_cases m s.pool <;> rw [h] <;> exact .of_eq rfl rfl
  | destroyManager =>
    exact after_withManager_induct (.refl s rfl) fun m _ => .lasts (Pool.lasts_destroyManager m s.pool) rfl
  | dropManager n =>
    exact after_withManager_induct (.refl s rfl) fun _ _ => .lasts (lasts_dropManager n s) rfl
  | readElements name type =>
    refine after_withTensor_induct (.refl s rfl) fun _ t _ => ?_
    cases t.elements type <;> exact .refl s rfl
  | readBytes => exact after_withTensor_induct (.refl s rfl) fun _ _ _ => .refl s rfl
  | setDescriptorType name type =>
    refine after_withTensor_induct (.refl s rfl) fun i t ht => ?_
    have same : t.Lasts { t with descriptorType := type } := ⟨rfl, rfl, rfl, rfl, rfl, fun _ h => h⟩
    exact .lasts (.setTensor (tensor?_some ht) same s.pool.env) rfl
  | writeElements name data => exact alters_writeElements name data
  | holdBound name algorithm position =>
    unfold step
    rw [Attempt.after_get_bind]
    cases s.boundTensor? algorithm position with
    | none => exact .refl s rfl
    | some i => exact .lasts (Pool.lasts_hold name _ s.pool) rfl
  | describe => exact after_withResource_induct (.refl s rfl) fun _ _ => .refl s rfl
  | destroy =>
    exact after_withResource_induct (.refl s rfl) fun r _ => .lasts (Pool.lasts_destroy r s.pool) rfl
  | share name =>
    exact after_withResource_induct (.refl s rfl) fun r _ => .lasts (Pool.lasts_hold name r s.pool) rfl
  | drop name =>
    exact after_withResource_induct (.refl s rfl) fun _ _ => .lasts (Pool.lasts_drop name s.pool) rfl
  | call c =>
    have aside : Untouched s ((step (.call c)).after s) := untouched_call c s
    refine .lasts ?_ rfl
    rw [aside.pool]
    exact .of_eq rfl rfl

/-- Where a tensor that is there after an operation comes from. -/
inductive Origin (s s' : Session d) (i : Nat) (t' : Tensor d) : Prop
  | lasts {t : Tensor d} (ht : s.pool.tensors[i]? = some t) (h : t.Lasts t')
  | stores {t : Tensor d} {data : Elements} (ht : s.pool.tensors[i]? = some t)
    (set : t.setElements data = .ok t')
  | adds {device : d.Device} {bytes : List UInt8} {count size : UInt64} {dataType : DataType}
    {t : Tensor d} {e : Env d.State} (hi : i = s.pool.tensors.length)
    (made : Tensor.create device bytes count size dataType s.pool.env = .ok t e)
    (h : t.Lasts t') (drives : d.Drives e s'.pool.env)

theorem Alters.origin (h : s.Alters o s') {i : Nat} {t' : Tensor d}
    (ht' : s'.pool.tensors[i]? = some t') : s.Origin s' i t' := by
  cases h with
  | lasts h =>
    obtain ⟨t, ht, lasts⟩ := h.exists_earlier ht'
    exact .lasts ht lasts
  | @stores j t new data ht set _ tensors =>
    rw [tensors] at ht'
    by_cases hij : j = i
    · subst hij
      rw [Pool.getElem?_set_of_some ht, Option.some.injEq] at ht'
      exact ht' ▸ .stores ht set
    · rw [List.getElem?_set_ne hij] at ht'
      exact .lasts ht' (.refl t')
  | @adds _ _ _ _ _ t e p made added h drives =>
    obtain ⟨t₁, ht₁, lasts⟩ := h.exists_earlier ht'
    rw [added] at ht₁
    by_cases hi : i = s.pool.tensors.length
    · subst hi
      simp only [List.getElem?_concat_length, Option.some.injEq] at ht₁
      exact .adds rfl made (ht₁ ▸ lasts) drives
    · exact .lasts ((Pool.getElem?_append_of_ne hi t).symm.trans ht₁) lasts

/-- An operation adds one tensor, or none. -/
theorem Alters.length_tensors (h : s.Alters o s') : s'.pool.tensors.length = s.pool.tensors.length ∨
    s'.pool.tensors.length = s.pool.tensors.length + 1 := by
  cases h with
  | lasts h => exact .inl h.length
  | stores _ _ _ tensors => exact .inl (by rw [tensors, List.length_set])
  | adds _ added h =>
    refine .inr (h.length.trans ?_)
    rw [added, List.length_append]
    rfl

end Session

/-! ## Whole tensors -/

namespace Tensor

variable {t t' : Tensor d} {bytes : List UInt8} {count size : UInt64} {dataType : DataType}
  {device : d.Device} {e e' : Env d.State} {data : Elements}

theorem fits_iff {length : Nat} : fits length count size = true ↔
    size ≠ 0 ∧ count.toNat * size.toNat < UInt64.size ∧ length = count.toNat * size.toNat := by
  simp [fits, and_assoc]

/-- A tensor has as many bytes as its elements take, and 64 bits are enough to count them. -/
structure Whole (t : Tensor d) : Prop where
  size : t.elementSize ≠ 0
  bounded : t.elementCount.toNat * t.elementSize.toNat < UInt64.size
  length : t.bytes.length = t.elementCount.toNat * t.elementSize.toNat

theorem Whole.toNat_memorySize (h : t.Whole) : t.memorySize.toNat = t.bytes.length := by
  rw [h.length, memorySize, UInt64.toNat_mul]
  exact Nat.mod_eq_of_lt h.bounded

theorem Whole.memorySize_eq (h : t.Whole) : t.memorySize = .ofNat t.bytes.length := by
  rw [← h.toNat_memorySize, UInt64.ofNat_toNat]

/-- A tensor is made for bytes that fit, with a buffer of as many bytes. -/
theorem create_ok (h : create device bytes count size dataType e = .ok t e') :
    fits bytes.length count size = true ∧ ∃ buffer e₁,
      d.createBuffer device (.ofNat bytes.length) bufferUsage e = .ok buffer e₁ ∧
      e'.driver = e₁.driver ∧
      t = { dataType, elementCount := count, elementSize := size, bytes,
            buffer := { device, object := some buffer } } := by
  unfold create at h
  split at h
  · cases h
  · next fit =>
    obtain ⟨buffer, e₁, made, h⟩ := Attempt.bind_eq_ok.1 h
    cases h
    exact ⟨by simpa using fit, buffer, e₁, made, rfl, rfl⟩

theorem setElements_ok (h : t.setElements data = .ok t') : t.holds data.type = true ∧
    data.words.length = t.elementCount.toNat ∧ t' = { t with bytes := data.bytes } := by
  unfold setElements at h
  split at h
  · cases h
  · next holds =>
    split at h
    · cases h
    · next count =>
      cases h
      exact ⟨by simpa using holds, by simpa using count, rfl⟩

theorem holds_iff {type : ElementType} :
    t.holds type = true ↔ t.dataType = type.dataType ∧ t.elementSize.toNat = type.size := by
  simp [holds]

theorem whole_create (h : create device bytes count size dataType e = .ok t e') : t.Whole := by
  obtain ⟨fit, _, _, -, -, rfl⟩ := create_ok h
  obtain ⟨nonzero, bounded, length⟩ := fits_iff.1 fit
  exact ⟨nonzero, bounded, length⟩

theorem Whole.of_lasts (h : t.Whole) (lasts : t.Lasts t') : t'.Whole := by
  obtain ⟨size, bounded, length⟩ := h
  rw [← lasts.elementSize] at size bounded length
  rw [← lasts.elementCount] at bounded length
  exact ⟨size, bounded, lasts.bytes ▸ length⟩

/-- Other elements take as many bytes as those before. -/
theorem Whole.setElements (h : t.Whole) (set : t.setElements data = .ok t') : t'.Whole := by
  obtain ⟨holds, count, rfl⟩ := setElements_ok set
  refine ⟨h.size, h.bounded, ?_⟩
  change data.bytes.length = t.elementCount.toNat * t.elementSize.toNat
  rw [data.length_bytes, count, (holds_iff.1 holds).2]

end Tensor

namespace Session

theorem whole_step {s : Session d} (whole : ∀ t ∈ s.pool.tensors, t.Whole) (o : Operation) :
    ∀ t ∈ ((step o).after s).pool.tensors, t.Whole := by
  intro t' hmem
  obtain ⟨i, ht'⟩ := List.mem_iff_getElem?.1 hmem
  cases (alters_step o s).origin ht' with
  | lasts ht lasts => exact (whole _ (List.mem_of_getElem? ht)).of_lasts lasts
  | stores ht set => exact (whole _ (List.mem_of_getElem? ht)).setElements set
  | adds _ made lasts => exact (Tensor.whole_create made).of_lasts lasts

theorem whole_steps {s : Session d} (whole : ∀ t ∈ s.pool.tensors, t.Whole) (os : List Operation) :
    ∀ t ∈ (steps os s).pool.tensors, t.Whole := by
  induction os generalizing s with
  | nil => exact whole
  | cons o os ih => exact ih (whole_step whole o)

end Session

end GpuCompute
