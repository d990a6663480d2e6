import GpuCompute.Proofs.Closing
import GpuCompute.Proofs.Respect

/-!
# Pools side by side

Two pools are related if they have the same resources with the same holders, in environments that are
related (`Pool.Related`). If the driver does not look at what these differ in, then whatever is done to
the pools is done to both alike. Two managers that differ in what they track are torn down alike if what
they track is destroyed alike (`Manager.related_destroy`).
-/

namespace GpuCompute

variable {d : Driver} {R : Env d.State → Env d.State → Prop}

/-! ## Pools -/

namespace Pool

variable {p q : Pool d} {r : ResourceId} {l l' : List ResourceId}

/-- The same resources with the same holders, in environments that are related. -/
inductive Related (R : Env d.State → Env d.State → Prop) (p : Pool d) : Pool d → Prop
  | intro {e : Env d.State} (env : R p.env e) : Related R p (p.withEnv e)

theorem isInit_withEnv (e : Env d.State) (p : Pool d) : (p.withEnv e).isInit = p.isInit := by
  funext r
  rw [isInit_eq, isInit_eq, slot?_withEnv]

namespace Related

theorem refl (h : R p.env p.env) : p.Related R p := .intro (e := p.env) h

theorem env (h : p.Related R q) : R p.env q.env := by
  obtain ⟨env⟩ := h
  exact env

theorem symm (h : p.Related R q) (symm : ∀ {e e'}, R e e' → R e' e) : q.Related R p := by
  obtain ⟨env⟩ := h
  exact .intro (p := p.withEnv _) (symm env)

theorem isInit (h : p.Related R q) : q.isInit = p.isInit := by
  obtain ⟨env⟩ := h
  exact isInit_withEnv _ p

theorem isHeld (h : p.Related R q) : q.isHeld = p.isHeld := by
  obtain ⟨env⟩ := h
  rfl

theorem slot? (h : p.Related R q) : q.slot? = p.slot? := by
  obtain ⟨env⟩ := h
  rfl

theorem held_eq (h : p.Related R q) : q.held = p.held := by
  obtain ⟨env⟩ := h
  rfl

theorem withHeld (h : p.Related R q) (holders : List (String × ResourceId)) :
    (p.withHeld holders).Related R (q.withHeld holders) := by
  obtain ⟨env⟩ := h
  exact .intro (p := p.withHeld holders) env

theorem setEnv (h : p.Related R q) {e e' : Env d.State} (env : R e e') :
    Related R { p with env := e } { q with env := e' } := by
  obtain ⟨-⟩ := h
  exact .intro (p := { p with env := e }) env

theorem onEnv (h : p.Related R q) {f : Env d.State → Env d.State} (hf : Env.Respects R f) :
    (p.onEnv f).Related R (q.onEnv f) := h.setEnv (hf _ _ h.env)

end Related

/-! ### Making resources -/

theorem alike_run {α : Type} {act : Act d.State α} (h : Act.Respects R act) :
    Attempt.Alike (Related R) Eq (Pool.run act) (Pool.run act) := by
  refine h.within (fun _ _ related => related.env) fun p q related e e' env => ?_
  exact related.setEnv env

section

variable (hd : d.Respects R)
include hd

theorem alike_addTensor (device : d.Device) (bytes : List UInt8) (count size : UInt64)
    (dataType : DataType) : Attempt.Alike (Related R) Eq
      (Pool.addTensor device bytes count size dataType)
      (Pool.addTensor device bytes count size dataType) := by
  refine (alike_run (Tensor.respects_create hd _ _ _ _ _)).bind_same fun x p q related => ?_
  obtain ⟨env⟩ := related
  exact .ok rfl (.intro (p := { p with tensors := _ }) env)

theorem alike_addAlgorithm (device : d.Device) (tensors : List Nat) (code : List UInt32)
    (workgroup : Extent) (pushConstants : List UInt8) : Attempt.Alike (Related R) Eq
      (Pool.addAlgorithm device tensors code workgroup pushConstants)
      (Pool.addAlgorithm device tensors code workgroup pushConstants) := by
  refine .get_bind fun p q related => ?_
  have same : q.tensors = p.tensors := by
    obtain ⟨-⟩ := related
    rfl
  rw [same]
  refine (alike_run (Algorithm.respects_create hd _ _ _ _ _ _)).bind_same
    (fun x p q related => ?_) p q related
  obtain ⟨env⟩ := related
  exact .ok rfl (.intro (p := { p with algorithms := _ }) env)

theorem alike_addSequence (device : d.Device) (adapter : AdapterHandle) (queue : Queue.Handle)
    (family timestamps : UInt32) : Attempt.Alike (Related R) Eq
      (Pool.addSequence device adapter queue family timestamps)
      (Pool.addSequence device adapter queue family timestamps) := by
  refine (alike_run (Sequence.respects_create hd _ _ _ _ _)).bind_same fun x p q related => ?_
  obtain ⟨env⟩ := related
  exact .ok rfl (.intro (p := { p with sequences := _ }) env)

end

/-! ### Destroying -/

/-- Of the resources that are destroyed in order those can be left out that are destroyed already. -/
theorem destroyEach_filter {wanted : ResourceId → Bool} (h : ∀ r ∈ l, p.isInit r → wanted r) :
    p.destroyEach (l.filter wanted) = p.destroyEach l := by
  induction l generalizing p with
  | nil => rfl
  | cons r l ih =>
    have rest := ih (p := p.destroy r) fun r' hr' hinit =>
      h r' (List.mem_cons_of_mem _ hr') ((Destroys.of_destroy r p).isInit hinit)
    cases hr : wanted r with
    | true =>
      rw [List.filter_cons_of_pos hr]
      exact rest
    | false =>
      have gone : p.isInit r = false :=
        Bool.eq_false_iff.2 fun hinit => by simp [h r List.mem_cons_self hinit] at hr
      rw [List.filter_cons_of_neg (by simp [hr])]
      rw [destroy_of_not_init gone] at rest
      exact rest.trans (congrArg (List.foldl _ · l) (destroy_of_not_init gone).symm)

section

variable (hd : d.Respects R)
include hd

theorem Related.destroy (h : p.Related R q) (r : ResourceId) :
    (p.destroy r).Related R (q.destroy r) := by
  obtain @⟨e, env⟩ := h
  cases r with
  | tensor i =>
    change (p.destroyTensor i).Related R ((p.withEnv e).destroyTensor i)
    cases ht : p.tensors[i]? with
    | none => simpa only [destroyTensor, withEnv, ht] using Related.intro env
    | some t =>
      rw [destroyTensor_of_some ht, destroyTensor_of_some (p := p.withEnv e) ht]
      exact .intro (p := { p with env := _, tensors := _ })
        (Slot.respects_release hd _ _ (hd.destroyBuffer _) _ _ env)
  | algorithm i =>
    change (p.destroyAlgorithm i).Related R ((p.withEnv e).destroyAlgorithm i)
    cases ha : p.algorithms[i]? with
    | none => simpa only [destroyAlgorithm, withEnv, ha] using Related.intro env
    | some a =>
      rw [destroyAlgorithm_of_some ha, destroyAlgorithm_of_some (p := p.withEnv e) ha]
      exact .intro (p := { p with env := _, algorithms := _ })
        (Slot.respects_release hd _ _ (hd.destroyPipeline _) _ _ env)
  | sequence i =>
    change (p.destroySequence i).Related R ((p.withEnv e).destroySequence i)
    cases hq : p.sequences[i]? with
    | none => simpa only [destroySequence, withEnv, hq] using Related.intro env
    | some s =>
      rw [destroySequence_of_some hq, destroySequence_of_some (p := p.withEnv e) hq]
      exact .intro (p := { p with env := _, sequences := _ })
        (Slot.respects_release hd _ _ (hd.destroyBatch _) _ _ env)

theorem Related.destroyEach (h : p.Related R q) (l : List ResourceId) :
    (p.destroyEach l).Related R (q.destroyEach l) := by
  induction l generalizing p q with
  | nil => exact h
  | cons r l ih => exact ih (h.destroy hd r)

/-- Two lists of resources may differ in such that are destroyed already. -/
theorem Related.destroyEach_of_filter (h : p.Related R q)
    (same : l'.filter p.isInit = l.filter p.isInit) :
    (p.destroyEach l).Related R (q.destroyEach l') := by
  rw [← destroyEach_filter (p := p) fun _ _ hr => hr,
    ← destroyEach_filter (p := q) (l := l') fun _ _ hr => hr, h.isInit, same]
  exact h.destroyEach hd _

/-! ### Letting go -/

theorem Related.reapTensor (h : p.Related R q) (i : Nat) :
    (p.reapTensor i).Related R (q.reapTensor i) := by
  unfold Pool.reapTensor
  rw [h.isHeld]
  split
  · exact h
  · exact h.destroy hd (.tensor i)

theorem Related.foldl_reapTensor (h : p.Related R q) (tensors : List Nat) :
    (tensors.foldl Pool.reapTensor p).Related R (tensors.foldl Pool.reapTensor q) := by
  induction tensors generalizing p q with
  | nil => exact h
  | cons i tensors ih => exact ih (h.reapTensor hd i)

theorem Related.reap (h : p.Related R q) (r : ResourceId) :
    (p.reap r).Related R (q.reap r) := by
  unfold Pool.reap
  rw [h.isHeld]
  split
  · exact h
  · cases r with
    | tensor | sequence => exact h.destroy hd _
    | algorithm i =>
      have destroyed := h.destroy hd (.algorithm i)
      obtain ⟨-⟩ := h
      exact destroyed.foldl_reapTensor hd _

theorem Related.drop (h : p.Related R q) (name : String) :
    (p.drop name).Related R (q.drop name) := by
  have rest := h.withHeld (p.held.filter fun h => h.1 != name)
  unfold Pool.drop find?
  rw [h.held_eq]
  cases p.held.lookup name with
  | none => exact rest
  | some old => exact rest.reap hd old

theorem Related.hold (h : p.Related R q) (name : String) (r : ResourceId) :
    (p.hold name r).Related R (q.hold name r) := by
  have next := h.withHeld ((p.held.filter fun h => h.1 != name) ++ [(name, r)])
  unfold Pool.hold find?
  rw [h.held_eq]
  cases p.held.lookup name with
  | none => exact next
  | some old => exact next.reap hd old

theorem Related.dropAll (h : p.Related R q) : p.dropAll.Related R q.dropAll := by
  unfold Pool.dropAll names
  rw [h.held_eq]
  generalize (p.held.map (·.1)).mergeSort _ = l
  induction l generalizing p q with
  | nil => exact h
  | cons name l ih => exact ih (h.drop hd name)

end

end Pool

/-! ## Managers -/

namespace Manager

variable {p q : Pool d} {m m' : Manager d}

/-- Two states of a manager that differ at most in whether it manages resources and in what it tracks. -/
inductive Kin (m : Manager d) : Manager d → Prop
  | intro (manages : Bool) (s a t : Registry Nat) :
    Kin m { m with config := { m.config with manageResources := manages }, sequences := s,
                   algorithms := a, tensors := t }

/-- The manager tracks a resource that it has made, if it manages resources. -/
def enroll (m : Manager d) (r : ResourceId) : Manager d :=
  if m.config.manageResources then
    match r with
    | .tensor i => { m with tensors := m.tensors.register i }
    | .algorithm i => { m with algorithms := m.algorithms.register i }
    | .sequence i => { m with sequences := m.sequences.register i }
  else m

theorem tracked_enroll (m : Manager d) (r : ResourceId) (kind : Trace.Kind) :
    (m.enroll r).tracked kind =
      m.tracked kind ++ if m.config.manageResources ∧ r.kind = kind then [r] else [] := by
  cases r with
  | tensor i => exact (Session.registers_tensor m i).tracked kind
  | algorithm i => exact (Session.registers_algorithm m i).tracked kind
  | sequence i => exact (Session.registers_sequence m i).tracked kind

namespace Kin

theorem device_eq (h : m.Kin m') : m'.device = m.device := by
  obtain ⟨-⟩ := h
  rfl

theorem inst_eq (h : m.Kin m') : m'.inst = m.inst := by
  obtain ⟨-⟩ := h
  rfl

theorem enroll (h : m.Kin m') (r : ResourceId) : (m.enroll r).Kin (m'.enroll r) := by
  obtain ⟨manages, s, a, t⟩ := h
  unfold Manager.enroll
  cases r <;> dsimp only <;> split <;> split <;> exact .intro manages _ _ _

theorem detached (h : m.Kin m') : m.detached.Kin m'.detached := by
  obtain ⟨manages, s, a, t⟩ := h
  unfold Manager.detached
  dsimp only
  split <;> split <;> exact .intro manages _ _ _

/-- Both are torn down. -/
theorem destroy (h : m.Kin m') (p q : Pool d) : (m.destroy p).1.Kin (m'.destroy q).1 := by
  have detached := h.detached
  unfold Manager.destroy
  rw [h.device_eq, h.inst_eq]
  cases m.device with
  | none => exact h
  | some device =>
    cases m.inst with
    | none => exact detached
    | some inst =>
      dsimp only
      generalize m.detached = x, m'.detached = y at detached
      obtain ⟨manages, s, a, t⟩ := detached
      exact .intro manages s a t

end Kin

/-! ### Making resources -/

/-- Two managers have made the same resource, and track it if they manage resources. -/
structure Enrolls (identify : Nat → ResourceId) (m m' : Manager d) (a b : Nat × Manager d) : Prop where
  number : b.1 = a.1
  left : a.2 = m.enroll (identify a.1)
  right : b.2 = m'.enroll (identify a.1)

/-- A method of managers that makes the same resource for both of two managers. -/
def Making (R : Env d.State → Env d.State → Prop) (identify : Nat → ResourceId)
    (make : Manager d → Attempt (Pool d) (Nat × Manager d)) : Prop :=
  ∀ {m m'}, m.Kin m' → Attempt.Alike (Pool.Related R) (Enrolls identify m m') (make m) (make m')

section

variable (hd : d.Respects R)
include hd

theorem making_tensorOfBytes (bytes : List UInt8) (count size : UInt64) (dataType : DataType) :
    Making R .tensor fun m : Manager d => m.tensorOfBytes bytes count size dataType := by
  rintro m _ ⟨manages, s, a, t⟩
  exact (Attempt.Alike.ofExcept m.liveDevice).bind_same fun device =>
    (Pool.alike_addTensor hd device _ _ _ _).bind_same fun i => .pure ⟨rfl, rfl, rfl⟩

theorem making_algorithmWith (tensors : List Nat) (code : List UInt32) (workgroup : Extent)
    (pushConstants : List UInt8) :
    Making R .algorithm fun m : Manager d => m.algorithmWith tensors code workgroup pushConstants := by
  rintro m _ ⟨manages, s, a, t⟩
  exact (Attempt.Alike.ofExcept m.liveDevice).bind_same fun device =>
    (Pool.alike_addAlgorithm hd device _ _ _ _).bind_same fun i => .pure ⟨rfl, rfl, rfl⟩

theorem making_algorithm (tensors : List Nat) (code : List UInt32) :
    Making R .algorithm fun m : Manager d => m.algorithm tensors code := by
  intro m m' kin
  refine .get_bind fun p q related => ?_
  have same : leadingCount q tensors = leadingCount p tensors := by
    obtain ⟨-⟩ := related
    rfl
  rw [same]
  exact (Attempt.Alike.ofExcept _).bind_same (fun workgroup =>
    making_algorithmWith hd tensors code workgroup [] kin) p q related

theorem making_sequence (index : UInt64) (timestamps : UInt32) :
    Making R .sequence fun m : Manager d => m.sequence index timestamps := by
  rintro m _ ⟨manages, s, a, t⟩
  refine (Pool.alike_run (hd.notes _)).bind_same fun _ => ?_
  refine (Attempt.Alike.ofExcept m.liveDevice).bind_same fun device => ?_
  refine (Attempt.Alike.ofExcept (m.queueAt index)).bind_same fun (queue, family) => ?_
  exact (Pool.alike_addSequence hd device m.adapter queue family timestamps).bind_same fun i =>
    .pure ⟨rfl, rfl, rfl⟩

end

/-! ### Tearing down -/

theorem grows_clear (m : Manager d) (p : Pool d) : p.Grows (m.clear p).2 := by
  unfold Manager.clear
  split <;> exact .of_eq rfl

theorem grows_destroy (m : Manager d) (p : Pool d) : p.Grows (m.destroy p).2 := by
  cases hd : m.device with
  | none =>
    unfold Manager.destroy
    rw [hd]
    exact .of_eq rfl
  | some device =>
    rw [(Session.destroy_of_device hd p).2.2]
    exact (Pool.Grows.of_destroys (Session.destroys_cleared m p).1).trans (.of_eq rfl)

theorem grows_drop (m : Manager d) (p : Pool d) : p.Grows (m.drop p) := by
  unfold drop
  split
  · exact .of_eq rfl
  · exact grows_destroy m p

section

variable (hd : d.Respects R)
include hd

theorem respects_shut (m : Manager d) (device : Ownership d.Device) :
    Env.Respects R (m.shut device) := by
  have close := respects_closeDevice hd device
  intro e e' hR
  unfold shut
  cases m.inst with
  | none => exact hd.write _ _ _ (close _ _ hR)
  | some inst => exact respects_closeInstance hd inst m.callbacks _ _ (close _ _ hR)

/-- **Managers are torn down alike** if this is so of what they track. -/
theorem related_destroy (h : p.Related R q) (kin : m.Kin m')
    (cleared : (Session.cleared m p).Related R (Session.cleared m' q)) :
    (m.destroy p).2.Related R (m'.destroy q).2 := by
  cases hdev : m.device with
  | none =>
    unfold Manager.destroy
    rw [kin.device_eq, hdev]
    exact (h.onEnv (hd.write _)).onEnv (hd.write _)
  | some device =>
    rw [(Session.destroy_of_device hdev p).2.2,
      (Session.destroy_of_device (kin.device_eq.trans hdev) q).2.2]
    have same : m'.shut device = m.shut device := by
      obtain ⟨-⟩ := kin
      rfl
    rw [same]
    exact cleared.onEnv (respects_shut hd m device)

theorem related_drop (h : p.Related R q) (kin : m.Kin m')
    (cleared : (Session.cleared m p).Related R (Session.cleared m' q)) :
    (m.drop p).Related R (m'.drop q) := by
  have destroyed := related_destroy hd h kin cleared
  unfold drop isDestroyed
  rw [kin.device_eq]
  split
  · exact h
  · exact destroyed

end

end Manager

theorem Session.Produces.grows_of_error {m : Manager d} {identify : Nat → ResourceId}
    {tensors : List Nat} {act : Attempt (Pool d) (Nat × Manager d)}
    (h : Session.Produces m identify tensors act) {p q : Pool d} {error : Error}
    (failed : act p = .error error q) : p.Grows q := by
  rcases h.error failed with ⟨e, -, rfl⟩ | ⟨device, order, -, -, refused⟩
  · exact .of_eq rfl
  · cases refused <;> exact .of_eq rfl

end GpuCompute
