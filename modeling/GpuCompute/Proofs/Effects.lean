import GpuCompute.Proofs.Roster

/-!
# What operations do

There are few things that an operation of a session can do: set up a manager, make a resource by one,
change or tear down a manager, destroy resources or pass them between holders, or ask something. Which
of them it is, with the manager that it concerns, is `Session.effect_step`.
-/

namespace GpuCompute.Session

open Driver

variable {d : Driver} {s s' : Session d} {o : Operation} {n name : String} {m : Manager d}

/-- The manager that an operation sets up or is addressed to. -/
def manager? : Operation → Option String
  | .createManager m .. | .borrow m .. | .keepHandles m _ | .describeManager m | .properties m
  | .adapters m | .counts m | .clear m | .destroyManager m | .dropManager m | .tensor m ..
  | .tensorOfBytes m .. | .algorithm m .. | .algorithmWith m .. | .sequence m .. => some m
  | _ => none

/-- What an operation does to resources that are there. -/
inductive Handles (s : Session d) : Operation → Pool d → Prop
  /-- A tensor is edited; it keeps its buffer. -/
  | edits {o : Operation} {i : Nat} {t t' : Tensor d} (ht : s.pool.tensors[i]? = some t)
    (buffer : t'.buffer = t.buffer) : Handles s o { s.pool with tensors := s.pool.tensors.set i t' }
  | holds {o : Operation} (name : String) (r : ResourceId) : Handles s o (s.pool.hold name r)
  | letsGo {o : Operation} (name : String) : Handles s o (s.pool.drop name)
  | destroys {name : String} {r : ResourceId} (hr : s.pool.find? name = some r) :
    Handles s (.destroy name) (s.pool.destroy r)

/-- What an operation does. -/
inductive Effect (s : Session d) : Operation → Session d → Prop
  /-- Managers, slots and holders stay. Unless the caller makes a call, the driver is only asked. -/
  | aside {o : Operation} {s' : Session d} (h : Untouched s s')
    (asked : (∀ c, o ≠ .call c) →
      d.Asked (fun _ => True) (fun _ => True) s.pool.env s'.pool.env) : Effect s o s'
  /-- Resources are destroyed, edited or held by others. -/
  | handles {o : Operation} {p : Pool d} (h : Handles s o p) : Effect s o { s with pool := p }
  | makes {o : Operation} {n name : String} {identify : Nat → ResourceId} {tensors : List Nat}
    {make : Manager d → Attempt (Pool d) (Nat × Manager d)} (ho : asks? o = some (n, name))
    (hstep : step o s = addResource n name identify make s)
    (produces : ∀ m, Produces m identify tensors (make m)) :
    Effect s o ((addResource n name identify make).after s)
  | creates (n : String) (config : Config) (selection : Selection) :
    Effect s (.createManager n config selection)
      ((addManager n (Manager.create d config selection)).after s)
  | borrows {n inst device : String} {adapter : AdapterHandle} {families : List UInt32}
    {config : Config} {i : d.Instance} {x : d.Device} (hi : s.instances.lookup inst = some i)
    (hx : s.devices.lookup device = some x) :
    Effect s (.borrow n inst device adapter families config)
      ((addManager n (Manager.borrow config i adapter x families)).after s)
  | clears {n : String} {m : Manager d} (hm : s.managers.lookup n = some m) :
    Effect s (.clear n) ({ s with pool := (m.clear s.pool).2 }.setManager n (m.clear s.pool).1)
  | closes {n : String} {m : Manager d} (hm : s.managers.lookup n = some m) :
    Effect s (.destroyManager n)
      ({ s with pool := (m.destroy s.pool).2 }.setManager n (m.destroy s.pool).1)
  | drops (n : String) : Effect s (.dropManager n) (dropManager n s)

theorem Effect.nothing (s : Session d) (o : Operation) : Effect s o s :=
  .aside (.refl s) fun _ => .refl _

/-- An operation that is addressed to nobody does nothing. -/
theorem effect_withManager {act : Manager d → Attempt (Session d) (Reply d)}
    (h : ∀ m, s.managers.lookup n = some m → Effect s o ((act m).after s)) :
    Effect s o ((withManager n act).after s) :=
  after_withManager_induct (.nothing s o) h

theorem effect_withTensor {act : Nat → Tensor d → Attempt (Session d) (Reply d)}
    (h : ∀ i t, s.pool.tensors[i]? = some t → Effect s o ((act i t).after s)) :
    Effect s o ((withTensor n act).after s) :=
  after_withTensor_induct (.nothing s o) fun i t ht => h i t (tensor?_some ht)

theorem effect_withResource {act : ResourceId → Attempt (Session d) (Reply d)}
    (h : ∀ r, s.pool.find? n = some r → Effect s o ((act r).after s)) :
    Effect s o ((withResource n act).after s) :=
  after_withResource_induct (.nothing s o) h

/-- An operation that asks something about the instance of a manager. -/
theorem effect_ask {α : Type} {act : Manager d → Act d.State α} {f : α → Attempt (Session d) (Reply d)}
    (hf : ∀ a s, (f a).after s = s)
    (hact : ∀ (m : Manager d) e, d.Asked (fun i => ∃ o, m.inst = some o ∧ o.handle = i)
      Driver.nothing e ((act m).after e)) :
    Effect s o ((withManager n fun m => run (act m) >>= f).after s) := by
  refine effect_withManager fun m _ => ?_
  rw [after_run_bind hf]
  exact .aside ⟨rfl, rfl⟩ fun _ => (hact m _).mono (fun _ _ => trivial) fun _ _ => trivial

theorem effect_addAlgorithm {names : List String}
    {make : List Nat → Manager d → Attempt (Pool d) (Nat × Manager d)}
    (ho : asks? o = some (n, name)) (hstep : step o s = addAlgorithm n name names make s)
    (produces : ∀ numbers m, Produces m .algorithm numbers (make numbers m)) :
    Effect s o ((addAlgorithm n name names make).after s) := by
  unfold addAlgorithm at hstep ⊢
  rw [Attempt.get_bind] at hstep
  rw [Attempt.after_get_bind]
  cases h : s.tensorNumbers names with
  | error tensor => exact .nothing s o
  | ok numbers =>
    rw [h] at hstep
    exact .makes ho hstep (produces numbers)

/-- When a name takes hold of a resource, what it held before may be destroyed. -/
theorem destroys_hold (name : String) (r : ResourceId) (p : Pool d) :
    ∃ q, p.Destroys q ∧ (p.hold name r).env = q.env := by
  unfold Pool.hold
  cases p.find? name with
  | none => exact ⟨p, .refl _, rfl⟩
  | some old =>
    obtain ⟨q, hq, destroys, -⟩ := Pool.reap_cases old (without name p.held ++ [(name, r)]) p
    exact ⟨q, destroys, congrArg (·.env) hq⟩

theorem destroys_drop (name : String) (p : Pool d) :
    ∃ q, p.Destroys q ∧ (p.drop name).env = q.env := by
  unfold Pool.drop
  cases p.find? name with
  | none => exact ⟨p, .refl _, rfl⟩
  | some old =>
    obtain ⟨q, hq, destroys, -⟩ := Pool.reap_cases old (without name p.held) p
    exact ⟨q, destroys, congrArg (·.env) hq⟩

/-- To the driver, what is done to resources that are there is at most that some are destroyed. -/
theorem Handles.exists_destroys {p : Pool d} (h : Handles s o p) :
    ∃ q, s.pool.Destroys q ∧ p.env = q.env := by
  cases h with
  | edits => exact ⟨s.pool, .refl _, rfl⟩
  | holds name r => exact destroys_hold name r s.pool
  | letsGo name => exact destroys_drop name s.pool
  | destroys => exact ⟨_, .of_destroy _ _, rfl⟩

/-- **What an operation does.** -/
theorem effect_step (o : Operation) (s : Session d) : Effect s o ((step o).after s) := by
  cases o with
  | createManager n config selection => exact .creates n config selection
  | borrow n inst device adapter families config =>
    exact after_withInstance_induct (.nothing s _) fun i hi =>
      after_withDevice_induct (.nothing s _) fun x hx => .borrows hi hx
  | tensor | tensorOfBytes =>
    exact .makes rfl rfl fun m => produces_tensorOfBytes m _ _ _ _
  | sequence => exact .makes rfl rfl fun m => produces_sequence m _ _
  | algorithm n name tensors code =>
    exact effect_addAlgorithm rfl rfl fun numbers m => produces_algorithm m numbers code
  | algorithmWith n name tensors code workgroup pushConstants =>
    exact effect_addAlgorithm rfl rfl fun numbers m =>
      produces_algorithmWith m numbers code workgroup pushConstants
  | clear n => exact effect_withManager fun m hm => .clears hm
  | destroyManager n => exact effect_withManager fun m hm => .closes hm
  | dropManager n =>
    exact effect_withManager fun _ _ => .drops n
  | keepHandles | describeManager | counts =>
    exact effect_withManager fun m _ => .aside ⟨rfl, rfl⟩ fun _ => .refl _
  | properties n =>
    exact effect_ask (fun _ _ => rfl) fun m => asked_liveInstance fun i =>
      OnlyAsks.of_look (.properties · (only_self _) _)
  | adapters n =>
    exact effect_ask (fun _ _ => rfl) fun m => asked_liveInstance fun i =>
      OnlyAsks.of_asks (.adapters · (only_self _))
  | readElements name type =>
    refine effect_withTensor fun _ t _ => ?_
    cases t.elements type <;> exact .nothing s _
  | writeElements name data =>
    refine effect_withTensor fun _ t ht => ?_
    cases h : t.setElements data with
    | error => exact .nothing s _
    | ok t' => exact .handles (.edits ht (buffer_setElements h))
  | readBytes => exact effect_withTensor fun _ _ _ => .nothing s _
  | setDescriptorType => exact effect_withTensor fun _ _ ht => .handles (.edits ht rfl)
  | holdBound name algorithm position =>
    unfold step
    rw [Attempt.after_get_bind]
    cases s.boundTensor? algorithm position with
    | none => exact .nothing s _
    | some i => exact .handles (.holds name _)
  | describe => exact effect_withResource fun _ _ => .nothing s _
  | destroy => exact effect_withResource fun _ hr => .handles (.destroys hr)
  | share => exact effect_withResource fun r _ => .handles (.holds _ r)
  | drop name => exact effect_withResource fun _ _ => .handles (.letsGo name)
  | call c => exact .aside (untouched_call c s) fun h => absurd rfl (h c)

theorem managers_dropManager (n : String) (s : Session d) :
    (dropManager n s).managers = without n s.managers := by
  unfold dropManager
  cases s.managers.lookup n <;> rfl

theorem managers_storeManager (n : String) (m : Manager d) (s : Session d) :
    (storeManager n m s).managers = store n m s.managers := by
  unfold storeManager
  cases s.managers.lookup n <;> rfl

theorem lookup_addManager_of_ne {make : Act d.State (Manager d)} (hn : n ≠ name) :
    ((addManager name make).after s).managers.lookup n = s.managers.lookup n := by
  rw [after_addManager]
  cases make s.pool.env with
  | ok m e =>
    change (storeManager name m (s.withEnv e)).managers.lookup n = _
    rw [managers_storeManager]
    exact lookup_store_of_ne hn _ _
  | error => rfl

/-- An operation leaves all managers alone but the one that it sets up or is addressed to. -/
theorem Effect.lookup_of_ne (h : Effect s o s') (hne : manager? o ≠ some n) :
    s'.managers.lookup n = s.managers.lookup n := by
  have apart {name : String} (h : manager? o = some name) : n ≠ name := fun heq => hne (heq ▸ h)
  cases h with
  | aside h => rw [h.managers]
  | handles => rfl
  | creates name => exact lookup_addManager_of_ne (apart rfl)
  | borrows => exact lookup_addManager_of_ne (apart rfl)
  | @makes _ name _ _ _ _ ho =>
    have hn : n ≠ name := by
      refine apart ?_
      cases o <;> cases ho <;> rfl
    rw [after_addResource]
    cases s.managers.lookup name with
    | none => rfl
    | some m =>
      dsimp only
      split
      · exact lookup_update_of_ne hn _ _
      · rfl
  | clears => exact lookup_update_of_ne (apart rfl) _ _
  | closes => exact lookup_update_of_ne (apart rfl) _ _
  | drops name =>
    rw [managers_dropManager]
    exact lookup_without_of_ne (apart rfl) _

end GpuCompute.Session
