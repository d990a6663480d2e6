import GpuCompute.Proofs.Production
import GpuCompute.Proofs.Teardown

/-!
# Operations are moves

Each operation of a session is a number of moves (`Session.reaches_step`), provided that no two managers
have the same name and no two holders either, which stays so. With that, an invariant of the moves is
an invariant of whole runs (`Session.reaches_steps`).
-/

namespace GpuCompute.Session

open Driver

variable {d : Driver} {P : Permit d} {s s' : Session d} {name : String} {m : Manager d}

/-! ## Sessions -/

/-- Moves lead from one session to another, in which names are different again. -/
structure Reaches (P : Permit d) (s : Session d) (l : List (Manager d)) (s' : Session d) : Prop where
  moves : Moves P s l s'
  named : s'.Named

theorem Reaches.refl (hs : s.Named) : Reaches P s [] s := ⟨.nil s, hs⟩

theorem Reaches.then_ {s'' : Session d} {l : List (Manager d)} (h : Reaches P s l s')
    (h' : Reaches P s' [] s'') : Reaches P s l s'' := ⟨h.moves.then_ h'.moves, h'.named⟩

theorem reaches_turn (hs : s.Named) {e : Env d.State} (h : Turn P s e) :
    Reaches P s [] (s.withEnv e) := ⟨.of_move (.turns h), hs.managers, hs.held⟩

theorem reaches_asks (hs : s.Named) {I : d.Instance → Prop} {e : Env d.State}
    (h : d.Asked I nothing s.pool.env e) (may : ∀ i, I i → s.MayAsk P i) :
    Reaches P s [] (s.withEnv e) := reaches_turn hs (.asks h may)

theorem runPool_ok {α : Type} {act : Attempt (Pool d) α} {a : α} {p : Pool d}
    (h : act s.pool = .ok a p) : runPool act s = .ok a { s with pool := p } := by
  unfold runPool Attempt.within
  rw [h]

theorem runPool_error {α : Type} {act : Attempt (Pool d) α} {error : Error} {p : Pool d}
    (h : act s.pool = .error error p) : runPool act s = .error error { s with pool := p } := by
  unfold runPool Attempt.within
  rw [h]

theorem run_ok {α : Type} {act : Act d.State α} {a : α} {e : Env d.State}
    (h : act s.pool.env = .ok a e) : run act s = .ok a (s.withEnv e) := by
  refine runPool_ok ?_
  unfold Pool.run Attempt.within
  rw [h]
  rfl

theorem run_error {α : Type} {act : Act d.State α} {error : Error} {e : Env d.State}
    (h : act s.pool.env = .error error e) : run act s = .error error (s.withEnv e) := by
  refine runPool_error ?_
  unfold Pool.run Attempt.within
  rw [h]
  rfl

theorem after_run {α : Type} (act : Act d.State α) (s : Session d) :
    (run act).after s = s.withEnv (act.after s.pool.env) := by
  cases h : act s.pool.env with
  | ok a e => rw [Attempt.after_of_ok (run_ok h), Attempt.after_of_ok h]
  | error error e => rw [Attempt.after_of_error (run_error h), Attempt.after_of_error h]

/-- What is done with the answer of an action that leaves the session alone otherwise. -/
theorem after_run_bind {α : Type} {act : Act d.State α} {f : α → Attempt (Session d) (Reply d)}
    (hf : ∀ a s, (f a).after s = s) (s : Session d) :
    (run act >>= f).after s = s.withEnv (act.after s.pool.env) := by
  cases h : act s.pool.env with
  | ok a e => rw [Attempt.after_bind_of_ok (run_ok h), hf, Attempt.after_of_ok h]
  | error error e => rw [Attempt.after_bind_of_error (run_error h), Attempt.after_of_error h]

/-! ### Looking up -/

section

variable {l : List (Manager d)}

theorem after_withManager (name : String) (act : Manager d → Attempt (Session d) (Reply d))
    (s : Session d) : (withManager name act).after s =
      match s.managers.lookup name with
      | none => s
      | some m => (act m).after s := by
  unfold withManager
  rw [Attempt.after_get_bind]
  cases s.managers.lookup name <;> rfl

theorem after_withTensor (name : String)
    (act : Nat → Tensor d → Attempt (Session d) (Reply d)) (s : Session d) :
    (withTensor name act).after s =
      match s.tensor? name with
      | none => s
      | some (i, t) => (act i t).after s := by
  unfold withTensor
  rw [Attempt.after_get_bind]
  cases s.tensor? name <;> rfl

theorem after_withResource (name : String) (act : ResourceId → Attempt (Session d) (Reply d))
    (s : Session d) : (withResource name act).after s =
      match s.pool.find? name with
      | none => s
      | some r => (act r).after s := by
  unfold withResource
  rw [Attempt.after_get_bind]
  cases s.pool.find? name <;> rfl

theorem after_withInstance (name : String) (act : d.Instance → Attempt (Session d) (Reply d))
    (s : Session d) : (withInstance name act).after s =
      match s.instances.lookup name with
      | none => s
      | some i => (act i).after s := by
  unfold withInstance
  rw [Attempt.after_get_bind]
  cases s.instances.lookup name <;> rfl

theorem after_withDevice (name : String) (act : d.Device → Attempt (Session d) (Reply d))
    (s : Session d) : (withDevice name act).after s =
      match s.devices.lookup name with
      | none => s
      | some x => (act x).after s := by
  unfold withDevice
  rw [Attempt.after_get_bind]
  cases s.devices.lookup name <;> rfl

/-! What holds when a name is unknown, and after an action on what it stands for, holds after the name was
looked up. -/

section

variable {C : Session d → Prop} (unknown : C s)
include unknown

@[elab_as_elim]
theorem after_withManager_induct {act : Manager d → Attempt (Session d) (Reply d)}
    (h : ∀ m, s.managers.lookup name = some m → C ((act m).after s)) :
    C ((withManager name act).after s) := by
  rw [after_withManager]
  split
  · exact unknown
  · next m hm => exact h m hm

@[elab_as_elim]
theorem after_withTensor_induct {act : Nat → Tensor d → Attempt (Session d) (Reply d)}
    (h : ∀ i t, s.tensor? name = some (i, t) → C ((act i t).after s)) :
    C ((withTensor name act).after s) := by
  rw [after_withTensor]
  split
  · exact unknown
  · next i t ht => exact h i t ht

@[elab_as_elim]
theorem after_withResource_induct {act : ResourceId → Attempt (Session d) (Reply d)}
    (h : ∀ r, s.pool.find? name = some r → C ((act r).after s)) :
    C ((withResource name act).after s) := by
  rw [after_withResource]
  split
  · exact unknown
  · next r hr => exact h r hr

@[elab_as_elim]
theorem after_withInstance_induct {act : d.Instance → Attempt (Session d) (Reply d)}
    (h : ∀ i, s.instances.lookup name = some i → C ((act i).after s)) :
    C ((withInstance name act).after s) := by
  rw [after_withInstance]
  split
  · exact unknown
  · next i hi => exact h i hi

@[elab_as_elim]
theorem after_withDevice_induct {act : d.Device → Attempt (Session d) (Reply d)}
    (h : ∀ x, s.devices.lookup name = some x → C ((act x).after s)) :
    C ((withDevice name act).after s) := by
  rw [after_withDevice]
  split
  · exact unknown
  · next x hx => exact h x hx

end

theorem reaches_withManager (hs : s.Named) {act : Manager d → Attempt (Session d) (Reply d)}
    (h : ∀ m, s.managers.lookup name = some m → Reaches P s [] ((act m).after s)) :
    Reaches P s [] ((withManager name act).after s) :=
  after_withManager_induct (.refl hs) h

theorem tensor?_some {i : Nat} {t : Tensor d} (h : s.tensor? name = some (i, t)) :
    s.pool.tensors[i]? = some t := by
  unfold tensor? at h
  split at h
  · obtain ⟨t', ht, heq⟩ := Option.map_eq_some_iff.1 h
    cases heq
    exact ht
  · cases h

theorem reaches_withTensor (hs : s.Named)
    {act : Nat → Tensor d → Attempt (Session d) (Reply d)}
    (h : ∀ i t, s.pool.tensors[i]? = some t → Reaches P s [] ((act i t).after s)) :
    Reaches P s [] ((withTensor name act).after s) :=
  after_withTensor_induct (.refl hs) fun i t ht => h i t (tensor?_some ht)

theorem reaches_withResource (hs : s.Named) {act : ResourceId → Attempt (Session d) (Reply d)}
    (h : ∀ r, s.pool.find? name = some r → Reaches P s [] ((act r).after s)) :
    Reaches P s [] ((withResource name act).after s) :=
  after_withResource_induct (.refl hs) h

theorem reaches_withInstance (hs : s.Named) {act : d.Instance → Attempt (Session d) (Reply d)}
    (h : ∀ i, s.instances.lookup name = some i → Reaches P s [] ((act i).after s)) :
    Reaches P s [] ((withInstance name act).after s) :=
  after_withInstance_induct (.refl hs) h

theorem reaches_withDevice (hs : s.Named) {act : d.Device → Attempt (Session d) (Reply d)}
    (h : ∀ x, s.devices.lookup name = some x → Reaches P s [] ((act x).after s)) :
    Reaches P s [] ((withDevice name act).after s) :=
  after_withDevice_induct (.refl hs) h

end

/-! ### Managers -/

theorem after_addManager (name : String) (make : Act d.State (Manager d)) (s : Session d) :
    (addManager name make).after s =
      match make s.pool.env with
      | .ok m e => storeManager name m (s.withEnv e)
      | .error _ e => s.withEnv e := by
  unfold addManager
  cases h : make s.pool.env with
  | ok m e => rw [Attempt.after_bind_of_ok (run_ok h), Attempt.after_modify_bind, Attempt.after_pure]
  | error error e => rw [Attempt.after_bind_of_error (run_error h)]

theorem reaches_addManager (hs : s.Named) {make : Act d.State (Manager d)} {m : Manager d}
    {e : Env d.State} (h : make s.pool.env = .ok m e)
    (move : Move P s [m] { s.withEnv e with managers := s.managers ++ [(name, m)] })
    (stay : ∀ x ∈ ((addManager name make).after s).managers,
      P.stays ((addManager name make).after s).pool.env x.2) :
    Reaches P s [m] ((addManager name make).after s) := by
  have hafter : (addManager name make).after s = storeManager name m (s.withEnv e) := by
    rw [after_addManager, h]
  rw [hafter] at stay ⊢
  have hs' : (s.withEnv e).Named := ⟨hs.managers, hs.held⟩
  exact ⟨(Moves.of_move move).then_ (moves_storeManager hs'.managers stay),
    named_storeManager hs' name m⟩

/-- A manager changes along with the pool. -/
theorem reaches_setManager (hs : s.Named) {m m' : Manager d} {p : Pool d}
    (hm : s.managers.lookup name = some m) (held : p.held = s.pool.held)
    (moves : ∀ l₁ l₂, Splits name m s.managers l₁ l₂ →
      Moves P s [] { s with pool := p, managers := l₁ ++ (name, m') :: l₂ }) :
    Reaches P s [] (setManager name m' { s with pool := p }) := by
  obtain ⟨l₁, l₂, hl⟩ := exists_splits hs.managers hm
  have heq : setManager name m' { s with pool := p } =
      { s with pool := p, managers := l₁ ++ (name, m') :: l₂ } := by
    unfold setManager
    rw [hl.update]
  refine ⟨heq ▸ moves l₁ l₂ hl, ?_, ?_⟩
  · change (namesOf (update name m' s.managers)).Nodup
    rw [namesOf_update]
    exact hs.managers
  · change (namesOf p.held).Nodup
    rw [held]
    exact hs.held

/-- A manager that is cleared still tracks what is of use. -/
theorem clear_cases (m : Manager d) (p : Pool d) : m.clear p = (m, p) ∨
    ∃ m' record, m.clear p = (m', p.onEnv (.write record)) ∧ m.Like m' ∧
      ∀ r, m.Tracks r → p.isUsable r → m'.Tracks r := by
  unfold Manager.clear
  split
  · refine .inr ⟨_, _, rfl, ⟨rfl, rfl, rfl, rfl, rfl, rfl, rfl⟩, fun r hr huse => ?_⟩
    cases r <;> exact List.mem_filter.2 ⟨hr, huse⟩
  · exact .inl rfl

theorem reaches_clear (hs : s.Named) (hm : s.managers.lookup name = some m) :
    Reaches P s [] (setManager name (m.clear s.pool).1 { s with pool := (m.clear s.pool).2 }) := by
  obtain h | ⟨m', record, h, like, useful⟩ := clear_cases m s.pool <;> rw [h]
  · refine reaches_setManager hs hm rfl fun l₁ l₂ hl => ?_
    rw [← hl.eq]
    exact .nil s
  · refine reaches_setManager hs hm rfl fun l₁ l₂ hl => ?_
    exact (Moves.of_move (.prunes hl.eq like useful)).then_ (moves_write record _)

theorem reaches_destroyManager (hs : s.Named) (hm : s.managers.lookup name = some m)
    (stay : ∀ x ∈ (setManager name (m.destroy s.pool).1
        { s with pool := (m.destroy s.pool).2 }).managers, P.stays (m.destroy s.pool).2.env x.2) :
    Reaches P s []
      (setManager name (m.destroy s.pool).1 { s with pool := (m.destroy s.pool).2 }) := by
  refine reaches_setManager hs hm (held_destroyManager m s.pool) fun l₁ l₂ hl => ?_
  refine moves_destroyManager hl.eq fun x hx => stay x ?_
  change x ∈ update name _ s.managers
  rw [hl.update]
  exact mem_of_around hx

theorem reaches_dropManager (hs : s.Named)
    (stay : ∀ x ∈ (dropManager name s).managers, P.stays (dropManager name s).pool.env x.2) :
    Reaches P s [] (dropManager name s) := by
  have managers := nodup_without name hs.managers
  unfold dropManager at stay ⊢
  cases hm : s.managers.lookup name with
  | none =>
    dsimp only
    rw [without_of_not_mem (not_mem_names_of_lookup hm)]
    exact .refl hs
  | some m =>
    obtain ⟨l₁, l₂, hl⟩ := exists_splits hs.managers hm
    rw [hm] at stay
    dsimp only at stay ⊢
    rw [hl.without] at managers stay ⊢
    refine ⟨moves_dropManager hl.eq stay, managers, ?_⟩
    change (namesOf (m.drop s.pool).held).Nodup
    rw [held_dropManager]
    exact hs.held

/-! ### Resources -/

theorem reaches_hold (hs : s.Named) (name : String) (r : ResourceId) :
    Reaches P s [] (s.onPool (.hold name r)) := by
  refine ⟨moves_hold hs.held name r, hs.managers, ?_⟩
  change (namesOf (s.pool.hold name r).held).Nodup
  rw [held_hold]
  exact nodup_store name r hs.held

theorem reaches_drop (hs : s.Named) (name : String) :
    Reaches P s [] (s.onPool (.drop name)) := by
  refine ⟨moves_drop hs.held name, hs.managers, ?_⟩
  change (namesOf (s.pool.drop name).held).Nodup
  rw [held_drop]
  exact nodup_without name hs.held

theorem reaches_destroy (hs : s.Named) (r : ResourceId) :
    Reaches P s [] (s.onPool (.destroy r)) := by
  refine ⟨.of_move (.destroys r), hs.managers, ?_⟩
  change (namesOf (s.pool.destroy r).held).Nodup
  rw [(Pool.empties_destroy r s.pool).held]
  exact hs.held

theorem buffer_setElements {t t' : Tensor d} {data : Elements} (h : t.setElements data = .ok t') :
    t'.buffer = t.buffer := by
  unfold Tensor.setElements at h
  split at h
  · cases h
  · split at h
    · cases h
    · cases h
      rfl

theorem reaches_edit (hs : s.Named) {i : Nat} {t t' : Tensor d}
    (h : s.pool.tensors[i]? = some t) (buffer : t'.buffer = t.buffer) :
    Reaches P s [] (s.setTensor i t') := ⟨.of_move (.edits h buffer), hs.managers, hs.held⟩

theorem after_addResource (n name : String) (identify : Nat → ResourceId)
    (make : Manager d → Attempt (Pool d) (Nat × Manager d)) (s : Session d) :
    (addResource n name identify make).after s =
      match s.managers.lookup n with
      | none => s
      | some m => match make m s.pool with
        | .ok (i, m') p => ({ s with pool := p }.setManager n m').onPool (.hold name (identify i))
        | .error _ p => { s with pool := p } := by
  unfold addResource
  rw [after_withManager]
  cases s.managers.lookup n with
  | none => rfl
  | some m =>
    dsimp only
    cases h : make m s.pool with
    | ok made p =>
      rw [Attempt.after_bind_of_ok (runPool_ok h), Attempt.after_modify_bind, Attempt.after_pure]
    | error error p => rw [Attempt.after_bind_of_error (runPool_error h)]

theorem reaches_addResource (hs : s.Named) {n name : String} {identify : Nat → ResourceId}
    {tensors : List Nat} {make : Manager d → Attempt (Pool d) (Nat × Manager d)}
    (produces : ∀ m, Produces m identify tensors (make m))
    (may : ∀ m device order, s.managers.lookup n = some m → m.device = some device →
      s.pool.BindsOnly tensors order → s.MayOrder P device.handle order) :
    Reaches P s [] ((addResource n name identify make).after s) := by
  rw [after_addResource]
  cases hm : s.managers.lookup n with
  | none => exact .refl hs
  | some m =>
    obtain ⟨l₁, l₂, hl⟩ := exists_splits hs.managers hm
    dsimp only
    cases h : make m s.pool with
    | ok made p =>
      obtain ⟨i, m'⟩ := made
      obtain ⟨device, order, hd, binds, makes, registers, -⟩ := (produces m).ok h
      have move : Move P s [] { s with
          pool := p.withHeld (s.pool.held ++ [(name, identify i)])
          managers := l₁ ++ (n, m') :: l₂ } :=
        .makes hl.eq hd (may m device order hm hd binds) makes registers.like registers.tracks_old
          registers.tracks_new
      obtain ⟨e₁, x, e₂, -, -, -, adds⟩ := makes
      have heq : ({ s with pool := p }.setManager n m').onPool (.hold name (identify i)) =
          { s with pool := (p.withHeld s.pool.held).hold name (identify i)
                   managers := l₁ ++ (n, m') :: l₂ } := by
        unfold setManager
        rw [hl.update, ← adds.held]
        rfl
      dsimp only
      refine ⟨?_, ?_, ?_⟩
      · rw [heq]
        exact (Moves.of_move move).then_ (moves_hold_of_held hs.held rfl)
      · change (namesOf (update n m' s.managers)).Nodup
        rw [namesOf_update]
        exact hs.managers
      · change (namesOf (p.hold name (identify i)).held).Nodup
        rw [held_hold, adds.held]
        exact nodup_store name _ hs.held
    | error error p =>
      rcases (produces m).error h with ⟨e, asked, rfl⟩ | ⟨device, order, hd, binds, refused⟩
      · exact reaches_asks hs (I := nothing) asked fun _ h => h.elim
      · have hx : (n, m) ∈ s.managers := mem_of_lookup hm
        cases refused with
        | asking asked => exact reaches_asks hs (I := nothing) asked fun _ h => h.elim
        | making asked failed =>
          exact reaches_turn hs (.refuses hx hd (may m device order hm hd binds) asked failed)

/-! ## Calls of the driver -/

/-- Whether a call of the driver makes, asks or ends nothing but instances and devices. -/
def plain : DriverCall → Bool
  | .createInstance .. | .destroyInstance _ | .createDevice .. | .releaseDevice _
  | .destroyDevice _ | .probeDevice _ | .survey .. => true
  | _ => false

theorem onlyAsks_survey (i : d.Instance) (adapter : AdapterHandle) :
    OnlyAsks (only i) nothing (survey i adapter) :=
  (OnlyAsks.of_look (.queueFamilies · (only_self _) _)).bind fun _ =>
    (OnlyAsks.of_look (.properties · (only_self _) _)).bind fun _ =>
    (OnlyAsks.of_asks (.deviceExtensions · (only_self _) _)).bind fun _ =>
    (OnlyAsks.of_asks .instanceExtensions).bind fun _ =>
    (OnlyAsks.of_asks .instanceLayers).bind fun _ => .pure _

theorem reaches_call (hs : s.Named) {c : DriverCall} (hc : plain c) (may : P.lends s c)
    (stay : ∀ x ∈ ((call c).after s).managers, P.stays ((call c).after s).pool.env x.2) :
    Reaches P s [] ((call c).after s) := by
  cases c with
  | createInstance name what =>
    unfold call at stay ⊢
    cases h : d.createInstance what s.pool.env with
    | ok i e =>
      rw [Attempt.after_bind_of_ok (run_ok h), Attempt.after_modify_bind, Attempt.after_pure]
      exact ⟨.of_move (.lendsInstance may h), hs.managers, hs.held⟩
    | error error e =>
      rw [Attempt.after_bind_of_error (run_error h)]
      exact reaches_turn hs (.refusesInstance may h)
  | createDevice name inst adapter what =>
    refine reaches_withInstance hs fun i hi => ?_
    cases h : d.createDevice i adapter what s.pool.env with
    | ok x e =>
      rw [Attempt.after_bind_of_ok (run_ok h), Attempt.after_modify_bind, Attempt.after_pure]
      exact ⟨.of_move (.lendsDevice hi may h), hs.managers, hs.held⟩
    | error error e =>
      rw [Attempt.after_bind_of_error (run_error h)]
      exact reaches_turn hs (.refusesDevice hi may h)
  | destroyInstance inst =>
    unfold call at stay ⊢
    rw [after_withInstance] at stay ⊢
    cases hi : s.instances.lookup inst with
    | none => exact .refl hs
    | some i =>
      rw [hi] at stay
      exact ⟨.of_move (.endsInstance hi may stay), hs.managers, hs.held⟩
  | releaseDevice device =>
    unfold call at stay ⊢
    rw [after_withDevice] at stay ⊢
    cases hx : s.devices.lookup device with
    | none => exact .refl hs
    | some x =>
      rw [hx] at stay
      exact ⟨.of_move (.releasesDevice hx may stay), hs.managers, hs.held⟩
  | destroyDevice device =>
    unfold call at stay ⊢
    rw [after_withDevice] at stay ⊢
    cases hx : s.devices.lookup device with
    | none => exact .refl hs
    | some x =>
      rw [hx] at stay
      exact ⟨.of_move (.endsDevice hx may stay), hs.managers, hs.held⟩
  | probeDevice device =>
    exact reaches_withDevice hs fun x _ => .refl hs
  | survey inst adapter =>
    refine reaches_withInstance hs fun i hi => ?_
    rw [after_run_bind fun _ _ => rfl]
    refine reaches_asks hs (onlyAsks_survey i adapter s.pool.env) ?_
    rintro _ rfl
    exact .inr ⟨inst, adapter, hi, may⟩
  | registerCallbacks | unregisterCallbacks | createBuffer | destroyBuffer | createPipeline
  | destroyPipeline | createBatch | destroyBatch => cases hc

/-! ## Steps -/

/-- The manager and the names of the tensors of an operation that makes an algorithm. -/
def binding? : Operation → Option (String × List String)
  | .algorithm m _ tensors _ | .algorithmWith m _ tensors .. => some (m, tensors)
  | _ => none

/-- The managers that an operation makes: one or none. -/
def newManagers (o : Operation) (s : Session d) : List (Manager d) :=
  match o with
  | .createManager _ config selection =>
    match Manager.create d config selection s.pool.env with
    | .ok m _ => [m]
    | .error .. => []
  | .borrow _ inst device adapter families config =>
    match s.instances.lookup inst, s.devices.lookup device with
    | some i, some x => match Manager.borrow config i adapter x families s.pool.env with
      | .ok m _ => [m]
      | .error .. => []
    | _, _ => []
  | _ => []

/-- An operation that observes a permit: tensors are bound where they may be, handles are lent that may
be lent, the managers that there are after it are in order then, and of the calls of the driver it is at
most a plain one that the caller may make. -/
structure Observes (P : Permit d) (o : Operation) (s : Session d) : Prop where
  binds : ∀ {n names m device numbers}, binding? o = some (n, names) →
    s.managers.lookup n = some m → m.device = some device → s.tensorNumbers names = .ok numbers →
    P.binds s device.handle numbers
  offers : ∀ {n inst device adapter families config i x},
    o = .borrow n inst device adapter families config → s.instances.lookup inst = some i →
    s.devices.lookup device = some x → P.offers s i x
  stays : ∀ x ∈ ((step o).after s).managers, P.stays ((step o).after s).pool.env x.2
  lends : ∀ c, o = .call c → plain c ∧ P.lends s c

theorem reaches_ask {α : Type} (hs : s.Named) {act : Manager d → Act d.State α}
    {f : α → Attempt (Session d) (Reply d)} (hf : ∀ a s, (f a).after s = s)
    (hact : ∀ (m : Manager d) e, d.Asked (fun i => ∃ o, m.inst = some o ∧ o.handle = i) nothing e
      ((act m).after e)) :
    Reaches P s [] ((withManager name fun m => run (act m) >>= f).after s) := by
  refine reaches_withManager hs fun m hm => ?_
  rw [after_run_bind hf]
  refine reaches_asks hs (hact m _) ?_
  rintro i ⟨o, ho, rfl⟩
  exact .inl ⟨(name, m), mem_of_lookup hm, o, ho, rfl⟩

/-- What is asked about the instance of a manager. -/
theorem asked_liveInstance {α : Type} {m : Manager d} {act : d.Instance → Act d.State α}
    (h : ∀ i, OnlyAsks (only i) nothing (act i)) (e : Env d.State) :
    d.Asked (fun i => ∃ o, m.inst = some o ∧ o.handle = i) nothing e
      ((Attempt.ofExcept m.liveInstance >>= act).after e) := by
  unfold Manager.liveInstance
  cases hi : m.inst with
  | none => exact .refl e
  | some o =>
    refine (h o.handle e).mono ?_ fun _ h => h
    rintro _ rfl
    exact ⟨o, rfl, rfl⟩

theorem reaches_createManager (hs : s.Named) {config : Config} {selection : Selection}
    (obs : Observes P (.createManager name config selection) s) :
    Reaches P s (newManagers (.createManager name config selection) s)
      ((step (.createManager name config selection)).after s) := by
  have stays := obs.stays
  unfold step at stays ⊢
  cases h : Manager.create d config selection s.pool.env with
  | ok m e =>
    have hnew : newManagers (.createManager name config selection) s = [m] := by
      simp only [newManagers, h]
    rw [hnew]
    exact reaches_addManager hs h (.creates (Manager.create_ok h)) stays
  | error error e =>
    have hnew : newManagers (.createManager name config selection) s = [] := by
      simp only [newManagers, h]
    rw [hnew, after_addManager, h]
    exact reaches_turn hs (.fails (Manager.create_error h))

theorem reaches_borrow (hs : s.Named) {inst device : String} {adapter : AdapterHandle}
    {families : List UInt32} {config : Config}
    (obs : Observes P (.borrow name inst device adapter families config) s) :
    Reaches P s (newManagers (.borrow name inst device adapter families config) s)
      ((step (.borrow name inst device adapter families config)).after s) := by
  have stays := obs.stays
  unfold step at stays ⊢
  rw [after_withInstance] at stays ⊢
  cases hi : s.instances.lookup inst with
  | none =>
    simp only [newManagers, hi]
    exact .refl hs
  | some i =>
    rw [hi] at stays
    dsimp only at stays ⊢
    rw [after_withDevice] at stays ⊢
    cases hx : s.devices.lookup device with
    | none =>
      simp only [newManagers, hi, hx]
      exact .refl hs
    | some x =>
      rw [hx] at stays
      dsimp only at stays ⊢
      cases h : Manager.borrow config i adapter x families s.pool.env with
      | ok m e =>
        simp only [newManagers, hi, hx, h]
        exact reaches_addManager hs h (.borrows hi hx (obs.offers rfl hi hx) (Manager.borrow_ok h))
          stays
      | error error e => exact absurd h Manager.borrow_ne_error

/-- What is ordered without tensors may be ordered. -/
theorem mayOrder_of_bindsOnly_nil {device : d.Device} {order : Order d}
    (h : s.pool.BindsOnly [] order) : s.MayOrder P device order := by
  refine .inl (List.eq_nil_iff_forall_not_mem.2 fun b hb => ?_)
  obtain ⟨i, hi, -⟩ := h b hb
  cases hi

theorem reaches_addAlgorithm (hs : s.Named) {n name : String} {names : List String}
    {make : List Nat → Manager d → Attempt (Pool d) (Nat × Manager d)}
    (produces : ∀ numbers m, Produces m .algorithm numbers (make numbers m))
    (binds : ∀ {m device numbers}, s.managers.lookup n = some m → m.device = some device →
      s.tensorNumbers names = .ok numbers → P.binds s device.handle numbers) :
    Reaches P s [] ((addAlgorithm n name names make).after s) := by
  unfold addAlgorithm
  rw [Attempt.after_get_bind]
  cases h : s.tensorNumbers names with
  | error tensor => exact .refl hs
  | ok numbers =>
    exact reaches_addResource hs (produces numbers) fun m device order hm hd hbinds =>
      .inr ⟨numbers, hbinds, binds hm hd h⟩

/-- **Operations are moves.** -/
theorem reaches_step (hs : s.Named) {o : Operation} (obs : Observes P o s) :
    Reaches P s (newManagers o s) ((step o).after s) := by
  cases o with
  | createManager n config selection => exact reaches_createManager hs obs
  | borrow n inst device adapter families config => exact reaches_borrow hs obs
  | keepHandles n name =>
    refine reaches_withManager hs fun m hm => ⟨.of_move (.keeps (mem_of_lookup hm)), hs.managers, hs.held⟩
  | describeManager n => exact reaches_withManager hs fun m _ => .refl hs
  | counts n => exact reaches_withManager hs fun m _ => .refl hs
  | properties n =>
    exact reaches_ask hs (fun _ _ => rfl) fun m => asked_liveInstance fun i =>
      OnlyAsks.of_look (.properties · (only_self _) _)
  | adapters n =>
    exact reaches_ask hs (fun _ _ => rfl) fun m => asked_liveInstance fun i =>
      OnlyAsks.of_asks (.adapters · (only_self _))
  | clear n => exact reaches_withManager hs fun m hm => reaches_clear hs hm
  | destroyManager n =>
    have stays := obs.stays
    unfold step at stays ⊢
    rw [after_withManager] at stays ⊢
    cases hm : s.managers.lookup n with
    | none => exact .refl hs
    | some m =>
      rw [hm] at stays
      exact reaches_destroyManager hs hm stays
  | dropManager n =>
    have stays := obs.stays
    unfold step at stays ⊢
    rw [after_withManager] at stays ⊢
    cases hm : s.managers.lookup n with
    | none => exact .refl hs
    | some m =>
      rw [hm] at stays
      exact reaches_dropManager hs stays
  | tensor n name data =>
    exact reaches_addResource hs (fun m => produces_tensorOfBytes m _ _ _ _)
      fun _ _ _ _ _ => mayOrder_of_bindsOnly_nil
  | tensorOfBytes n name bytes count size dataType =>
    exact reaches_addResource hs (fun m => produces_tensorOfBytes m _ _ _ _)
      fun _ _ _ _ _ => mayOrder_of_bindsOnly_nil
  | sequence n name queue timestamps =>
    exact reaches_addResource hs (fun m => produces_sequence m _ _)
      fun _ _ _ _ _ => mayOrder_of_bindsOnly_nil
  | algorithm n name tensors code =>
    exact reaches_addAlgorithm hs (fun numbers m => produces_algorithm m numbers code)
      (obs.binds rfl)
  | algorithmWith n name tensors code workgroup pushConstants =>
    exact reaches_addAlgorithm hs
      (fun numbers m => produces_algorithmWith m numbers code workgroup pushConstants)
      (obs.binds rfl)
  | readElements name type =>
    refine reaches_withTensor hs fun i t _ => ?_
    cases t.elements type <;> exact .refl hs
  | writeElements name data =>
    refine reaches_withTensor hs fun i t ht => ?_
    cases h : t.setElements data with
    | error error => exact .refl hs
    | ok t' => exact reaches_edit hs ht (buffer_setElements h)
  | readBytes name => exact reaches_withTensor hs fun i t _ => .refl hs
  | setDescriptorType name type => exact reaches_withTensor hs fun i t ht => reaches_edit hs ht rfl
  | holdBound name algorithm position =>
    unfold step
    rw [Attempt.after_get_bind]
    cases s.boundTensor? algorithm position with
    | none => exact .refl hs
    | some i => exact reaches_hold hs name (.tensor i)
  | describe name => exact reaches_withResource hs fun r _ => .refl hs
  | destroy name => exact reaches_withResource hs fun r _ => reaches_destroy hs r
  | share name holder => exact reaches_withResource hs fun r _ => reaches_hold hs name r
  | drop name => exact reaches_withResource hs fun r _ => reaches_drop hs name
  | call c =>
    obtain ⟨hc, may⟩ := obs.lends c rfl
    exact reaches_call hs hc may obs.stays

/-! ## Runs -/

/-- Each operation of a run observes a permit. -/
def ObservesAll (P : Permit d) : List Operation → Session d → Prop
  | [], _ => True
  | o :: os, s => Observes P o s ∧ ObservesAll P os ((step o).after s)

/-- The managers that a run makes, as they were when they were made. -/
def madeManagers : List Operation → Session d → List (Manager d)
  | [], _ => []
  | o :: os, s => newManagers o s ++ madeManagers os ((step o).after s)

theorem steps_cons (o : Operation) (os : List Operation) (s : Session d) :
    steps (o :: os) s = steps os ((step o).after s) := rfl

theorem reaches_steps (hs : s.Named) {os : List Operation} (obs : ObservesAll P os s) :
    Reaches P s (madeManagers os s) (steps os s) := by
  induction os generalizing s with
  | nil => exact .refl hs
  | cons o os ih =>
    have first := reaches_step hs obs.1
    have rest := ih first.named obs.2
    exact ⟨first.moves.trans rest.moves, rest.named⟩

theorem named_start (driver : d.State) : (start driver).Named := ⟨.nil, .nil⟩

theorem slot?_start {driver : d.State} {r : ResourceId} {slot : Slot d (Object d)} :
    (start driver).pool.slot? r ≠ some slot := by
  cases r <;> simp [start, Pool.slot?]

theorem managers_start {driver : d.State} {x : String × Manager d} :
    x ∉ (start driver).managers := List.not_mem_nil

/-- A run that makes no other calls of the driver than those that may be made at any time. -/
theorem observesAll_lending (may : DriverCall → Prop) {os : List Operation}
    (h : ∀ c, .call c ∈ os → plain c ∧ may c) (s : Session d) :
    ObservesAll (.lending d may) os s := by
  induction os generalizing s with
  | nil => trivial
  | cons o os ih =>
    refine ⟨⟨fun _ _ _ _ => trivial, fun _ _ _ => trivial, fun _ _ => trivial, ?_⟩,
      ih (fun c hc => h c (List.mem_cons_of_mem _ hc)) _⟩
    rintro c rfl
    exact h c List.mem_cons_self

end GpuCompute.Session
