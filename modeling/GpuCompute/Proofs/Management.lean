import GpuCompute.Proofs.Bookkeeping

/-!
# Nobody needs a manager that finds nothing to do

A manager that manages its resources tracks them, and destroys what is left of them when it is taken down;
one that does not does neither. If the caller cleans up before, nothing is left (`Session.CleansUp`): then
two runs that differ in which managers manage their resources go the same way
(`Session.management_optional`). Up to what managers track the sessions agree at any time, since nothing
that a teardown comes across has its object (`Session.Abreast`).
-/

namespace GpuCompute

variable {d : Driver}

/-! ## What may differ -/

/-- A record, unless it tells of tracked resources. -/
def Log.Record.untracked (r : Record) : Option Record :=
  if r.message = "pruned expired resources" ∨ r.message ∈ tallies then none else some r

/-- Two answers that differ at most in whether a manager manages resources and in what managers track. -/
inductive Reply.Similar : Reply d → Reply d → Prop
  | refl (r : Reply d) : Similar r r
  | counts (c c' : TrackedCounts) : Similar (.counts c) (.counts c')
  | managerState {m m' : Manager d} (kin : m.Kin m') (x y z x' y' z' : String) :
    Similar (.managerState m (m.portrait x y z)) (.managerState m' (m'.portrait x' y' z'))

/-- Managers may manage resources or not, and track whatever they do. -/
def Likeness.management (d : Driver) : Likeness d where
  Rel := Env.Agree Log.Record.untracked
  Kin _ m m' := m.Kin m'
  Same := Reply.Similar
  kin := id
  grows h _ := h
  enroll h _ := h.enroll _
  destroy h q := h.destroy _ q
  refl := .refl
  counts _ := .counts _ _
  managerState {_ _ m m'} h _ := by
    rw [Manager.debug_eq, Manager.debug_eq]
    exact .managerState h ..

/-- Two operations that are the same, but for whether a manager that they make is to manage resources. -/
inductive Operation.Likewise : Operation → Operation → Prop
  | refl (o : Operation) : Likewise o o
  | createManager (m : String) (config : Config) (b b' : Bool) (selection : Selection) :
    Likewise (.createManager m (config.withManageResources b) selection)
      (.createManager m (config.withManageResources b') selection)
  | borrow (m inst device : String) (adapter : AdapterHandle) (families : List UInt32) (config : Config)
    (b b' : Bool) :
    Likewise (.borrow m inst device adapter families (config.withManageResources b))
      (.borrow m inst device adapter families (config.withManageResources b'))

open Log (Record)

/-! ## Managers -/

namespace Manager

variable {p q : Pool d} {m m' : Manager d} {R : Env d.State → Env d.State → Prop}

/-- A teardown passes over what is destroyed already. -/
theorem related_registered_of_gone (h : p.Related (Env.Agree Record.untracked) q) (kind : String)
    (hkind : "destroyed tracked " ++ kind ∈ Log.tallies) (identify : Nat → ResourceId)
    (r : Registry Nat) (gone : ∀ r' ∈ r.entries.map identify, p.isInit r' = false) :
    (destroyRegistered kind identify r p).Related (Env.Agree Record.untracked) q ∧
      (destroyRegistered kind identify r p).isInit = p.isInit := by
  obtain ⟨count, heq⟩ := Pool.destroyRegistered_eq kind identify r p
  have none : p.destroyEach ((r.entries.map identify).filter p.isHeld) = p := by
    have nothing : ((r.entries.map identify).filter p.isHeld).filter p.isInit = [] :=
      List.filter_eq_nil_iff.2 fun r' hr' => by simp [gone r' (List.mem_filter.1 hr').1]
    rw [← Pool.destroyEach_filter fun _ _ => id, nothing]
    rfl
  rw [heq, none]
  exact ⟨h.write_unseen (if_pos (.inr hkind)), rfl⟩

/-- **A manager of whose resources none is left has nothing to destroy.** -/
theorem related_cleared_of_gone (gone : ∀ kind, ∀ r ∈ m.tracked kind, p.isInit r = false)
    (h : (p.onEnv (.write { level := .debug, message := "manager destroy started" })).Related
      (Env.Agree Record.untracked) q) :
    (Session.cleared m p).Related (Env.Agree Record.untracked) q := by
  unfold Session.cleared
  split
  · obtain ⟨batches, same⟩ := related_registered_of_gone h "sequences" (by decide) .sequence m.sequences
      (gone .batch)
    obtain ⟨pipelines, same'⟩ := related_registered_of_gone batches "algorithms" (by decide) .algorithm
      m.algorithms (by rw [same]; exact gone .pipeline)
    exact (related_registered_of_gone pipelines "tensors" (by decide) .tensor m.tensors
      (by rw [same', same]; exact gone .buffer)).1
  · exact h

theorem related_clear_of_managing (m : Manager d) (h : p.Related (Env.Agree Record.untracked) q) :
    (m.clear p).2.Related (Env.Agree Record.untracked) q := by
  unfold Manager.clear
  split
  · exact h.write_unseen (if_pos (.inl rfl))
  · exact h

theorem Kin.clear (h : m.Kin m') (p q : Pool d) : (m.clear p).1.Kin (m'.clear q).1 := by
  have cleared (m : Manager d) (p : Pool d) :
      ∃ s a t, (m.clear p).1 = { m with sequences := s, algorithms := a, tensors := t } := by
    unfold Manager.clear
    split <;> exact ⟨_, _, _, rfl⟩
  obtain ⟨s, a, t, same⟩ := cleared m p
  obtain ⟨s', a', t', same'⟩ := cleared m' q
  rw [same, same']
  obtain ⟨manages, -, -, -⟩ := h
  exact .intro manages _ _ _

section

variable (hd : d.Respects R)
include hd

/-- Managers are made alike, whether they are to manage resources or not. -/
theorem alike_create (config : Config) (b b' : Bool) (selection : Selection) :
    Attempt.Alike R Kin (create d (config.withManageResources b) selection)
      (create d (config.withManageResources b') selection) :=
  (Bootstrap.respects_createInstance hd config).bind_same fun parts =>
    Attempt.Alike.undoing
      ((Bootstrap.respects_createDevice hd parts.inst config selection).bind_same
        fun _ => .pure (.intro _ _ _ _))
      (Bootstrap.respects_destroyInstance hd parts)

theorem alike_borrow (config : Config) (b b' : Bool) (inst : d.Instance) (adapter : AdapterHandle)
    (device : d.Device) (families : List UInt32) : Attempt.Alike R Kin
      (borrow (config.withManageResources b) inst adapter device families)
      (borrow (config.withManageResources b') inst adapter device families) :=
  (Bootstrap.respects_fetchFrom hd device _ _).bind_same fun _ =>
    .bind_same (hd.notes _) fun _ => .pure (.intro _ _ _ _)

end

end Manager

namespace Session

open Manager

variable {s t s' t' : Session d} {o o' : Operation} {n name : String} {mine : String → List ResourceId}

/-! ## Cleaning up -/

/-- The manager that an operation takes down: one that it destroys or drops, or one that loses its name to
a new manager. -/
def ends? (o : Operation) (s : Session d) : Option String :=
  match o, ((step o).outcome s).1 with
  | .destroyManager n, _ | .dropManager n, _ => some n
  | o, .ok (.manager ..) => makes? o
  | _, _ => none

theorem ends?_of_made {families : List UInt32} {queues : Nat}
    (h : step o s = .ok (.manager families queues) s') (hm : makes? o = some n) :
    ends? o s = some n := by
  unfold ends? Attempt.outcome
  rw [h]
  cases o <;> first | exact hm | cases hm

/-- The caller cleans up: before a manager is taken down, each resource that it has made was destroyed or
has lost its last holder. -/
def CleansUp (ops : List Operation) (s : Session d) : Prop :=
  ∀ os o n, os ++ [o] <+: ops → ends? o (steps os s) = some n → ∀ r ∈ created n os s,
    (steps os s).pool.isInit r = false ∨ (steps os s).pool.isHeld r = false

/-- What nobody holds is gone as well. -/
theorem CleansUp.isInit_created {driver : d.State} {ops : List Operation} (h : CleansUp ops (start driver))
    (os : List Operation) (o : Operation) (n : String) (hos : os ++ [o] <+: ops)
    (ho : ends? o (steps os (start driver)) = some n) (r : ResourceId)
    (hr : r ∈ created n os (start driver)) : (steps os (start driver)).pool.isInit r = false := by
  have kept : (steps os (start driver)).pool.Kept := kept_steps (named_start _) (kept_start _) os
  rcases h os o n hos ho r hr with gone | unheld
  · exact gone
  · exact Bool.eq_false_iff.2 fun hinit => Bool.eq_false_iff.1 unheld (kept r hinit)

/-! ## Sessions abreast -/

/-- Two sessions that differ at most in what managers track and whether they do, and in records that tell
of it. -/
abbrev Even (s t : Session d) : Prop := (Likeness.management d).Agree s t

theorem Even.agree_pool (h : Even s t) : s.pool.Agree Record.untracked t.pool :=
  (Likeness.Agree.pool h).agree

/-- Managers that track nothing but what is gone are taken down alike. -/
theorem clears_of_gone (agree : Even s t)
    (gone : ∀ m, s.managers.lookup n = some m ∨ t.managers.lookup n = some m →
      ∀ kind, ∀ r ∈ m.tracked kind, s.pool.isInit r = false) : (Likeness.management d).Clears n s t := by
  intro m m' hm hm' _
  have pools := Likeness.Agree.pool agree
  have started := pools.onEnv <| (Env.oblivious_write
    { level := .debug, message := "manager destroy started" }).respects
  have first := related_cleared_of_gone (gone m (.inl hm)) started
  refine (related_cleared_of_gone ?_ (first.symm Env.Agree.symm)).symm Env.Agree.symm
  rw [pools.isInit]
  exact gone m' (.inr hm')

/-- Two sessions in which managers have made the same, and manage it or not. -/
structure Abreast (mine : String → List ResourceId) (s t : Session d) : Prop where
  agree : Even s t
  left : ∀ name, Enrolled name s (mine name)
  right : ∀ name, Enrolled name t (mine name)

namespace Abreast

/-- Managers that have made nothing but what is gone are taken down alike. -/
theorem clears_gone (h : Abreast mine s t) (gone : ∀ r ∈ mine n, s.pool.isInit r = false)
    (agree : Even s' t') (isInit : s'.pool.isInit = s.pool.isInit)
    (managers : s'.managers = s.managers) (managers' : t'.managers = t.managers) :
    (Likeness.management d).Clears n s' t' := by
  refine clears_of_gone agree fun m hm kind r hr => ?_
  rw [managers, managers'] at hm
  have listed : r ∈ mine n := hm.elim (fun hm => (((h.left n).roster hm).listed kind).subset hr)
    fun hm => (((h.right n).roster hm).listed kind).subset hr
  rw [isInit]
  exact gone r listed

section

variable (hd : d.Oblivious)
include hd

theorem matches_addManager (h : Abreast mine s t) {make make' : Act d.State (Manager d)}
    (alike : Attempt.Alike (Env.Agree Record.untracked) Kin make make')
    (gone : ∀ m e, make s.pool.env = .ok m e → ∀ r ∈ mine n, s.pool.isInit r = false) :
    (Likeness.management d).Matches s t (addManager n make) (addManager n make') := by
  refine Likeness.matches_addManager hd.respects h.agree ?_ fun m e e' made agree => ?_
  · exact (alike _ _ h.agree.pool.env).mono (fun _ _ kin _ => kin) fun _ _ => id
  · exact h.clears_gone (gone m e made) agree (Pool.isInit_withEnv e s.pool) rfl rfl

theorem matches_createManager (h : Abreast mine s t) (n : String) (config : Config) (b b' : Bool)
    (selection : Selection)
    (gone : ends? (.createManager n (config.withManageResources b) selection) s = some n →
      ∀ r ∈ mine n, s.pool.isInit r = false) :
    (Likeness.management d).Matches s t
      (step (.createManager n (config.withManageResources b) selection))
      (step (.createManager n (config.withManageResources b') selection)) :=
  h.matches_addManager hd (alike_create hd.respects config b b' selection) fun _ _ made =>
    gone (ends?_of_made (Attempt.bind_of_ok (run_ok made)) rfl)

theorem matches_borrow (h : Abreast mine s t) (n inst device : String) (adapter : AdapterHandle)
    (families : List UInt32) (config : Config) (b b' : Bool)
    (gone : ends? (.borrow n inst device adapter families (config.withManageResources b)) s = some n →
      ∀ r ∈ mine n, s.pool.isInit r = false) :
    (Likeness.management d).Matches s t
      (step (.borrow n inst device adapter families (config.withManageResources b)))
      (step (.borrow n inst device adapter families (config.withManageResources b'))) := by
  refine Likeness.matches_withInstance h.agree fun i hi => ?_
  refine Likeness.matches_withDevice h.agree fun x hx => ?_
  refine h.matches_addManager hd (alike_borrow hd.respects config b b' i adapter x families)
    fun m e made => ?_
  have hstep : step (.borrow n inst device adapter families (config.withManageResources b)) s =
      addManager n (borrow (config.withManageResources b) i adapter x families) s := by
    change withInstance inst _ s = _
    unfold withInstance withDevice
    rw [Attempt.get_bind, hi]
    dsimp only
    rw [Attempt.get_bind, hx]
  exact gone (ends?_of_made (hstep.trans (Attempt.bind_of_ok (run_ok made))) rfl)

omit hd in
theorem matches_clear (h : Abreast mine s t) (n : String) :
    (Likeness.management d).Matches s t (step (.clear n)) (step (.clear n)) := by
  refine Likeness.matches_withManager h.agree fun m m' _ _ kin => .ok (.counts _ _) ?_
  have left := related_clear_of_managing m (Likeness.Agree.pool h.agree)
  have both := (related_clear_of_managing m' (left.symm Env.Agree.symm)).symm Env.Agree.symm
  exact (h.agree.setPool both (grows_clear m s.pool)).setManager n (kin.clear s.pool t.pool)

/-- **Operations end alike in sessions that are abreast**, if the caller has cleaned up. -/
theorem matches_step (h : Abreast mine s t) (likewise : o.Likewise o')
    (gone : ∀ n, ends? o s = some n → ∀ r ∈ mine n, s.pool.isInit r = false) :
    (Likeness.management d).Matches s t (step o) (step o') := by
  cases likewise with
  | createManager n config b b' selection =>
    exact h.matches_createManager hd n config b b' selection (gone n)
  | borrow n inst device adapter families config b b' =>
    exact h.matches_borrow hd n inst device adapter families config b b' (gone n)
  | refl =>
    cases o with
    | createManager n config selection =>
      exact h.matches_createManager hd n config _ _ selection (gone n)
    | borrow n inst device adapter families config =>
      exact h.matches_borrow hd n inst device adapter families config _ _ (gone n)
    | clear n => exact h.matches_clear n
    | destroyManager n =>
      exact Likeness.matches_destroyManager hd.respects h.agree
        (h.clears_gone (gone n rfl) h.agree rfl rfl rfl)
    | dropManager n =>
      exact Likeness.matches_dropManager hd.respects h.agree
        (h.clears_gone (gone n rfl) h.agree rfl rfl rfl)
    | _ => exact Likeness.matches_ordinary hd.respects h.agree rfl

omit hd in
/-- What is made is made in both. -/
theorem createdAfter_of_matches (likewise : o.Likewise o')
    (h : (Likeness.management d).Matches s t (step o) (step o')) (mine : List ResourceId) :
    createdAfter name o' t mine = createdAfter name o s mine := by
  have asks : asks? o' = asks? o := by cases likewise <;> rfl
  have makes : makes? o' = makes? o := by cases likewise <;> rfl
  unfold Likeness.Matches at h
  unfold createdAfter Attempt.outcome
  rw [asks, makes]
  generalize step o s = r, step o' t = r' at h
  cases h with
  | error => rfl
  | @ok r r' s' t' same agree =>
    have found (holder : String) : t'.pool.find? holder = s'.pool.find? holder := by
      unfold Pool.find?
      rw [agree.pool.held_eq]
    obtain r | _ | _ := same
    · generalize asks? o = asked
      cases r with
      | created => cases asked <;> simp only [found]
      | _ => rfl
    · rfl
    · rfl

theorem step (h : Abreast mine s t) (likewise : o.Likewise o')
    (gone : ∀ n, ends? o s = some n → ∀ r ∈ mine n, s.pool.isInit r = false) :
    Abreast (fun name => createdAfter name o s (mine name)) ((step o).after s) ((step o').after t) := by
  have both := h.matches_step hd likewise gone
  refine ⟨both.after, fun name => (h.left name).step o, fun name => ?_⟩
  rw [← createdAfter_of_matches likewise both]
  exact (h.right name).step o'

end

end Abreast

theorem abreast_start (driver : d.State) : Abreast (fun _ => []) (start driver) (start driver) where
  agree := .intro (s := start driver) (.refl (.refl _)) .nil
  left name := enrolled_start name driver
  right name := enrolled_start name driver

/-! ## The end of a session -/

theorem kept_drops (names : List String) (hs : s.Named) (kept : s.pool.Kept) :
    let p := names.foldl (fun p name => p.drop name) s.pool
    p.Kept ∧ ∀ x ∈ p.held, x ∈ s.pool.held ∧ x.1 ∉ names := by
  induction names generalizing s with
  | nil => exact ⟨kept, fun x hx => ⟨hx, nofun⟩⟩
  | cons name names ih =>
    have reaches := reaches_drop (P := .lending d fun _ => True) hs name
    obtain ⟨kept', held⟩ := ih reaches.named (kept_moves reaches.moves kept)
    refine ⟨kept', fun x hx => ?_⟩
    obtain ⟨hmem, others⟩ := held x hx
    obtain ⟨hmem, other⟩ := List.mem_filter.1 (held_drop name s.pool ▸ hmem)
    exact ⟨hmem, by simp [others, bne_iff_ne.1 other]⟩

/-- Nothing is left when all holders have let go. -/
theorem gone_dropAll (hs : s.Named) (kept : s.pool.Kept) (r : ResourceId) :
    s.pool.dropAll.isInit r = false := by
  obtain ⟨kept', held⟩ := kept_drops s.pool.names hs kept
  refine Bool.eq_false_iff.2 fun hinit => ?_
  obtain ⟨x, hx, -⟩ := Pool.isHeld_iff.1 (kept' r hinit)
  obtain ⟨hmem, other⟩ := held x hx
  exact other (List.mem_mergeSort.2 (List.mem_map_of_mem hmem))

/-- What is gone does not come back when a manager is dropped. -/
theorem gone_dropManager (gone : ∀ r, s.pool.isInit r = false) (n : String) (r : ResourceId) :
    (s.dropManager n).pool.isInit r = false := by
  have dropped (m : Manager d) : (m.drop s.pool).isInit r = false := by
    unfold Manager.drop
    split
    · exact gone r
    · next opened =>
      cases hd : m.device with
      | none => exact absurd (by rw [isDestroyed, hd]; rfl) opened
      | some device =>
        rw [(destroy_of_device hd s.pool).2.2, Pool.isInit_withEnv]
        exact (destroys_cleared m s.pool).1.isInit_eq_false (gone r)
  unfold Session.dropManager
  cases s.managers.lookup n with
  | none => exact gone r
  | some m => exact dropped m

/-! ## Runs -/

/-- What the operations of a run answer. -/
def replies (ops : List Operation) (s : Session d) : List (Except Error (Reply d)) :=
  Attempt.answers step (fun _ => true) ops s

section

variable (hd : d.Oblivious)
include hd

theorem Abreast.steps (h : Abreast mine s t) {ops ops' : List Operation}
    (likewise : List.Forall₂ Operation.Likewise ops ops')
    (gone : ∀ os o n, os ++ [o] <+: ops → ends? o (steps os s) = some n →
      ∀ r ∈ createdFrom n os s (mine n), (steps os s).pool.isInit r = false) :
    Abreast (fun name => createdFrom name ops s (mine name)) (steps ops s) (steps ops' t) ∧
      List.Forall₂ (Attempt.Answers Reply.Similar) (replies ops s) (replies ops' t) := by
  induction likewise generalizing s t mine with
  | nil => exact ⟨h, .nil⟩
  | @cons o o' ops ops' same _ ih =>
    have first (n : String) := gone [] o n (List.prefix_append [o] ops)
    obtain ⟨abreast, answers⟩ := ih (h.step hd same first) fun os o n hos =>
      gone (_ :: os) o n ((List.cons_prefix_cons).2 ⟨rfl, hos⟩)
    exact ⟨abreast, .cons (h.matches_step hd same first).answers answers⟩

theorem Abreast.finish (h : Abreast mine s t) : Even s.finish t.finish := by
  have enrolled := h.left ""
  exact Likeness.Agree.finish hd.respects h.agree (fun s => ∀ r, s.pool.isInit r = false)
    (gone_dropAll enrolled.named enrolled.kept) (fun _ n gone => gone_dropManager gone n)
    fun _ _ _ gone agree => clears_of_gone agree fun _ _ _ r _ => gone r

end

/-- **Whether managers manage resources is of no importance if the caller cleans up.** Let two runs be the
same but for whether the managers that they make are to manage resources, on any driver that does not look
at the log. In one of them let each resource of a manager be destroyed or let go of by all its holders
before the manager is taken down. Then the driver is asked for the same in both, and is in the same state;
the same resources are destroyed; all operations are answered in the same way, up to what managers track
and whether they do; and the logs are the same but for records that tell of tracked resources. It stays so
when the session comes to its end. -/
theorem management_optional (hd : d.Oblivious) (inner : d.State) {ops ops' : List Operation}
    (likewise : List.Forall₂ Operation.Likewise ops ops') (tidy : CleansUp ops (recordedStart inner)) :
    let s := recordedRun inner ops
    let s' := recordedRun inner ops'
    s'.trace = s.trace ∧ s'.finish.trace = s.finish.trace ∧
      List.Forall₂ (Attempt.Answers Reply.Similar) (replies ops (recordedStart inner))
        (replies ops' (recordedStart inner)) ∧
      s.pool.Agree Record.untracked s'.pool ∧ s.finish.pool.Agree Record.untracked s'.finish.pool := by
  intro s s'
  obtain ⟨abreast, answers⟩ := (abreast_start _).steps hd.recorded likewise tidy.isInit_created
  have now := abreast.agree.agree_pool
  have last := (abreast.finish hd.recorded).agree_pool
  exact ⟨congrArg Recorder.trace now.env.driver, congrArg Recorder.trace last.env.driver, answers,
    now, last⟩

/-- The caller lets go of a tensor and then of an algorithm that binds it, destroys another tensor, and lets
go of a sequence, before the manager is torn down. -/
def swept (manages : Bool) : List Operation :=
  [.createManager "manager" (.withManageResources {} manages) {},
    .tensorOfBytes "manager" "bound" [1, 2, 3, 4] 1 4 .int,
    .tensorOfBytes "manager" "spare" [1, 2, 3, 4] 1 4 .int,
    .algorithm "manager" "algorithm" ["bound"] [1], .sequence "manager" "sequence" 0 0,
    .drop "bound", .destroy "spare", .drop "algorithm", .drop "sequence", .destroyManager "manager"]

/-- At last the manager tracks four resources or none, but it is torn down by the same calls. -/
theorem management_optional_swept :
    CleansUp (swept true) (recordedStart computing) ∧
    ((recordedRun computing (swept true).dropLast).managers.lookup "manager").map (·.trackedCounts) =
      some ⟨1, 1, 2⟩ ∧
    ((recordedRun computing (swept false).dropLast).managers.lookup "manager").map (·.trackedCounts) =
      some ⟨0, 0, 0⟩ ∧
    (recordedRun computing (swept false)).trace = (recordedRun computing (swept true)).trace := by
  have tidy : CleansUp (swept true) (recordedStart computing) := by
    have each : ∀ i < 10, ∀ o ∈ (swept true)[i]?,
        ∀ n ∈ ends? o (recordedRun computing ((swept true).take i)),
        ∀ r ∈ created n ((swept true).take i) (recordedStart computing),
          (recordedRun computing ((swept true).take i)).pool.isInit r = false ∨
            (recordedRun computing ((swept true).take i)).pool.isHeld r = false := by decide +kernel
    rintro os o n ⟨rest, heq⟩ ho r hr
    have take : (swept true).take os.length = os := by simp [← heq]
    have found : (swept true)[os.length]? = some o := by simp [← heq]
    have short : os.length < 10 := (List.getElem?_eq_some_iff.1 found).1
    have now := each os.length short o found
    rw [take] at now
    exact now n ho r hr
  have likewise : List.Forall₂ Operation.Likewise (swept true) (swept false) :=
    .cons (.createManager "manager" {} true false {}) (List.forall₂_same.2 fun o _ => .refl o)
  exact ⟨tidy, rfl, rfl, (management_optional InMemory.oblivious computing likewise tidy).1⟩

end Session

end GpuCompute
