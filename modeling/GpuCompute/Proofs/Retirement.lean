import GpuCompute.Proofs.Borrowing
import GpuCompute.Proofs.Effects
import GpuCompute.Proofs.Precedence
import Mathlib.Data.List.Induction
import Mathlib.Data.List.Infix

/-!
# Pipelines go first in every run

As long as each algorithm binds only tensors that its own manager has made, a manager that tracks a
tensor tracks the algorithms that bind it, so that teardown and letting go keep to the same order
(`Session.Staged`). Each operation keeps this, unless it destroys a tensor explicitly, and so pipelines
are destroyed before the buffers that they bind (`Session.pipelines_first`).
-/

namespace GpuCompute

open Trace Recorder

variable {d : Driver} {life : d.Lifetimes}

/-! ## What resources bind -/

namespace Pool

variable {p : Pool d} {mine : List ResourceId}

/-- What is on the list binds only tensors of the list. -/
def BindsOwn (p : Pool d) (mine : List ResourceId) : Prop :=
  ∀ a ∈ mine, ∀ t, p.keeps t a → .tensor t ∈ mine

/-- The tensors that a resource binds. -/
def bindings (p : Pool d) : ResourceId → List Nat
  | .algorithm a => (p.algorithms[a]?).elim [] (·.tensors)
  | _ => []

theorem keeps_iff {t : Nat} {r : ResourceId} : p.keeps t r ↔ t ∈ p.bindings r := by
  cases r with
  | algorithm a => cases h : p.algorithms[a]? <;> simp [keeps, bindings, h]
  | tensor i | sequence i => simp [keeps, bindings]

instance (p : Pool d) (mine : List ResourceId) : Decidable (p.BindsOwn mine) :=
  decidable_of_iff (∀ a ∈ mine, ∀ t ∈ p.bindings a, .tensor t ∈ mine) (by
    simp only [BindsOwn, keeps_iff])

/-- What the last resource of a list binds is among the others. -/
theorem BindsOwn.tensor_mem {r : ResourceId} (own : p.BindsOwn (mine ++ [r])) {t : Nat}
    (keeps : p.keeps t r) : .tensor t ∈ mine := by
  rcases List.mem_append.1 (own r (by simp) t keeps) with hmem | hmem
  · exact hmem
  · rw [← List.mem_singleton.1 hmem] at keeps
    cases keeps

/-- What binds a tensor of the list is on the list. -/
def Encloses (p : Pool d) (mine : List ResourceId) : Prop :=
  ∀ t, .tensor t ∈ mine → ∀ a, p.keeps t a → a ∈ mine

/-- A manager that has made all that binds its tensors tracks what binds those that it tracks. -/
theorem Encloses.tracksBinding {p : Pool d.recorded} {m : Manager d.recorded}
    (h : p.Encloses mine) (roster : m.Roster p mine)
    (manages : m.config.manageResources) (opened : m.device.isSome) : m.TracksBinding p := by
  intro t a tracks keeps init
  have ht : ResourceId.tensor t ∈ mine := (roster.listed .buffer).subset (Manager.tracks_iff.1 tracks)
  exact roster.tracks manages opened a (h t ht a keeps) init

end Pool

namespace Session

open Manager Pool

variable {s : Session d.recorded} {o : Operation} {n name holder : String}
  {m : Manager d.recorded} {mine : String → List ResourceId}

/-! ## Holders -/

section Holders

variable {p : Pool d.recorded}

theorem kept_more (kept : p.Kept) (l : List (String × ResourceId)) :
    (p.withHeld (p.held ++ l)).Kept := by
  intro r hr
  rw [isInit_withHeld] at hr
  obtain ⟨x, hx, carries⟩ := isHeld_iff.1 (kept r hr)
  exact isHeld_iff.2 ⟨x, List.mem_append_left _ hx, carries⟩

/-- A name takes hold of what it was put down for already, and lets go of what it held before. -/
theorem retires_hold (name : String) (r : ResourceId) (nodup : (namesOf p.held).Nodup)
    (kept : (p.withHeld (p.held ++ [(name, r)])).Kept) : p.Retires life (p.hold name r) := by
  unfold Pool.hold
  cases hold : p.find? name with
  | none => exact .withHeld _ p
  | some old =>
    refine (Retires.withHeld (p.held ++ [(name, r)]) p).trans (retires_reap kept fun x hx => ?_)
    rcases List.mem_append.1 hx with hx | hx
    · exact (mem_without_or nodup hold x hx).imp_left (List.mem_append_left _)
    · exact .inl (List.mem_append_right _ hx)

theorem retires_letGo (name : String) (nodup : (namesOf p.held).Nodup) (kept : p.Kept) :
    p.Retires life (p.drop name) := by
  unfold Pool.drop
  cases hold : p.find? name with
  | none => exact .withHeld _ p
  | some old => exact retires_reap kept (mem_without_or nodup hold)

/-- No tensor is destroyed explicitly by the operation. -/
def SparesTensors (o : Operation) (s : Session d.recorded) : Prop :=
  ∀ name i, o = .destroy name → s.pool.find? name ≠ some (.tensor i)

theorem Handles.retires (h : Handles s o p) (named : s.Named) (kept : s.pool.Kept)
    (spared : SparesTensors o s) : s.pool.Retires life p := by
  cases h with
  | edits ht buffer => exact .of_same rfl (slot?_set ht buffer) rfl
  | holds name r => exact retires_hold name r named.held (kept_more kept _)
  | letsGo name => exact retires_letGo name named.held kept
  | @destroys name r hr =>
    refine .destroy_of_unbound (unbound_of_kind ?_)
    cases r with
    | tensor i => exact absurd hr (spared name i rfl)
    | algorithm i | sequence i => nofun

end Holders

/-! ## Plain calls -/

/-- **The caller ends no object by a plain call.** -/
theorem spares_call (h : s.Accounted life) {c : DriverCall} (hc : plain c) :
    s.pool.env.driver.Spares life ((call c).after s).pool.env.driver := by
  have still : s.pool.env.driver.Spares life s.pool.env.driver := (Recorder.Idles.refl _).spares
  cases c with
  | createInstance name what =>
    unfold call
    cases made : d.recorded.createInstance what s.pool.env with
    | ok i e =>
      rw [Attempt.after_bind_of_ok (run_ok made), Attempt.after_modify_bind, Attempt.after_pure]
      exact (idles_idled (.of_ok (.createInstance _ _) made)).spares
    | error error e =>
      rw [Attempt.after_bind_of_error (run_error made)]
      exact (idles_idled (.of_error (.createInstance _ _) made)).spares
  | createDevice name inst adapter what =>
    refine after_withInstance_induct still fun i hi => ?_
    cases made : d.recorded.createDevice i adapter what s.pool.env with
    | ok x e =>
      rw [Attempt.after_bind_of_ok (run_ok made), Attempt.after_modify_bind, Attempt.after_pure]
      exact (idles_createDevice made).1.spares
    | error error e =>
      rw [Attempt.after_bind_of_error (run_error made)]
      exact (idles_refusesDevice made).spares
  | destroyInstance inst =>
    exact after_withInstance_induct still fun i _ =>
      (idles_idled (.of_idles (.destroyInstance i s.pool.env))).spares
  | releaseDevice device =>
    exact after_withDevice_induct still fun x hx =>
      spares_releaseDevice (h.kept (mem_of_lookup hx))
  | destroyDevice device =>
    exact after_withDevice_induct still fun x hx =>
      spares_destroyDevice (h.kept (mem_of_lookup hx))
  | probeDevice device => exact after_withDevice_induct still fun _ _ => still
  | survey inst adapter =>
    refine after_withInstance_induct still fun i _ => ?_
    rw [after_run_bind fun _ _ => rfl]
    exact (idles_asked (onlyAsks_survey i adapter s.pool.env)).spares
  | registerCallbacks | unregisterCallbacks | createBuffer | destroyBuffer | createPipeline
  | destroyPipeline | createBatch | destroyBatch => cases hc

/-! ## Sessions in order -/

/-- A session in which pipelines come before the buffers that they bind when they are destroyed, be it
by their holders or by their manager. `mine` says what the managers have made. -/
structure Staged (life : d.Lifetimes) (mine : String → List ResourceId)
    (s : Session d.recorded) : Prop where
  account : s.Accounted life
  enrolled : ∀ name, Enrolled name s (mine name)
  apart : ∀ n₁ n₂, n₁ ≠ n₂ → Apart n₁ n₂ s (mine n₁) (mine n₂)
  ordered : s.pool.Ordered life
  /-- What is bound was made. -/
  present : ∀ {a t}, s.pool.keeps t a → ∃ slot, s.pool.slot? (.tensor t) = some slot
  encloses : ∀ {name}, (s.managers.lookup name).isSome → s.pool.Encloses (mine name)

namespace Staged

theorem named (h : s.Staged life mine) : s.Named := (h.enrolled "").named

theorem kept (h : s.Staged life mine) : s.pool.Kept := (h.enrolled "").kept

theorem tracksBinding (h : s.Staged life mine) (hm : s.managers.lookup n = some m)
    (manages : m.config.manageResources) (opened : m.device.isSome) : m.TracksBinding s.pool :=
  (h.encloses (by simp [hm])).tracksBinding ((h.enrolled n).roster hm) manages opened

theorem handle_mem_devices (h : s.Staged life mine) (hm : s.managers.lookup n = some m)
    {device : Ownership d.recorded.Device} (hd : m.device = some device) :
    device.handle ∈ s.pool.env.driver.devices := h.account.managers (mem_of_lookup hm) hd

end Staged

/-! ## What an operation does to the pool -/

/-- What an operation does to the pool: resources are retired in order, or a resource is made that binds
tensors on its device, and then others are retired. -/
inductive Advances (life : d.Lifetimes) (o : Operation) (s : Session d.recorded) :
    Pool d.recorded → Prop
  | retires {q : Pool d.recorded} (h : s.pool.Retires life q) : Advances life o s q
  | makes {n : String} {m : Manager d.recorded} {device : Ownership d.recorded.Device}
    {order : Order d.recorded} {r : ResourceId} {p q : Pool d.recorded}
    (hm : s.managers.lookup n = some m) (hd : m.device = some device)
    (made : s.pool.Makes device.handle order r p) (bound : s.pool.BindsKept device.handle order r p)
    (created : ∀ name mine, createdAfter name o s mine = if n = name then mine ++ [r] else mine)
    (h : p.Retires life q) : Advances life o s q

/-- A resource that was made is the last on the list of its manager. -/
theorem createdAfter_addResource {identify : Nat → ResourceId}
    {make : Manager d.recorded → Attempt (Pool d.recorded) (Nat × Manager d.recorded)}
    (ha : asks? o = some (n, holder)) (hstep : step o s = addResource n holder identify make s)
    (hm : s.managers.lookup n = some m) {m' : Manager d.recorded} {i : Nat} {p : Pool d.recorded}
    (hmake : make m s.pool = .ok (i, m') p) (name : String) (mine : List ResourceId) :
    createdAfter name o s mine = if n = name then mine ++ [identify i] else mine := by
  rw [createdAfter_of_created (hstep.trans (addResource_ok hm hmake)) ha]
  have found : (p.hold holder (identify i)).find? holder = some (identify i) := by
    unfold Pool.find?
    rw [held_hold, lookup_store_self]
  change (if n = name then mine ++ ((p.hold holder (identify i)).find? holder).toList else mine) = _
  rw [found]
  rfl

namespace Staged

/-- What a manager makes binds tensors on its device. -/
theorem bindsKept (h : s.Staged life mine) (hm : s.managers.lookup n = some m)
    {device : Ownership d.recorded.Device} (hd : m.device = some device)
    {order : Order d.recorded} {tensors : List Nat} {r : ResourceId} {p : Pool d.recorded}
    (binds : s.pool.BindsOnly tensors order)
    (keeps : ∀ t ∈ tensors, p.keeps t r) (own : p.BindsOwn (mine n ++ [r])) :
    s.pool.BindsKept device.handle order r p := by
  intro b hb
  obtain ⟨t, ht, slot, hs, hx⟩ := binds b hb
  have ht := keeps t ht
  obtain ⟨slot', hs', on⟩ := ((h.enrolled n).roster hm).placed _ (own.tensor_mem ht)
  cases hs.symm.trans hs'
  exact ⟨t, slot, hs, hx, on device hd, ht⟩

theorem advances_addResource (h : s.Staged life mine) {identify : Nat → ResourceId}
    {tensors : List Nat}
    {make : Manager d.recorded → Attempt (Pool d.recorded) (Nat × Manager d.recorded)}
    (ha : asks? o = some (n, holder)) (hstep : step o s = addResource n holder identify make s)
    (produces : ∀ m, Produces m identify tensors (make m))
    (own : ((addResource n holder identify make).after s).pool.BindsOwn
      (createdAfter n o s (mine n))) :
    Advances life o s ((addResource n holder identify make).after s).pool := by
  rw [after_addResource] at own ⊢
  cases hm : s.managers.lookup n with
  | none => exact .retires (.refl _)
  | some m =>
    rw [hm] at own
    dsimp only at own ⊢
    cases hmake : make m s.pool with
    | error error p =>
      rcases (produces m).error hmake with ⟨e, asked, rfl⟩ | ⟨device, order, hd, -, refuses⟩
      · exact .retires (.withEnv_of_idles (idles_asked asked))
      · cases refuses with
        | asking asked => exact .retires (.withEnv_of_idles (idles_asked asked))
        | making asked failed =>
          have first : s.pool.env.driver.Idles life _ := idles_asked asked
          exact .retires (.withEnv_of_idles (first.trans (idles_refuses failed)))
    | ok made p =>
      obtain ⟨i, m'⟩ := made
      rw [hmake] at own
      obtain ⟨device, order, hd, binds, makes, -, keeps⟩ := (produces m).ok hmake
      obtain ⟨x, adds⟩ : ∃ x, s.pool.Adds (identify i) ⟨device.handle, some x⟩ p := by
        obtain ⟨e₁, x, e₂, -, -, -, adds⟩ := makes
        exact ⟨x, adds⟩
      have nodup : (namesOf p.held).Nodup := by
        rw [adds.held]
        exact h.named.held
      have kept : (p.withHeld (p.held ++ [(holder, identify i)])).Kept := by
        rw [adds.held]
        exact h.kept.of_adds adds holder
      have holds : p.Retires life (p.hold holder (identify i)) := retires_hold _ _ nodup kept
      have created := createdAfter_addResource ha hstep hm hmake
      rw [created, if_pos rfl] at own
      have own : p.BindsOwn (mine n ++ [identify i]) := fun a hmem t ht => own a hmem t (by
        change (p.hold holder (identify i)).keeps t a = true
        rwa [holds.keeps_eq])
      exact .makes hm hd makes (h.bindsKept hm hd binds keeps own) created holds

/-- A manager is made, and the one that had the name is dropped. -/
theorem retires_addManager (h : s.Staged life mine) {make : Act d.recorded.State (Manager d.recorded)}
    (idles : s.pool.env.driver.Idles life (make.after s.pool.env).driver) :
    s.pool.Retires life ((addManager n make).after s).pool := by
  rw [after_addManager]
  cases hmake : make s.pool.env with
  | error error e =>
    rw [Attempt.after_of_error hmake] at idles
    exact .withEnv_of_idles idles
  | ok m e =>
    rw [Attempt.after_of_ok hmake] at idles
    dsimp only
    unfold storeManager
    cases hold : (s.withEnv e).managers.lookup n with
    | none => exact .withEnv_of_idles idles
    | some old =>
      refine (Retires.withEnv_of_idles idles).trans ?_
      exact retires_drop h.kept (h.tracksBinding hold) fun _ hd =>
        idles.devices _ (h.handle_mem_devices hold hd)

theorem retires_dropManager (h : s.Staged life mine) (n : String) :
    s.pool.Retires life (dropManager n s).pool := by
  unfold dropManager
  cases hm : s.managers.lookup n with
  | none => exact .refl _
  | some m => exact retires_drop h.kept (h.tracksBinding hm) fun _ => h.handle_mem_devices hm

/-- **Operations retire resources in order**, as long as managers bind their own tensors and no tensor
is destroyed explicitly. -/
theorem advances_step (h : s.Staged life mine) (hc : ∀ c, o = .call c → plain c)
    (spared : SparesTensors o s)
    (own : ∀ name, ((step o).after s).pool.BindsOwn (createdAfter name o s (mine name))) :
    Advances life o s ((step o).after s).pool := by
  have effect := effect_step o s
  generalize hs' : (step o).after s = s' at effect own ⊢
  cases effect with
  | aside aside asked =>
    have spares : s.pool.env.driver.Spares life s'.pool.env.driver := by
      by_cases call : ∃ c, o = .call c
      · obtain ⟨c, rfl⟩ := call
        rw [← hs']
        exact spares_call h.account (hc c rfl)
      · exact (idles_asked (asked fun c hoc => call ⟨c, hoc⟩)).spares
    rw [aside.pool]
    exact .retires (.withEnv_of_spares spares)
  | handles handles => exact .retires (handles.retires h.named h.kept spared)
  | makes ha hstep produces => exact h.advances_addResource ha hstep produces (own _)
  | creates n config selection =>
    refine .retires (h.retires_addManager ?_)
    cases made : Manager.create d.recorded config selection s.pool.env with
    | ok m e =>
      rw [Attempt.after_of_ok made]
      exact (idles_creates (create_ok made)).1
    | error error e =>
      rw [Attempt.after_of_error made]
      exact idles_idled (idled_fails (create_error made))
  | borrows hi hx =>
    refine .retires (h.retires_addManager ?_)
    cases made : Manager.borrow _ _ _ _ _ s.pool.env with
    | ok m e =>
      rw [Attempt.after_of_ok made]
      exact idles_asked (borrow_ok made).asked
    | error error e => exact absurd made borrow_ne_error
  | @clears n m hm =>
    obtain same | ⟨m', record, same, -⟩ := clear_cases m s.pool <;> rw [same]
    · exact .retires (.refl _)
    · exact .retires (.write record _)
  | closes hm =>
    exact .retires (retires_destroy h.kept (h.tracksBinding hm) fun _ => h.handle_mem_devices hm)
  | drops n => exact .retires (h.retires_dropManager n)

theorem ordered_next (h : s.Staged life mine) {q : Pool d.recorded} (advances : Advances life o s q) :
    q.Ordered life := by
  cases advances with
  | retires retires => exact retires.ordered h.ordered
  | makes hm hd made bound _ retires =>
    exact retires.ordered (h.ordered.of_makes (h.handle_mem_devices hm hd) made bound)

theorem present_next (h : s.Staged life mine) {q : Pool d.recorded} (grows : s.pool.Grows q)
    (advances : Advances life o s q) (own : ∀ name, q.BindsOwn (createdAfter name o s (mine name)))
    {a : ResourceId} {t : Nat} (keeps : q.keeps t a) : ∃ slot, q.slot? (.tensor t) = some slot := by
  have old (before : ∃ slot, s.pool.slot? (.tensor t) = some slot) :
      ∃ slot, q.slot? (.tensor t) = some slot := by
    obtain ⟨slot, hs⟩ := before
    obtain ⟨slot', hs', -⟩ := grows _ _ hs
    exact ⟨slot', hs'⟩
  cases advances with
  | retires retires =>
    rw [retires.keeps_eq] at keeps
    exact old (h.present keeps)
  | @makes n m device order r p _ hm hd made bound created retires =>
    obtain ⟨e₁, x, e₂, -, -, -, adds⟩ := made
    by_cases ha : a = r
    · subst ha
      have own := own n
      rw [created, if_pos rfl] at own
      obtain ⟨slot, hs, -⟩ := ((h.enrolled n).roster hm).placed _ (own.tensor_mem keeps)
      exact old ⟨slot, hs⟩
    · rw [retires.keeps_eq, adds.keeps a ha] at keeps
      exact old (h.present keeps)

/-- Nothing binds a tensor of a manager but what this manager has made. -/
theorem encloses_next (h : s.Staged life mine) (o : Operation)
    (advances : Advances life o s ((step o).after s).pool)
    (own : ∀ name, ((step o).after s).pool.BindsOwn (createdAfter name o s (mine name)))
    (opened : (((step o).after s).managers.lookup name).isSome) :
    ((step o).after s).pool.Encloses (createdAfter name o s (mine name)) := by
  obtain ⟨m, hm⟩ := Option.isSome_iff_exists.1 opened
  have fares := fares_step o s (mine name) hm
  intro t ht a keeps
  rcases fares.cases with none | ⟨before, more⟩
  · rw [none] at ht
    cases ht
  have old (keeps : s.pool.keeps t a) : a ∈ createdAfter name o s (mine name) := by
    have stays (hmem : .tensor t ∈ mine name) : a ∈ mine name := h.encloses before t hmem a keeps
    rcases more with same | ⟨r, fresh, same⟩ <;> rw [same] at ht ⊢
    · exact stays ht
    · rcases List.mem_append.1 ht with ht | ht
      · exact List.mem_append_left _ (stays ht)
      · obtain ⟨slot, hs⟩ := h.present keeps
        rw [List.mem_singleton.1 ht, fresh] at hs
        cases hs
  generalize ((step o).after s).pool = q at advances own keeps
  cases advances with
  | retires retires =>
    rw [retires.keeps_eq] at keeps
    exact old keeps
  | @makes n m device order r p _ hn hd made bound created retires =>
    obtain ⟨e₁, x, e₂, -, -, -, adds⟩ := made
    by_cases ha : a = r
    · subst ha
      rw [created] at ht ⊢
      have own := own n
      rw [created, if_pos rfl] at own
      by_cases same : n = name
      · rw [if_pos same]
        simp
      · rw [if_neg same] at ht
        have apart := h.apart n name same (by simp [hn]) before
        exact absurd ht (apart (own.tensor_mem keeps))
    · rw [retires.keeps_eq, adds.keeps a ha] at keeps
      exact old keeps

/-- **Each operation keeps a session staged.** -/
theorem step (h : s.Staged life mine) (hc : ∀ c, o = .call c → plain c) (spared : SparesTensors o s)
    (own : ∀ name, ((step o).after s).pool.BindsOwn (createdAfter name o s (mine name))) :
    ((step o).after s).Staged life fun name => createdAfter name o s (mine name) := by
  have advances := h.advances_step hc spared own
  have obs : Observes (.lending d.recorded fun _ => True) o s :=
    ⟨fun _ _ _ _ => trivial, fun _ _ _ => trivial, fun _ _ => trivial, fun c ho => ⟨hc c ho, trivial⟩⟩
  exact
    { account := h.account.of_moves (reaches_step h.named obs).moves
      enrolled := fun name => (h.enrolled name).step o
      apart := fun n₁ n₂ hne => (h.apart n₁ n₂ hne).step hne (h.enrolled n₁) (h.enrolled n₂) o
      ordered := h.ordered_next advances
      present := h.present_next (grows_step h.named o) advances own
      encloses := h.encloses_next o advances own }

end Staged

theorem staged_start {inner : d.State} (sound : life.Sound inner) :
    (recordedStart inner).Staged life fun _ => [] := by
  have unheld (r : ResourceId) (t : Nat) : ¬ (recordedStart inner).pool.keeps t r := by
    cases r <;> simp [start, Pool.keeps]
  exact
    { account := accounted_start sound
      enrolled := fun name => enrolled_start name _
      apart := fun _ _ _ _ _ => List.disjoint_nil_left _
      ordered := {
        account := (accounted_start sound).pool
        covers := by
          rintro kind device object ⟨what, -, h⟩
          cases h
        first := Always.nil
        near := by
          rintro device pipeline buffer ⟨what, h, -⟩
          cases h
        tied := by
          intro a t x y device hy
          simp [start, object?, slot?] at hy }
      present := fun keeps => absurd keeps (unheld _ _)
      encloses := by simp [start] }

/-! ## Runs -/

theorem created_append (name : String) (os : List Operation) (o : Operation) (s : Session d) :
    created name (os ++ [o]) s = createdAfter name o (steps os s) (created name os s) := by
  unfold created
  generalize ([] : List ResourceId) = mine
  induction os generalizing s mine with
  | nil => rfl
  | cons o' os ih => exact ih _ _

/-- A manager that is never named has made nothing. -/
theorem created_of_unnamed {name : String} {os : List Operation} (s : Session d)
    (hm : ∀ o ∈ os, makes? o ≠ some name) (ha : ∀ o ∈ os, ∀ holder, asks? o ≠ some (name, holder)) :
    created name os s = [] := by
  unfold created
  induction os generalizing s with
  | nil => rfl
  | cons o os ih =>
    have none : createdAfter name o s [] = [] := by
      unfold createdAfter
      split
      · exact if_neg (hm o List.mem_cons_self)
      · next n holder _ asked =>
        refine if_neg ?_
        rintro rfl
        exact ha o List.mem_cons_self holder asked
      · rfl
    unfold createdFrom
    rw [none]
    exact ih _ (fun o' h => hm o' (List.mem_cons_of_mem _ h))
      fun o' h => ha o' (List.mem_cons_of_mem _ h)

theorem staged_recordedRun {inner : d.State} (sound : life.Sound inner) {ops : List Operation}
    (hplain : ∀ c, .call c ∈ ops → plain c)
    (own : ∀ os, os <+: ops → ∀ name,
      (recordedRun inner os).pool.BindsOwn (created name os (recordedStart inner)))
    (spared : ∀ os o, os ++ [o] <+: ops → SparesTensors o (recordedRun inner os)) :
    (recordedRun inner ops).Staged life fun name => created name ops (recordedStart inner) := by
  induction ops using List.reverseRecOn with
  | nil => exact staged_start sound
  | append_singleton os o ih =>
    have before : os <+: os ++ [o] := List.prefix_append os [o]
    have staged := ih (fun c hc => hplain c (List.mem_append_left _ hc))
      (fun os' h => own os' (h.trans before)) fun os' o' h => spared os' o' (h.trans before)
    have hc : ∀ c, o = .call c → plain c := by
      rintro c rfl
      exact hplain c (by simp)
    have now := own (os ++ [o]) (List.prefix_refl _)
    have next := staged.step hc (spared os o (List.prefix_refl _)) fun name => by
      rw [← recordedRun_append]
      exact created_append name os o _ ▸ now name
    rw [recordedRun_append]
    simp only [created_append]
    exact next

/-- **Pipelines die before the buffers that they bind.** In a run in which each algorithm binds only
tensors that its own manager has made, and in which no tensor is destroyed explicitly, whenever the
driver is asked to destroy a buffer, each pipeline that was made with this buffer among its bindings was
destroyed before. It does not matter in which order names let go, algorithms are destroyed, and managers
are cleared, destroyed and dropped, whether they manage their resources, and what fails. -/
theorem pipelines_first (life : d.Lifetimes) {inner : d.State} (sound : life.Sound inner)
    {ops : List Operation} (hplain : ∀ c, .call c ∈ ops → plain c)
    (own : ∀ os, os <+: ops → ∀ name,
      (recordedRun inner os).pool.BindsOwn (created name os (recordedStart inner)))
    (spared : ∀ os o, os ++ [o] <+: ops → SparesTensors o (recordedRun inner os)) :
    Always PipelinesFirst (recordedRun inner ops).trace :=
  (staged_recordedRun sound hplain own spared).ordered.first

/-- Two algorithms share a tensor, which is held through them only. One of them is let go of by its
name, the other one by its manager. -/
def shared : List Operation :=
  [.createManager "manager" {} {}, .tensorOfBytes "manager" "tensor" [1, 2, 3, 4] 1 4 .int,
    .algorithm "manager" "first" ["tensor"] [1], .algorithm "manager" "second" ["tensor"] [1],
    .drop "tensor", .drop "first", .dropManager "manager"]

theorem pipelines_first_shared :
    let s := recordedRun computing shared
    s.trace[13]? = some ⟨.destroy 6 .buffer 8, true⟩ ∧
      Destroyed (s.trace.take 13) .pipeline 9 ∧ Destroyed (s.trace.take 13) .pipeline 10 := by
  intro s
  have sound : InMemory.lifetimes.Sound computing := nofun
  have hplain : ∀ c, .call c ∈ shared → plain c := by
    intro c hc
    simp [shared] at hc
  have own : ∀ os, os <+: shared → ∀ name,
      (recordedRun computing os).pool.BindsOwn (created name os (recordedStart computing)) := by
    intro os hos name
    by_cases hname : name = "manager"
    · subst hname
      have each : ∀ os ∈ shared.inits, (recordedRun computing os).pool.BindsOwn
          (created "manager" os (recordedStart computing)) := by decide +kernel
      exact each os ((List.mem_inits _ _).2 hos)
    · have unnamed : ∀ o ∈ os, makes? o ≠ some name ∧ ∀ holder, asks? o ≠ some (name, holder) := by
        intro o ho
        have hmem := hos.subset ho
        simp only [shared, List.mem_cons, List.not_mem_nil, or_false] at hmem
        rcases hmem with rfl | rfl | rfl | rfl | rfl | rfl | rfl <;>
          simp [makes?, asks?, Ne.symm hname]
      rw [created_of_unnamed _ (fun o ho => (unnamed o ho).1) fun o ho => (unnamed o ho).2]
      exact List.forall_mem_nil _
  have spared : ∀ os o, os ++ [o] <+: shared → SparesTensors o (recordedRun computing os) := by
    rintro os o ho name i rfl
    have hmem := ho.subset (List.mem_append_right os List.mem_cons_self)
    simp [shared] at hmem
  have first := pipelines_first InMemory.lifetimes sound hplain own spared (s.trace.take 13)
    ⟨.destroy 6 .buffer 8, true⟩ (s.trace.drop 14) rfl 6 8 rfl
  exact ⟨rfl, first 6 9 ⟨_, rfl, by decide⟩, first 6 10 ⟨_, rfl, by decide⟩⟩

end Session

end GpuCompute
