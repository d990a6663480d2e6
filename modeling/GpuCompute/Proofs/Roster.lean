import GpuCompute.Proofs.Calls

/-!
# What a manager has made

`Session.created` reads off the answers of a run which resources the manager under a name has made, in
the order of their creation. `Session.Fares` says what one operation does to a manager and to this
list. From this it follows that a manager tracks its resources in the order in which they were made,
and that one which manages resources tracks all that were not destroyed (`Manager.Roster`); each run
keeps this (`Session.enrolled_steps`).
-/

namespace GpuCompute

variable {d : Driver}

/-! ## Rosters -/

namespace Manager

variable {m m' : Manager d} {config : Config} {e e' : Env d.State} {p p' : Pool d}
  {mine : List ResourceId} {r : ResourceId}

/-- A manager with a device has an instance, and it has callbacks if the instance is its own and
diagnostics are on. -/
def Equipped (m : Manager d) : Prop :=
  m.device.isSome → ∃ inst, m.inst = some inst ∧
    m.callbacks.isSome = (inst.isOwned && m.config.diagnostics)

/-- What is true of a manager when it is made. -/
structure New (m : Manager d) : Prop where
  opened : m.device.isSome
  /-- It owns both its instance and its device, or neither of them. -/
  paired : ∀ i x, m.inst = some i → m.device = some x → i.isOwned = x.isOwned
  equipped : m.Equipped
  tracked : ∀ kind, m.tracked kind = []

theorem tracked_of_counts (h : m.trackedCounts = ⟨0, 0, 0⟩) (kind : Trace.Kind) :
    m.tracked kind = [] := by
  simp only [trackedCounts, Registry.size, TrackedCounts.mk.injEq, List.length_eq_zero_iff] at h
  obtain ⟨hs, ha, ht⟩ := h
  cases kind <;> simp [tracked, hs, ha, ht]

theorem Creates.new (h : m.Creates config e e') : m.New := by
  obtain ⟨inst, device, e₁, made, -, consists⟩ := h
  refine ⟨by simp [consists.device], ?_, fun _ => ⟨_, consists.inst, ?_⟩,
    tracked_of_counts consists.tracks⟩
  · intro i x hi hx
    cases consists.inst.symm.trans hi
    cases consists.device.symm.trans hx
    rfl
  rw [consists.callbacks, made.callbacks, consists.config]
  rfl

theorem Borrows.new {i : d.Instance} {x : d.Device} (h : m.Borrows config i x e e') : m.New := by
  refine ⟨by simp [h.device], ?_, fun _ => ⟨_, h.inst, ?_⟩, tracked_of_counts h.tracks⟩
  · intro i x hi hx
    cases h.inst.symm.trans hi
    cases h.device.symm.trans hx
    rfl
  rw [h.callbacks]
  rfl

theorem registry_of_tracked (h : ∀ kind, m.tracked kind = []) :
    m.sequences = {} ∧ m.algorithms = {} ∧ m.tensors = {} := by
  have empty {α : Type} {r : Registry Nat} {f : Nat → α} (h : r.entries.map f = []) : r = {} := by
    rw [List.map_eq_nil_iff] at h
    cases r
    cases h
    rfl
  exact ⟨empty (h .batch), empty (h .pipeline), empty (h .buffer)⟩

/-- Without device and queues nothing is left of a manager, also if it does not manage resources. -/
theorem detached_eq (h : m.config.manageResources = false → ∀ kind, m.tracked kind = []) :
    m.detached =
      { m with device := none, queues := [], sequences := {}, algorithms := {}, tensors := {} } := by
  unfold Manager.detached
  dsimp only
  split
  · rfl
  · next passive =>
    obtain ⟨sequences, algorithms, tensors⟩ := registry_of_tracked (h (Bool.eq_false_iff.2 passive))
    cases m
    cases sequences
    cases algorithms
    cases tensors
    rfl

/-- Clearing leaves what is tracked, or what of it is usable. -/
theorem tracked_clear (m : Manager d) (p : Pool d) (kind : Trace.Kind) :
    (m.clear p).1.tracked kind = m.tracked kind ∨
      (m.clear p).1.tracked kind = (m.tracked kind).filter p.isUsable := by
  unfold Manager.clear
  split
  · right
    cases kind <;> rw [tracked, tracked, List.filter_map] <;> rfl
  · exact .inl rfl

/-- What a manager tracks, and what it has made. -/
structure Roster (m : Manager d) (p : Pool d) (mine : List ResourceId) : Prop where
  nodup : mine.Nodup
  /-- What it has made is on its device. -/
  placed : ∀ r ∈ mine, ∃ slot, p.slot? r = some slot ∧
    ∀ device, m.device = some device → slot.device = device.handle
  /-- What it tracks it has made, and in this order. -/
  listed : ∀ kind, (m.tracked kind).Sublist mine
  passive : m.config.manageResources = false → ∀ kind, m.tracked kind = []
  /-- A manager with resource management tracks what has its object. -/
  tracks : m.config.manageResources → m.device.isSome → ∀ r ∈ mine, p.isInit r → m.Tracks r
  equipped : m.Equipped

theorem New.roster_nil (h : m.New) (p : Pool d) : m.Roster p [] where
  nodup := .nil
  placed := nofun
  listed kind := h.tracked kind ▸ .refl _
  passive _ := h.tracked
  tracks := nofun
  equipped := h.equipped

namespace Roster

theorem of_grows (h : m.Roster p mine) (hp : p.Grows p') : m.Roster p' mine := by
  refine ⟨h.nodup, fun r hr => ?_, h.listed, h.passive, fun manages open' r hr hinit => ?_, h.equipped⟩
  · obtain ⟨slot, hs, on⟩ := h.placed r hr
    obtain ⟨slot', hs', same, -⟩ := hp r slot hs
    exact ⟨slot', hs', fun device hd => same.trans (on device hd)⟩
  · obtain ⟨slot, hs, -⟩ := h.placed r hr
    exact h.tracks manages open' r hr (hp.isInit hs hinit)

/-- The manager makes a resource. -/
theorem of_registers (h : m.Roster p mine) (hp : p.Grows p') {device : Ownership d.Device}
    (hd : m.device = some device) (fresh : p.slot? r = none) {slot : Slot d (Object d)}
    (hr : p'.slot? r = some slot) (on : slot.device = device.handle)
    (registers : Session.Registers m r m') : m'.Roster p' (mine ++ [r]) := by
  have later := h.of_grows hp
  have like := registers.like
  refine ⟨?nodup, ?placed, ?listed, ?passive, ?tracks, ?equipped⟩
  case nodup =>
    refine List.nodup_append.2 ⟨h.nodup, by simp, ?_⟩
    rintro r' hr' _ hmem rfl
    rw [List.mem_singleton.1 hmem] at hr'
    obtain ⟨slot', hs, -⟩ := h.placed r hr'
    rw [fresh] at hs
    cases hs
  case placed =>
    intro r' hr'
    rw [like.device]
    rcases List.mem_append.1 hr' with hr' | hr'
    · exact later.placed r' hr'
    · rw [List.mem_singleton.1 hr']
      refine ⟨slot, hr, fun device' hd' => ?_⟩
      rw [hd] at hd'
      cases hd'
      exact on
  case listed =>
    intro kind
    rw [registers.tracked]
    refine (h.listed kind).append ?_
    split
    · exact .refl _
    · exact List.nil_sublist _
  case passive => exact registers.tracked_of_passive h.passive
  case tracks =>
    intro manages _ r' hr' hinit
    rw [like.config] at manages
    rcases List.mem_append.1 hr' with hr' | hr'
    · exact registers.tracks_old r' (later.tracks manages (by simp [hd]) r' hr' hinit)
    · rw [List.mem_singleton.1 hr']
      exact registers.tracks_new manages
  case equipped =>
    unfold Equipped
    rw [like.device, like.inst, like.callbacks, like.config]
    exact h.equipped

/-- The manager forgets what is dead or destroyed. -/
theorem clear (h : m.Roster p mine) (kept : p.Kept) : (m.clear p).1.Roster p mine := by
  have sublist (kind : Trace.Kind) : ((m.clear p).1.tracked kind).Sublist (m.tracked kind) := by
    obtain heq | heq := tracked_clear m p kind <;> rw [heq]
    exact List.filter_sublist
  obtain heq | ⟨m', record, heq, like, useful⟩ := Session.clear_cases m p
  · rw [heq]
    exact h
  · rw [heq] at sublist ⊢
    refine ⟨h.nodup, ?_, fun kind => (sublist kind).trans (h.listed kind), ?_, ?_, ?_⟩
    · rw [like.device]
      exact h.placed
    · intro passive kind
      have none := sublist kind
      rw [h.passive (like.config ▸ passive)] at none
      exact List.sublist_nil.1 none
    · intro manages open' r hr hinit
      rw [like.config] at manages
      rw [like.device] at open'
      exact useful r (h.tracks manages open' r hr hinit) (kept.isUsable hinit)
    · unfold Equipped
      rw [like.device, like.inst, like.callbacks, like.config]
      exact h.equipped

/-- A manager that was torn down tracks nothing and has no queues. -/
theorem tracked_destroy (h : m.Roster p mine) (hd : m.device.isSome) :
    (∀ kind, (m.destroy p).1.tracked kind = []) ∧ (m.destroy p).1.queues = [] := by
  obtain ⟨device, hd⟩ := Option.isSome_iff_exists.1 hd
  unfold Manager.destroy
  rw [hd, detached_eq h.passive]
  cases m.inst <;> exact ⟨fun kind => by cases kind <;> rfl, rfl⟩

/-- The manager is torn down. -/
theorem destroy (h : m.Roster p mine) : (m.destroy p).1.Roster p mine := by
  cases hd : m.device with
  | none =>
    have same : (m.destroy p).1 = m := by
      unfold Manager.destroy
      rw [hd]
    exact same.symm ▸ h
  | some device =>
    obtain ⟨none, -⟩ := h.tracked_destroy (p := p) (by simp [hd])
    obtain ⟨closed, -⟩ := Session.destroy_of_device hd p
    refine ⟨h.nodup, fun r hr => ?_, fun kind => ?_, fun _ => none, ?_, ?_⟩
    · obtain ⟨slot, hs, -⟩ := h.placed r hr
      exact ⟨slot, hs, fun device' hd' => by rw [closed] at hd'; cases hd'⟩
    · rw [none]
      exact List.nil_sublist _
    · intro _ open'
      rw [closed] at open'
      cases open'
    · intro open'
      rw [closed] at open'
      cases open'

end Roster

end Manager

namespace Session

open Manager

variable {s s' : Session d} {o : Operation} {name n holder : String} {m m' : Manager d}
  {mine : List ResourceId}

/-! ## What was made -/

/-- The manager that an operation asks for a resource, and the name that is to hold it. -/
def asks? : Operation → Option (String × String)
  | .tensor m name _ | .tensorOfBytes m name .. | .algorithm m name .. | .algorithmWith m name ..
  | .sequence m name .. => some (m, name)
  | _ => none

/-- The name under which an operation makes a manager. -/
def makes? : Operation → Option String
  | .createManager m .. | .borrow m .. => some m
  | _ => none

/-- What the manager under a name has made after an operation, if `mine` is what it had made before. A
resource that was made is the one that the given name holds now; a new manager has made none. -/
def createdAfter (name : String) (o : Operation) (s : Session d) (mine : List ResourceId) :
    List ResourceId :=
  match (step o).outcome s, asks? o with
  | (.ok (.manager ..), _), _ => if makes? o = some name then [] else mine
  | (.ok .created, s'), some (m, holder) =>
    if m = name then mine ++ (s'.pool.find? holder).toList else mine
  | _, _ => mine

/-- What the manager under a name has made after a run, in the order of creation. -/
def createdFrom (name : String) : List Operation → Session d → List ResourceId → List ResourceId
  | [], _, mine => mine
  | o :: os, s, mine => createdFrom name os ((step o).after s) (createdAfter name o s mine)

/-- What the manager under a name has made in a run, in the order of creation. -/
def created (name : String) (os : List Operation) (s : Session d) : List ResourceId :=
  createdFrom name os s []

theorem createdAfter_of_quiet (ha : asks? o = none) (hm : makes? o = none) :
    createdAfter name o s mine = mine := by
  unfold createdAfter
  split
  · simp [hm]
  · next h => simp [ha] at h
  · rfl

/-- Nothing was made if the answer says nothing of it. -/
theorem createdAfter_of_ok {reply : Reply d} (h : step o s = .ok reply s')
    (hm : ∀ families queues, reply ≠ .manager families queues) (hc : reply ≠ .created) :
    createdAfter name o s mine = mine := by
  unfold createdAfter Attempt.outcome
  rw [h]
  cases reply <;> first | rfl | exact absurd rfl (hm _ _) | exact absurd rfl hc

theorem createdAfter_of_error {error : Error} (h : step o s = .error error s') :
    createdAfter name o s mine = mine := by
  unfold createdAfter Attempt.outcome
  rw [h]

theorem createdAfter_of_created (h : step o s = .ok .created s') (ha : asks? o = some (n, holder)) :
    createdAfter name o s mine =
      if n = name then mine ++ (s'.pool.find? holder).toList else mine := by
  unfold createdAfter Attempt.outcome
  rw [h, ha]

theorem createdAfter_of_manager {families : List UInt32} {queues : Nat}
    (h : step o s = .ok (.manager families queues) s') (hm : makes? o = some n) :
    createdAfter name o s mine = if n = name then [] else mine := by
  unfold createdAfter Attempt.outcome
  rw [h, hm]
  simp only [Option.some.injEq]

/-! ## What an operation does to a manager -/

/-- What an operation that leads from one session to another does to the manager under a name, and to
what this has made. -/
inductive Fares (name : String) (s s' : Session d) (mine : List ResourceId) :
    Manager d → List ResourceId → Prop
  | stays {m : Manager d} (hm : s.managers.lookup name = some m) : Fares name s s' mine m mine
  | comes {m : Manager d} (new : m.New) : Fares name s s' mine m []
  | makes {m m' : Manager d} {device : Ownership d.Device} {r : ResourceId} {slot : Slot d (Object d)}
    (hm : s.managers.lookup name = some m) (hd : m.device = some device)
    (fresh : s.pool.slot? r = none) (hr : s'.pool.slot? r = some slot)
    (on : slot.device = device.handle) (registers : Registers m r m') :
    Fares name s s' mine m' (mine ++ [r])
  | prunes {m : Manager d} (hm : s.managers.lookup name = some m) :
    Fares name s s' mine (m.clear s.pool).1 mine
  | closes {m : Manager d} (hm : s.managers.lookup name = some m) :
    Fares name s s' mine (m.destroy s.pool).1 mine

/-- The managers stay as they are. -/
def Still (s s' : Session d) : Prop := s'.managers = s.managers

theorem still_refl (s : Session d) : Still s s := rfl

theorem still_trans (s s' s'' : Session d) (h : Still s s') (h' : Still s' s'') : Still s s'' :=
  h'.trans h

theorem still_run {α : Type} (act : Act d.State α) : Attempt.Leaves Still (run act) := by
  intro s
  rw [after_run]
  rfl

/-- Calls of the driver have nothing to do with managers. -/
theorem still_call (c : DriverCall) : Attempt.Leaves Still (call (d := d) c) :=
  fun s => (untouched_call c s).managers

theorem fares_of_still (ha : asks? o = none) (hm : makes? o = none)
    (still : Attempt.Leaves Still (step (d := d) o))
    (h : ((step o).after s).managers.lookup name = some m) :
    Fares name s ((step o).after s) mine m (createdAfter name o s mine) := by
  rw [createdAfter_of_quiet ha hm]
  exact .stays (still s ▸ h)

/-- The operation makes a resource, or fails and leaves all managers as they are. -/
theorem fares_addResource {identify : Nat → ResourceId} {tensors : List Nat}
    {make : Manager d → Attempt (Pool d) (Nat × Manager d)}
    (hstep : step o s = addResource n holder identify make s) (ha : asks? o = some (n, holder))
    (produces : ∀ m, Produces m identify tensors (make m))
    (h : ((step o).after s).managers.lookup name = some m) :
    Fares name s ((step o).after s) mine m (createdAfter name o s mine) := by
  unfold addResource withManager at hstep
  rw [Attempt.get_bind] at hstep
  cases hn : s.managers.lookup n with
  | none =>
    rw [hn] at hstep
    rw [Attempt.after_of_ok hstep] at h
    rw [createdAfter_of_ok hstep nofun nofun]
    exact .stays h
  | some m₁ =>
    rw [hn] at hstep
    cases hmake : make m₁ s.pool with
    | error error p =>
      have hstep := hstep.trans (Attempt.bind_of_error (runPool_error hmake))
      rw [Attempt.after_of_error hstep] at h
      rw [createdAfter_of_error hstep]
      exact .stays h
    | ok made p =>
      obtain ⟨i, m₂⟩ := made
      have hstep := hstep.trans (Attempt.bind_of_ok (runPool_ok hmake))
      dsimp only at hstep
      rw [Attempt.modify_bind] at hstep
      obtain ⟨device, order, hd, -, ⟨e₁, x, e₂, -, -, -, adds⟩, registers, -⟩ :=
        (produces m₁).ok hmake
      rw [Attempt.after_of_ok hstep] at h ⊢
      rw [createdAfter_of_created hstep ha]
      change (update n m₂ s.managers).lookup name = some m at h
      by_cases hname : n = name
      · subst hname
        rw [lookup_update_self hn] at h
        cases h
        have found : (p.hold holder (identify i)).find? holder = some (identify i) := by
          unfold Pool.find?
          rw [held_hold, lookup_store_self]
        obtain ⟨slot, hr, on, -⟩ := Pool.Grows.of_hold holder (identify i) p _ _ adds.slot
        change Fares n s _ mine m
          (if n = n then mine ++ ((p.hold holder (identify i)).find? holder).toList else mine)
        rw [if_pos rfl, found]
        exact .makes hn hd adds.fresh hr on registers
      · rw [lookup_update_of_ne (Ne.symm hname)] at h
        rw [if_neg hname]
        exact .stays h

/-- The operation makes a manager, or fails and leaves all managers as they are. -/
theorem fares_addManager {make : Act d.State (Manager d)} (hstep : step o s = addManager n make s)
    (hm : makes? o = some n) (new : ∀ {m e}, make s.pool.env = .ok m e → m.New)
    (h : ((step o).after s).managers.lookup name = some m) :
    Fares name s ((step o).after s) mine m (createdAfter name o s mine) := by
  unfold addManager at hstep
  cases hmake : make s.pool.env with
  | error error e =>
    have hstep := hstep.trans (Attempt.bind_of_error (run_error hmake))
    rw [Attempt.after_of_error hstep] at h
    rw [createdAfter_of_error hstep]
    exact .stays h
  | ok m₁ e =>
    have hstep := hstep.trans (Attempt.bind_of_ok (run_ok hmake))
    rw [Attempt.modify_bind] at hstep
    have managers : (storeManager n m₁ (s.withEnv e)).managers = store n m₁ s.managers := by
      unfold storeManager
      cases (s.withEnv e).managers.lookup n <;> rfl
    rw [Attempt.after_of_ok hstep, managers] at h
    rw [createdAfter_of_manager hstep hm]
    by_cases hname : n = name
    · subst hname
      rw [lookup_store_self] at h
      cases h
      rw [if_pos rfl]
      exact .comes (new hmake)
    · rw [lookup_store_of_ne (Ne.symm hname)] at h
      rw [if_neg hname]
      exact .stays h

/-- The operation gives the manager under a name another state. -/
theorem fares_setManager (n : String) (change : Manager d → Manager d × Pool d)
    (ha : asks? o = none) (hm : makes? o = none)
    (after : (step o).after s = match s.managers.lookup n with
      | none => s
      | some m => { s with pool := (change m).2 }.setManager n (change m).1)
    (fares : ∀ {m}, s.managers.lookup n = some m →
      Fares n s ((step o).after s) mine (change m).1 mine)
    (h : ((step o).after s).managers.lookup name = some m) :
    Fares name s ((step o).after s) mine m (createdAfter name o s mine) := by
  rw [createdAfter_of_quiet ha hm]
  cases hn : s.managers.lookup n with
  | none =>
    rw [hn] at after
    rw [after] at h
    exact .stays h
  | some m₁ =>
    rw [hn] at after
    rw [after] at h
    change (update n _ s.managers).lookup name = some m at h
    by_cases hname : n = name
    · subst hname
      rw [lookup_update_self hn] at h
      cases h
      exact fares hn
    · rw [lookup_update_of_ne (Ne.symm hname)] at h
      exact .stays h

theorem managers_step_dropManager (n : String) (s : Session d) :
    ((step (.dropManager n)).after s).managers = without n s.managers := by
  unfold step
  rw [after_withManager]
  cases hn : s.managers.lookup n with
  | none => exact (without_of_not_mem (not_mem_names_of_lookup hn)).symm
  | some m =>
    change (dropManager n s).managers = _
    unfold dropManager
    rw [hn]
    rfl

theorem fares_dropManager (n : String)
    (h : ((step (.dropManager n)).after s).managers.lookup name = some m) :
    Fares name s ((step (.dropManager n)).after s) mine m
      (createdAfter name (.dropManager n) s mine) := by
  rw [createdAfter_of_quiet rfl rfl]
  rw [managers_step_dropManager] at h
  by_cases hname : name = n
  · rw [hname, lookup_without_self] at h
    cases h
  · rw [lookup_without_of_ne hname] at h
    exact .stays h

theorem fares_addAlgorithm {names : List String}
    {make : List Nat → Manager d → Attempt (Pool d) (Nat × Manager d)}
    (hstep : step o s = addAlgorithm n holder names make s) (ha : asks? o = some (n, holder))
    (produces : ∀ numbers m, Produces m .algorithm numbers (make numbers m))
    (h : ((step o).after s).managers.lookup name = some m) :
    Fares name s ((step o).after s) mine m (createdAfter name o s mine) := by
  unfold addAlgorithm at hstep
  rw [Attempt.get_bind] at hstep
  cases hnumbers : s.tensorNumbers names with
  | error tensor =>
    rw [hnumbers] at hstep
    rw [Attempt.after_of_ok hstep] at h
    rw [createdAfter_of_ok hstep nofun nofun]
    exact .stays h
  | ok numbers =>
    rw [hnumbers] at hstep
    exact fares_addResource hstep ha (produces numbers) h

theorem fares_borrow {inst device : String} {adapter : AdapterHandle} {families : List UInt32}
    {config : Config} (ho : o = .borrow n inst device adapter families config)
    (h : ((step o).after s).managers.lookup name = some m) :
    Fares name s ((step o).after s) mine m (createdAfter name o s mine) := by
  have hstep : step o s = match s.instances.lookup inst, s.devices.lookup device with
      | none, _ => .ok (.unknown inst) s
      | some _, none => .ok (.unknown device) s
      | some i, some x => addManager n (Manager.borrow config i adapter x families) s := by
    rw [ho]
    change withInstance inst _ s = _
    unfold withInstance withDevice
    rw [Attempt.get_bind]
    cases s.instances.lookup inst with
    | none => rfl
    | some i =>
      dsimp only
      rw [Attempt.get_bind]
      cases s.devices.lookup device <;> rfl
  have unknown {what : String} (hstep : step o s = .ok (.unknown what) s) :
      Fares name s ((step o).after s) mine m (createdAfter name o s mine) := by
    rw [Attempt.after_of_ok hstep] at h
    rw [createdAfter_of_ok hstep nofun nofun]
    exact .stays h
  split at hstep
  · exact unknown hstep
  · exact unknown hstep
  · exact fares_addManager hstep (by rw [ho]; rfl) (fun h => (Manager.borrow_ok h).new) h

/-- **What an operation does to a manager.** -/
theorem fares_step (o : Operation) (s : Session d) (mine : List ResourceId)
    (h : ((step o).after s).managers.lookup name = some m) :
    Fares name s ((step o).after s) mine m (createdAfter name o s mine) := by
  cases o with
  | createManager n config selection =>
    exact fares_addManager rfl rfl (fun h => (Manager.create_ok h).new) h
  | borrow n inst device adapter families config => exact fares_borrow rfl h
  | tensor | tensorOfBytes =>
    exact fares_addResource rfl rfl (fun m => produces_tensorOfBytes m _ _ _ _) h
  | sequence => exact fares_addResource rfl rfl (fun m => produces_sequence m _ _) h
  | algorithm n name tensors code =>
    exact fares_addAlgorithm rfl rfl (fun numbers m => produces_algorithm m numbers code) h
  | algorithmWith n name tensors code workgroup pushConstants =>
    exact fares_addAlgorithm rfl rfl
      (fun numbers m => produces_algorithmWith m numbers code workgroup pushConstants) h
  | clear n =>
    refine fares_setManager n (fun m => m.clear s.pool) rfl rfl ?_ .prunes h
    unfold step
    rw [after_withManager]
    rfl
  | destroyManager n =>
    refine fares_setManager n (fun m => m.destroy s.pool) rfl rfl ?_ .closes h
    unfold step
    rw [after_withManager]
    rfl
  | dropManager n => exact fares_dropManager n h
  | keepHandles | describeManager | counts =>
    exact fares_of_still rfl rfl (leaves_withManager still_refl fun _ _ => rfl) h
  | properties | adapters =>
    exact fares_of_still rfl rfl
      (leaves_withManager still_refl fun _ => .bind still_trans (still_run _) fun _ _ => rfl) h
  | readElements name type =>
    refine fares_of_still rfl rfl (leaves_withTensor still_refl fun _ t s => ?_) h
    cases t.elements type <;> rfl
  | writeElements name data =>
    refine fares_of_still rfl rfl (leaves_withTensor still_refl fun _ t s => ?_) h
    cases t.setElements data <;> rfl
  | readBytes | setDescriptorType =>
    exact fares_of_still rfl rfl (leaves_withTensor still_refl fun _ _ _ => rfl) h
  | holdBound name algorithm position =>
    refine fares_of_still rfl rfl (fun s => ?_) h
    unfold step
    rw [Attempt.after_get_bind]
    cases s.boundTensor? algorithm position <;> rfl
  | describe | destroy | share | drop =>
    exact fares_of_still rfl rfl (leaves_withResource still_refl fun _ _ => rfl) h
  | call c => exact fares_of_still rfl rfl (still_call c) h

/-! ## Runs -/

/-- What is known of the manager under a name, if there is one, and of what it has made. -/
structure Enrolled (name : String) (s : Session d) (mine : List ResourceId) : Prop where
  named : s.Named
  kept : s.pool.Kept
  roster : ∀ {m}, s.managers.lookup name = some m → m.Roster s.pool mine

/-- Each operation keeps the roster, also a call that the caller makes. -/
theorem Enrolled.step (h : Enrolled name s mine) (o : Operation) :
    Enrolled name ((step o).after s) (createdAfter name o s mine) := by
  have grows := grows_step h.named o
  refine ⟨named_step h.named o, kept_step h.named h.kept o, fun found => ?_⟩
  have fares := fares_step o s mine found
  generalize createdAfter name o s mine = mine' at fares
  cases fares with
  | stays hm => exact (h.roster hm).of_grows grows
  | comes new => exact new.roster_nil _
  | makes hm hd fresh hr on registers => exact (h.roster hm).of_registers grows hd fresh hr on registers
  | prunes hm => exact ((h.roster hm).clear h.kept).of_grows grows
  | closes hm => exact (h.roster hm).destroy.of_grows grows

theorem enrolled_from (h : Enrolled name s mine) (os : List Operation) :
    Enrolled name (steps os s) (createdFrom name os s mine) := by
  induction os generalizing s mine with
  | nil => exact h
  | cons o os ih => exact ih (h.step o)

theorem enrolled_start (name : String) (driver : d.State) : Enrolled name (start driver) [] :=
  ⟨named_start driver, kept_start driver, nofun⟩

theorem enrolled_steps (name : String) (driver : d.State) (os : List Operation) :
    Enrolled name (steps os (start driver)) (created name os (start driver)) :=
  enrolled_from (enrolled_start name driver) os

end Session

end GpuCompute
