import GpuCompute.Proofs.Conservation

/-!
# Handles that the caller has

The caller of a session has handles by name: of what it made by calls of its own, and of managers whose
handles it keeps. When it calls the driver by itself it can only end these, or what it makes by the same
call (`Session.minds_call`). Operations that are no such calls do not change which handles the caller has,
except that it may keep those of a manager (`Session.handles_step`).
-/

namespace GpuCompute

open Driver

variable {d : Driver}

/-- What was made and ended again at once. -/
theorem Ledger.deals_withdraws {L : Ledger d} {P : L.Thing → Prop} {e e' : Env d.State}
    (h : L.reading.Withdraws P (L.trace e.driver) (L.trace e'.driver)) : ∃ l, L.Deals l l e e' := by
  obtain ⟨thing, m, -, made, ended⟩ := h
  have deals := Enters.deals (L := L) (made.trans ended)
  simp only [List.append_nil, List.nil_append] at deals
  exact ⟨_, deals⟩

namespace Session

variable (L : Ledger d) {s s' : Session d} {o : Operation} {n name : String}
  {born gone l : List L.Thing} {α : Type}

/-- The handles that the caller has. -/
def handles (s : Session d) : List L.Thing :=
  s.instances.map (L.inst ·.2) ++ s.devices.map (L.device ·.2) ++ s.callbacks.flatMap (L.callbacks ·.2)

/-- What was ended the caller had, or it was just made, and so it is with what the caller has now. -/
structure Minds (s s' : Session d) : Prop where
  ends : ∀ t ∈ L.ended s.pool.env s'.pool.env, t ∈ handles L s ∨ t ∈ L.made s.pool.env s'.pool.env
  has : ∀ t ∈ handles L s', t ∈ handles L s ∨ t ∈ L.made s.pool.env s'.pool.env

variable {L}

theorem mem_handles {t : L.Thing} : t ∈ handles L s ↔ (∃ x ∈ s.instances, L.inst x.2 = t) ∨
    (∃ x ∈ s.devices, L.device x.2 = t) ∨ ∃ x ∈ s.callbacks, t ∈ L.callbacks x.2 := by
  simp [handles]

theorem minds_of_deals (deals : L.Deals born gone s.pool.env s'.pool.env)
    (ends : ∀ t ∈ gone, t ∈ handles L s ∨ t ∈ born)
    (has : ∀ t ∈ handles L s', t ∈ handles L s ∨ t ∈ born) : Minds L s s' := by
  obtain ⟨-, rfl, rfl⟩ := deals
  exact ⟨ends, has⟩

/-- What was made was ended. -/
theorem minds_of_undone (deals : L.Deals l l s.pool.env s'.pool.env)
    (same : handles L s' = handles L s) : Minds L s s' :=
  minds_of_deals deals (fun _ => .inr) fun _ ht => .inl (same ▸ ht)

theorem minds_refl (s : Session d) : Minds L s s := minds_of_undone (.of_driver rfl) rfl

/-! ## Calls of the caller -/

theorem minds_withInstance {act : d.Instance → Attempt (Session d) (Reply d)}
    (h : ∀ i, s.instances.lookup name = some i → Minds L s ((act i).after s)) :
    Minds L s ((withInstance name act).after s) :=
  after_withInstance_induct (minds_refl s) h

theorem minds_withDevice {act : d.Device → Attempt (Session d) (Reply d)}
    (h : ∀ x, s.devices.lookup name = some x → Minds L s ((act x).after s)) :
    Minds L s ((withDevice name act).after s) :=
  after_withDevice_induct (minds_refl s) h

/-- Something is made, and the caller has it. If it cannot be made, nothing is left of it. -/
theorem minds_addObject {act : Act d.State α} {put : α → Session d → Session d}
    (things : α → List L.Thing) (hput : ∀ a s, (put a s).pool = s.pool)
    (has : ∀ a s, ∀ t ∈ handles L (put a s), t ∈ handles L s ∨ t ∈ things a)
    (ok : ∀ {a e}, act s.pool.env = .ok a e → L.Deals (things a) [] s.pool.env e)
    (error : ∀ {error e}, act s.pool.env = .error error e → ∃ l, L.Deals l l s.pool.env e) :
    Minds L s ((addObject act put).after s) := by
  unfold addObject
  cases h : act s.pool.env with
  | ok a e =>
    rw [Attempt.after_bind_of_ok (run_ok h), Attempt.after_modify_bind, Attempt.after_pure]
    have same : (put a (s.withEnv e)).pool.env = e := congrArg Pool.env (hput a _)
    exact minds_of_deals (same.symm ▸ ok h) (by simp) (has a _)
  | error failure e =>
    rw [Attempt.after_bind_of_error (run_error h)]
    obtain ⟨l, deals⟩ := error h
    exact minds_of_undone deals rfl

/-- What an object of a device is made of is no handle. -/
theorem minds_order (C : L.Complete) {x : d.Device} (order : Order d) {kind : α → Object d}
    {act : Act d.State α} {put : α → Session d → Session d} (same : d.make x order = kind <$> act)
    (hput : ∀ a s, (put a s).pool = s.pool) (hhandles : ∀ a s, handles L (put a s) = handles L s) :
    Minds L s ((addObject act put).after s) := by
  have deals := C.make x order s.pool.env
  rw [same, Attempt.after_map] at deals
  refine minds_addObject (fun _ => []) hput (fun a s t ht => .inl (hhandles a s ▸ ht))
    (fun made => ?_) fun failed => ⟨[], ?_⟩
  · exact Attempt.after_of_ok made ▸ deals
  · exact Attempt.after_of_error failed ▸ deals

/-- What the caller has under a name is ended. -/
theorem minds_takeObject {entries : Session d → List (String × α)}
    {setEntries : List (String × α) → Session d → Session d} {consume : α → Env d.State → Env d.State}
    (hset : ∀ l s, (setEntries l s).pool = s.pool)
    (has : ∀ t ∈ handles L (setEntries (without name (entries s)) s), t ∈ handles L s)
    (h : ∀ a, (entries s).lookup name = some a → ∃ gone,
      L.Deals [] gone s.pool.env (consume a s.pool.env) ∧ ∀ t ∈ gone, t ∈ handles L s) :
    Minds L s ((takeObject name entries setEntries consume).after s) := by
  unfold takeObject
  rw [Attempt.after_get_bind]
  cases ha : (entries s).lookup name with
  | none => exact minds_refl s
  | some a =>
    obtain ⟨gone, deals, ends⟩ := h a ha
    have taken : L.Deals [] gone s.pool.env
        (consume a (setEntries (without name (entries s)) s).pool.env) := by rwa [hset]
    exact minds_of_deals taken (fun t ht => .inl (ends t ht)) fun t ht => .inl (has t ht)

theorem mem_handles_instances {i : d.Instance} {t : L.Thing}
    (ht : t ∈ handles L { s with instances := store name i s.instances }) :
    t ∈ handles L s ∨ t ∈ [L.inst i] := by
  rcases mem_handles.1 ht with ⟨x, hx, rfl⟩ | rest
  · rcases mem_of_mem_store hx with rfl | hx
    · exact .inr List.mem_cons_self
    · exact .inl (mem_handles.2 (.inl ⟨x, hx, rfl⟩))
  · exact .inl (mem_handles.2 (.inr rest))

theorem mem_handles_devices {x : d.Device} {t : L.Thing}
    (ht : t ∈ handles L { s with devices := store name x s.devices }) :
    t ∈ handles L s ∨ t ∈ [L.device x] := by
  rcases mem_handles.1 ht with first | ⟨y, hy, rfl⟩ | last
  · exact .inl (mem_handles.2 (.inl first))
  · rcases mem_of_mem_store hy with rfl | hy
    · exact .inr List.mem_cons_self
    · exact .inl (mem_handles.2 (.inr (.inl ⟨y, hy, rfl⟩)))
  · exact .inl (mem_handles.2 (.inr (.inr last)))

theorem mem_handles_callbacks {c : d.Callbacks} {t : L.Thing}
    (ht : t ∈ handles L { s with callbacks := store name c s.callbacks }) :
    t ∈ handles L s ∨ t ∈ L.callbacks c := by
  rcases mem_handles.1 ht with first | second | ⟨y, hy, made⟩
  · exact .inl (mem_handles.2 (.inl first))
  · exact .inl (mem_handles.2 (.inr (.inl second)))
  · rcases mem_of_mem_store hy with rfl | hy
    · exact .inr made
    · exact .inl (mem_handles.2 (.inr (.inr ⟨y, hy, made⟩)))

/-- **By a call of its own the caller ends only what it has**, or what the same call made. -/
theorem minds_call (C : L.Complete) (c : DriverCall) (s : Session d) :
    Minds L s ((call c).after s) := by
  have single {t t' : L.Thing} (ht : t' ∈ [t]) (role : L.role t ≠ .object) : L.role t' ≠ .object :=
    List.mem_singleton.1 ht ▸ role
  cases c with
  | createInstance name what =>
    refine minds_addObject (s := s) (fun i => [L.inst i]) (fun _ _ => rfl)
      (fun i s t => mem_handles_instances) (fun made => ?_) fun failed => ⟨[], ?_⟩
    · exact Ledger.deals_of_enters (L.createInstance_ok made)
        (fun t ht => single ht (by simp [L.role_inst])) (by simp)
    · exact Ledger.deals_of_enters (L.createInstance_error failed) (by simp) (by simp)
  | destroyInstance name =>
    refine minds_withInstance fun i hi => ?_
    have deals : L.Deals [] [L.inst i] s.pool.env (d.destroyInstance i s.pool.env) :=
      Ledger.deals_of_enters (L.destroyInstance i _) (by simp)
        fun t ht => single ht (by simp [L.role_inst])
    refine minds_of_deals deals (fun t ht => .inl ?_) fun t => .inl
    exact mem_handles.2 (.inl ⟨(name, i), mem_of_lookup hi, (List.mem_singleton.1 ht).symm⟩)
  | createDevice name inst adapter what =>
    refine minds_withInstance fun i _ => minds_addObject (s := s) (fun x => [L.device x])
      (fun _ _ => rfl) (fun x s t => mem_handles_devices) (fun made => ?_) fun failed => ?_
    · exact Ledger.deals_of_enters (L.createDevice_ok made)
        (fun t ht => single ht (by simp [L.role_device])) (by simp)
    · exact Ledger.deals_withdraws (L.createDevice_error failed)
  | releaseDevice => exact minds_withDevice fun x _ => minds_of_undone (C.releaseDevice x _) rfl
  | destroyDevice name =>
    refine minds_withDevice fun x hx => ?_
    refine minds_of_deals (C.destroyDevice x s.pool.env) (fun t ht => .inl ?_) fun t => .inl
    exact mem_handles.2
      (.inr (.inl ⟨(name, x), mem_of_lookup hx, (List.mem_singleton.1 ht).symm⟩))
  | probeDevice => exact minds_withDevice fun x _ => minds_refl s
  | survey inst adapter =>
    refine minds_withInstance fun i _ => ?_
    rw [after_run_bind fun _ _ => rfl]
    exact minds_of_undone (.of_asked (onlyAsks_survey i adapter s.pool.env)) rfl
  | registerCallbacks =>
    refine minds_withInstance fun i _ => minds_addObject (s := s) L.callbacks (fun _ _ => rfl)
      (fun c s t => mem_handles_callbacks) (fun made => ?_) fun failed => ?_
    · exact Ledger.deals_of_enters (L.registerCallbacks_ok made)
        (fun t ht => by simp [L.role_callbacks _ t ht]) (by simp)
    · exact Ledger.deals_withdraws (L.registerCallbacks_error failed)
  | unregisterCallbacks inst name =>
    refine minds_withInstance fun i _ => minds_takeObject (by exact fun _ _ => rfl) (fun t ht => ?_)
      fun c hc => ⟨L.callbacks c, ?_, fun t ht => ?_⟩
    · rcases mem_handles.1 ht with first | second | ⟨x, hx, ht⟩
      · exact mem_handles.2 (.inl first)
      · exact mem_handles.2 (.inr (.inl second))
      · exact mem_handles.2 (.inr (.inr ⟨x, (List.mem_filter.1 hx).1, ht⟩))
    · exact Ledger.deals_of_enters (L.unregisterCallbacks i c _) (by simp)
        fun t ht => by simp [L.role_callbacks c t ht]
    · exact mem_handles.2 (.inr (.inr ⟨(name, c), mem_of_lookup hc, ht⟩))
  | createBuffer _ _ size usage =>
    exact minds_withDevice fun x _ =>
      minds_order C (.buffer size usage) rfl (fun _ _ => rfl) fun _ _ => rfl
  | createBatch _ _ family timestamps =>
    exact minds_withDevice fun x _ =>
      minds_order C (.batch family timestamps) rfl (fun _ _ => rfl) fun _ _ => rfl
  | createPipeline name device what =>
    refine minds_withDevice fun x _ => ?_
    rw [Attempt.after_get_bind]
    cases s.looseBindings what.bindings with
    | error => exact minds_refl s
    | ok bindings =>
      exact minds_order C (.pipeline { what with bindings }) rfl (by exact fun _ _ => rfl)
        (by exact fun _ _ => rfl)
  | destroyBuffer =>
    exact minds_withDevice fun x _ => minds_takeObject (by exact fun _ _ => rfl) (fun t => id)
      fun b _ => ⟨[], C.unmake x (.buffer b) _, by simp⟩
  | destroyPipeline =>
    exact minds_withDevice fun x _ => minds_takeObject (by exact fun _ _ => rfl) (fun t => id)
      fun p _ => ⟨[], C.unmake x (.pipeline p) _, by simp⟩
  | destroyBatch =>
    exact minds_withDevice fun x _ => minds_takeObject (by exact fun _ _ => rfl) (fun t => id)
      fun b _ => ⟨[], C.unmake x (.batch b) _, by simp⟩

/-! ## Other operations -/

/-- Whether the caller keeps the handles of a manager. -/
def keeps : Operation → Bool
  | .keepHandles .. => true
  | _ => false

/-- The caller has the same handles as before. -/
def SameHandles (L : Ledger d) (s s' : Session d) : Prop := handles L s' = handles L s

theorem SameHandles.refl (s : Session d) : SameHandles L s s := rfl

theorem sameHandles_dropManager (n : String) (s : Session d) : SameHandles L s (dropManager n s) := by
  unfold dropManager
  cases s.managers.lookup n <;> rfl

theorem sameHandles_addManager {make : Act d.State (Manager d)} :
    Attempt.Leaves (SameHandles L) (addManager n make) := by
  intro s
  rw [after_addManager]
  cases make s.pool.env with
  | error => rfl
  | ok m e =>
    change SameHandles L s (storeManager n m (s.withEnv e))
    unfold storeManager
    cases (s.withEnv e).managers.lookup n <;> rfl

theorem sameHandles_addResource {identify : Nat → ResourceId}
    {make : Manager d → Attempt (Pool d) (Nat × Manager d)} :
    Attempt.Leaves (SameHandles L) (addResource n name identify make) := by
  intro s
  rw [after_addResource]
  cases s.managers.lookup n with
  | none => rfl
  | some m =>
    dsimp only
    cases make m s.pool <;> rfl

theorem sameHandles_addAlgorithm {tensors : List String}
    {make : List Nat → Manager d → Attempt (Pool d) (Nat × Manager d)} :
    Attempt.Leaves (SameHandles L) (addAlgorithm n name tensors make) := by
  intro s
  unfold addAlgorithm
  rw [Attempt.after_get_bind]
  cases s.tensorNumbers tensors with
  | error => rfl
  | ok numbers => exact sameHandles_addResource s

/-- **Only calls of its own, and keeping handles, change which handles the caller has.** -/
theorem handles_step (hc : ∀ c, o ≠ .call c) (hk : keeps o = false) :
    Attempt.Leaves (SameHandles L) (step (d := d) o) := by
  have refl (s : Session d) : SameHandles L s s := .refl s
  cases o with
  | createManager => exact sameHandles_addManager
  | borrow =>
    exact leaves_withInstance refl fun _ => leaves_withDevice refl fun _ => sameHandles_addManager
  | keepHandles => cases hk
  | describeManager | counts => exact leaves_withManager refl fun _ => refl
  | properties | adapters =>
    refine leaves_withManager refl fun m s => ?_
    rw [after_run_bind fun _ _ => rfl]
    rfl
  | clear | destroyManager => exact leaves_withManager refl fun _ _ => rfl
  | dropManager n => exact leaves_withManager refl fun _ => sameHandles_dropManager n
  | tensor | tensorOfBytes | sequence => exact sameHandles_addResource
  | algorithm | algorithmWith => exact sameHandles_addAlgorithm
  | readElements name type =>
    refine leaves_withTensor refl fun _ t s => ?_
    cases t.elements type <;> rfl
  | writeElements name data =>
    refine leaves_withTensor refl fun _ t s => ?_
    cases t.setElements data <;> rfl
  | readBytes => exact leaves_withTensor refl fun _ _ => refl
  | setDescriptorType => exact leaves_withTensor refl fun _ _ _ => rfl
  | holdBound name algorithm position =>
    intro s
    unfold step
    rw [Attempt.after_get_bind]
    cases s.boundTensor? algorithm position <;> rfl
  | describe => exact leaves_withResource refl fun _ => refl
  | destroy | share | drop => exact leaves_withResource refl fun _ _ => rfl
  | call c => exact absurd rfl (hc c)

end Session

end GpuCompute
