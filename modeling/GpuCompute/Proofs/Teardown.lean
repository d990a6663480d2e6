import GpuCompute.Proofs.Moves

/-!
# Letting go, as moves

When a name lets go of a resource or takes hold of another one, when a manager is torn down, and when
it is dropped, this is a number of moves. It takes for granted that no name stands twice among those
that hold something.
-/

namespace GpuCompute.Session

open Driver

variable {d : Driver} {P : Permit d} {s s' : Session d} {name : String}

/-- No name stands twice among the managers, nor among the holders. -/
structure Named (s : Session d) : Prop where
  managers : (namesOf s.managers).Nodup
  held : (namesOf s.pool.held).Nodup

theorem moves_asks {I : d.Instance → Prop} {e : Env d.State} (h : d.Asked I nothing s.pool.env e)
    (may : ∀ i, I i → s.MayAsk P i) : Moves P s [] (s.withEnv e) := .of_move (.turns (.asks h may))

theorem moves_write (r : Log.Record) (s : Session d) : Moves P s [] (s.onEnv (.write r)) :=
  moves_asks (I := nothing) (.write r _) fun _ h => h.elim

/-! ## Holders -/

theorem moves_destroys {q : Pool d} (h : s.pool.Destroys q) :
    Moves P s [] { s with pool := q } := by
  induction h with
  | refl => exact .nil s
  | @tail p q _ h ih =>
    rcases h with ⟨r, rfl⟩ | ⟨record, rfl⟩
    · exact ih.then_ (.of_move (.destroys r))
    · exact ih.then_ (moves_write record _)

theorem moves_reap {old : ResourceId} (holders : List (String × ResourceId))
    (hsub : ∀ x ∈ s.pool.held, x ∈ holders ∨ x.2 = old) :
    Moves P s [] { s with pool := (s.pool.withHeld holders).reap old } := by
  obtain ⟨q, hq, hdestroys, hkept⟩ := Pool.reap_withHeld old s.pool hsub
  rw [hq]
  exact (moves_destroys hdestroys).then_ (.of_move (.reholds hkept))

theorem held_reap (old : ResourceId) (p : Pool d) : (p.reap old).held = p.held := by
  obtain ⟨q, hq, -⟩ := Pool.reap_cases old p.held p
  rw [Pool.withHeld_self] at hq
  rw [hq]
  rfl

theorem held_drop (name : String) (p : Pool d) : (p.drop name).held = without name p.held := by
  unfold Pool.drop
  cases p.find? name with
  | none => rfl
  | some old => exact held_reap old _

theorem held_hold (name : String) (r : ResourceId) (p : Pool d) :
    (p.hold name r).held = store name r p.held := by
  unfold Pool.hold
  cases p.find? name with
  | none => rfl
  | some old => exact held_reap old _

/-- What a name held is all that it held. -/
theorem mem_without_or {l : List (String × ResourceId)} {old : ResourceId}
    (nodup : (namesOf l).Nodup) (hold : l.lookup name = some old) :
    ∀ x ∈ l, x ∈ without name l ∨ x.2 = old := by
  intro x hx
  by_cases hk : x.1 = name
  · right
    have found := lookup_of_mem nodup (show (x.1, x.2) ∈ l from hx)
    rw [hk, hold, Option.some.injEq] at found
    exact found.symm
  · exact .inl (List.mem_filter.2 ⟨hx, by simpa using hk⟩)

theorem moves_drop (nodup : (namesOf s.pool.held).Nodup) (name : String) :
    Moves P s [] (s.onPool (.drop name)) := by
  unfold onPool Pool.drop
  cases h : s.pool.find? name with
  | none =>
    have := without_of_not_mem (not_mem_names_of_lookup h)
    rw [without] at this
    dsimp only
    rw [this]
    exact .nil s
  | some old => exact moves_reap _ (mem_without_or nodup h)

/-- A name takes hold of what it was put down for already, and lets go of what it held before. -/
theorem moves_hold_of_held {l : List (String × ResourceId)} {r : ResourceId}
    (nodup : (namesOf l).Nodup) (held : s.pool.held = l ++ [(name, r)]) :
    Moves P s [] { s with pool := (s.pool.withHeld l).hold name r } := by
  unfold Pool.hold
  cases h : (s.pool.withHeld l).find? name with
  | none =>
    have hl := without_of_not_mem (not_mem_names_of_lookup h)
    rw [without] at hl
    dsimp only
    rw [hl]
    rw [show (s.pool.withHeld l).held = l from rfl, ← held]
    exact .nil s
  | some old =>
    refine moves_reap (without name l ++ [(name, r)]) fun x hx => ?_
    rw [held] at hx
    rcases List.mem_append.1 hx with hx | hx
    · exact (mem_without_or nodup h x hx).imp_left (List.mem_append_left _)
    · exact .inl (List.mem_append_right _ hx)

theorem moves_hold (nodup : (namesOf s.pool.held).Nodup) (name : String) (r : ResourceId) :
    Moves P s [] (s.onPool (.hold name r)) := by
  have more : Move P s [] (s.onPool (.withHeld (s.pool.held ++ [(name, r)]))) := by
    refine .reholds fun r' _ h => ?_
    obtain ⟨x, hx, hr⟩ := Pool.isHeld_iff.1 h
    exact Pool.isHeld_iff.2 ⟨x, List.mem_append_left _ hx, hr⟩
  exact (Moves.of_move more).then_ (moves_hold_of_held nodup rfl)

/-! ## Tearing down -/

theorem destroys_foldl (identify : Nat → ResourceId) (l : List Nat) (p : Pool d) :
    p.Destroys (l.foldl (fun p i => p.destroy (identify i)) p) ∧
      ∀ i ∈ l, (l.foldl (fun p i => p.destroy (identify i)) p).isInit (identify i) = false := by
  induction l generalizing p with
  | nil => exact ⟨.refl p, by simp⟩
  | cons i l ih =>
    obtain ⟨hdestroys, hgone⟩ := ih (p.destroy (identify i))
    refine ⟨(Pool.Destroys.of_destroy _ p).trans hdestroys, fun j hj => ?_⟩
    rcases List.mem_cons.1 hj with rfl | hj
    · exact hdestroys.isInit_eq_false (Pool.isInit_destroy _ p)
    · exact hgone j hj

theorem destroys_registered (kind : String) (identify : Nat → ResourceId) (r : Registry Nat)
    (p : Pool d) : p.Destroys (Manager.destroyRegistered kind identify r p) ∧
      ∀ i ∈ r.entries, p.isHeld (identify i) →
        (Manager.destroyRegistered kind identify r p).isInit (identify i) = false := by
  obtain ⟨hdestroys, hgone⟩ := destroys_foldl identify (r.living fun i => p.isHeld (identify i)) p
  have write := Pool.Destroys.write
    { level := .debug, message := "destroyed tracked " ++ kind,
      fields := [("count", toString (r.living fun i => p.isHeld (identify i)).length)] }
    ((r.living fun i => p.isHeld (identify i)).foldl (fun p i => p.destroy (identify i)) p)
  refine ⟨hdestroys.trans write, fun i hi hheld => write.isInit_eq_false (hgone i ?_)⟩
  exact List.mem_filter.2 ⟨hi, hheld⟩

theorem destroys_tracked (m : Manager d) (p : Pool d) :
    p.Destroys (m.destroyTracked p) ∧
      ∀ r, m.Tracks r → p.isHeld r → (m.destroyTracked p).isInit r = false := by
  obtain ⟨h₁, gone₁⟩ := destroys_registered "sequences" .sequence m.sequences p
  obtain ⟨h₂, gone₂⟩ := destroys_registered "algorithms" .algorithm m.algorithms
    (Manager.destroyRegistered "sequences" .sequence m.sequences p)
  obtain ⟨h₃, gone₃⟩ := destroys_registered "tensors" .tensor m.tensors
    (Manager.destroyRegistered "algorithms" .algorithm m.algorithms
      (Manager.destroyRegistered "sequences" .sequence m.sequences p))
  refine ⟨(h₁.trans h₂).trans h₃, fun r hr hheld => ?_⟩
  cases r with
  | sequence i => exact (h₂.trans h₃).isInit_eq_false (gone₁ i hr hheld)
  | algorithm i => exact h₃.isInit_eq_false (gone₂ i hr (by rwa [h₁.isHeld]))
  | tensor i => exact gone₃ i hr (by rwa [(h₁.trans h₂).isHeld])

/-- The pool when a manager comes to let go of its device. -/
def cleared (m : Manager d) (p : Pool d) : Pool d :=
  let p := p.onEnv (.write { level := .debug, message := "manager destroy started" })
  if m.config.manageResources then m.destroyTracked p else p

theorem destroys_cleared (m : Manager d) (p : Pool d) :
    p.Destroys (cleared m p) ∧ (m.config.manageResources → ∀ r, m.Tracks r →
      (cleared m p).isHeld r → (cleared m p).isInit r = false) := by
  have write := Pool.Destroys.write
    { level := .debug, message := "manager destroy started" } p
  unfold cleared
  split
  · obtain ⟨hdestroys, hgone⟩ := destroys_tracked m
      (p.onEnv (.write { level := .debug, message := "manager destroy started" }))
    exact ⟨write.trans hdestroys, fun _ r hr hheld => hgone r hr (by rwa [← hdestroys.isHeld])⟩
  · next h => exact ⟨write, fun h' => absurd h' h⟩

theorem destroy_of_device {m : Manager d} {device : Ownership d.Device} (h : m.device = some device)
    (p : Pool d) : (m.destroy p).1.device = none ∧ (m.destroy p).1.inst = none ∧
      (m.destroy p).2 = (cleared m p).withEnv (m.shut device (cleared m p).env) := by
  have detached : m.detached.device = none ∧ m.detached.inst = m.inst := by
    unfold Manager.detached
    dsimp only
    split <;> exact ⟨rfl, rfl⟩
  unfold Manager.destroy
  rw [h]
  cases hi : m.inst with
  | none =>
    refine ⟨detached.1, detached.2.trans hi, ?_⟩
    unfold Manager.shut
    rw [hi]
    rfl
  | some inst =>
    refine ⟨detached.1, rfl, ?_⟩
    unfold Manager.shut
    rw [hi]
    rfl

variable {n : String} {m : Manager d} {l₁ l₂ : List (String × Manager d)}

theorem moves_destroyManager (hm : s.managers = l₁ ++ (n, m) :: l₂)
    (stay : ∀ x ∈ l₁ ++ l₂, P.stays (m.destroy s.pool).2.env x.2) :
    Moves P s [] { s with
      pool := (m.destroy s.pool).2, managers := l₁ ++ (n, (m.destroy s.pool).1) :: l₂ } := by
  cases hd : m.device with
  | none =>
    unfold Manager.destroy
    rw [hd]
    dsimp only
    rw [← hm]
    exact (moves_write _ s).then_ (moves_write _ _)
  | some device =>
    obtain ⟨closed, left, hpool⟩ := destroy_of_device hd s.pool
    obtain ⟨hdestroys, hgone⟩ := destroys_cleared m s.pool
    rw [hpool] at stay ⊢
    exact (moves_destroys hdestroys).then_ (.of_move (.closes hm hd closed left hgone stay))

theorem moves_dropManager (hm : s.managers = l₁ ++ (n, m) :: l₂)
    (stay : ∀ x ∈ l₁ ++ l₂, P.stays (m.drop s.pool).env x.2) :
    Moves P s [] { s with pool := m.drop s.pool, managers := l₁ ++ l₂ } := by
  unfold Manager.drop Manager.isDestroyed at stay ⊢
  cases hd : m.device with
  | none => exact .of_move (.forgets hm hd)
  | some device =>
    simp only [hd, Option.isNone_some, Bool.false_eq_true, if_false] at stay ⊢
    obtain ⟨closed, -⟩ := destroy_of_device hd s.pool
    exact (moves_destroyManager hm stay).then_ (.of_move (.forgets rfl closed))

theorem held_destroyManager (m : Manager d) (p : Pool d) : (m.destroy p).2.held = p.held := by
  cases hd : m.device with
  | none =>
    unfold Manager.destroy
    rw [hd]
    rfl
  | some device =>
    rw [(destroy_of_device hd p).2.2]
    exact (destroys_cleared m p).1.held_eq

theorem held_dropManager (m : Manager d) (p : Pool d) : (m.drop p).held = p.held := by
  unfold Manager.drop
  split
  · rfl
  · exact held_destroyManager m p

theorem storeManager_of_none (h : s.managers.lookup name = none) :
    storeManager name m s = { s with managers := s.managers ++ [(name, m)] } := by
  unfold storeManager
  rw [h]
  dsimp only
  rw [store, without_of_not_mem (not_mem_names_of_lookup h)]

theorem storeManager_of_splits {old : Manager d} (hl : Splits name old s.managers l₁ l₂)
    (h : s.managers.lookup name = some old) : storeManager name m s =
      { s with pool := old.drop s.pool, managers := l₁ ++ (l₂ ++ [(name, m)]) } := by
  unfold storeManager
  rw [h]
  dsimp only
  rw [hl.store, List.append_assoc]
  rfl

/-- A new manager takes a name, and the one that had it before is dropped. -/
theorem moves_storeManager (nodup : (namesOf s.managers).Nodup)
    (stay : ∀ x ∈ (storeManager name m s).managers, P.stays (storeManager name m s).pool.env x.2) :
    Moves P { s with managers := s.managers ++ [(name, m)] } [] (storeManager name m s) := by
  cases h : s.managers.lookup name with
  | none =>
    rw [storeManager_of_none h]
    exact .nil _
  | some old =>
    obtain ⟨l₁, l₂, hl⟩ := exists_splits nodup h
    rw [storeManager_of_splits hl h] at stay ⊢
    refine moves_dropManager (s := { s with managers := s.managers ++ [(name, m)] })
      (n := name) (m := old) ?_ stay
    change s.managers ++ [(name, m)] = _
    rw [hl.eq, List.append_assoc, List.cons_append]

theorem named_storeManager (hs : s.Named) (name : String) (m : Manager d) :
    (storeManager name m s).Named := by
  have managers := nodup_store name m hs.managers
  cases h : s.managers.lookup name with
  | none =>
    rw [store, without_of_not_mem (not_mem_names_of_lookup h)] at managers
    rw [storeManager_of_none h]
    exact ⟨managers, hs.held⟩
  | some old =>
    obtain ⟨l₁, l₂, hl⟩ := exists_splits hs.managers h
    rw [hl.store, List.append_assoc] at managers
    rw [storeManager_of_splits hl h]
    refine ⟨managers, ?_⟩
    change (namesOf (old.drop s.pool).held).Nodup
    rw [held_dropManager]
    exact hs.held

end GpuCompute.Session
