import GpuCompute.Proofs.Managers
import GpuCompute.Proofs.Parallel

/-!
# Sessions that are alike

A likeness says in which ways two sessions may differ: in their environments, in what their managers
track, and in whether they do (`Likeness`). On a driver that does not look at what the environments differ
in, sessions that agree up to this go through the same operations alike: through all that neither make,
clear nor take down managers (`Likeness.matches_ordinary`), and through these as far as what two managers
track is destroyed alike (`Likeness.Clears`).
-/

namespace GpuCompute

open Attempt (Alike Ends)

variable {d : Driver}

/-! ## Answers -/

/-- The text of a manager, given the texts of its registries. -/
def Manager.portrait (m : Manager d) (sequences algorithms tensors : String) : String :=
  let owned {η : Type} (o : Option (Ownership η)) : String :=
    Text.showOption (o.map fun h => Text.showBool h.isOwned)
  Text.showRecord "Manager"
    [("physical_device", Text.showHandle m.adapter.toNat), ("owns_instance", owned m.inst),
      ("owns_device", owned m.device),
      ("queue_family_indices", Text.showList (m.families.map fun f => toString f.toNat)),
      ("sequences", sequences), ("algorithms", algorithms), ("tensors", tensors)]
    true

theorem Manager.debug_eq (m : Manager d) (p : Pool d) : m.debug p =
    m.portrait (m.sequences.debug fun i => p.isHeld (.sequence i))
      (m.algorithms.debug fun i => p.isHeld (.algorithm i))
      (m.tensors.debug fun i => p.isHeld (.tensor i)) := rfl

/-- Ways in which two sessions may differ. -/
structure Likeness (d : Driver) where
  /-- How two environments may differ. -/
  Rel : Env d.State → Env d.State → Prop
  /-- How two states of a manager may differ. -/
  Kin : Pool d → Manager d → Manager d → Prop
  /-- How two answers may differ. -/
  Same : Reply d → Reply d → Prop
  kin : ∀ {p m m'}, Kin p m m' → m.Kin m'
  grows : ∀ {p q m m'}, Kin p m m' → p.Grows q → Kin q m m'
  enroll : ∀ {p m m' r}, Kin p m m' → (p.slot? r).isSome → Kin p (m.enroll r) (m'.enroll r)
  refl : ∀ r, Same r r
  destroy : ∀ {p m m'}, Kin p m m' → ∀ q, Kin (m.destroy p).2 (m.destroy p).1 (m'.destroy q).1
  counts : ∀ {p m m'}, Kin p m m' → Same (.counts m.trackedCounts) (.counts m'.trackedCounts)
  managerState : ∀ {p q m m'}, Kin p m m' → p.Related Rel q →
    Same (.managerState m (m.debug p)) (.managerState m' (m'.debug q))

namespace Session

/-! ## Tables -/

section

variable {α : Type} {R : α → α → Prop} {l l' : List (String × α)} {a a' : α} {n : String}

/-- The same names, in the same order, and under each of them related values. -/
def Entries (R : α → α → Prop) (l l' : List (String × α)) : Prop :=
  List.Forall₂ (fun x y => x.1 = y.1 ∧ R x.2 y.2) l l'

namespace Entries

theorem lookup_rel (h : Entries R l l') (n : String) : Option.Rel R (l.lookup n) (l'.lookup n) := by
  induction h with
  | nil => exact .none
  | @cons x y l l' hxy _ ih =>
    obtain ⟨k, a⟩ := x
    obtain ⟨k', b⟩ := y
    obtain ⟨rfl, hR⟩ : k = k' ∧ R a b := hxy
    rw [List.lookup_cons, List.lookup_cons]
    cases n == k with
    | true => exact .some hR
    | false => exact ih

theorem of_without (h : Entries R l l') (n : String) :
    Entries R (Session.without n l) (Session.without n l') :=
  List.rel_filter (fun x y hxy => by dsimp only; rw [hxy.1]) h

theorem of_store (h : Entries R l l') (n : String) (ha : R a a') :
    Entries R (Session.store n a l) (Session.store n a' l') :=
  List.rel_append (h.of_without n) (.cons ⟨rfl, ha⟩ .nil)

theorem of_update (h : Entries R l l') (n : String) (ha : R a a') :
    Entries R (Session.update n a l) (Session.update n a' l') := by
  refine List.rel_map (fun x y hxy => ?_) h
  rw [hxy.1]
  split
  · exact ⟨rfl, ha⟩
  · exact hxy

/-- A value is replaced by another one that has the same relations. -/
theorem update_left (h : Entries R l l') (nodup : (namesOf l).Nodup) (hl : l.lookup n = some a)
    (ha : ∀ b, R a b → R a' b) : Entries R (Session.update n a' l) l' := by
  have found : ∀ x ∈ l, x.1 = n → x.2 = a := by
    rintro ⟨k, b⟩ hx rfl
    exact Option.some.inj ((lookup_of_mem nodup hx).symm.trans hl)
  refine List.forall₂_map_left_iff.2 ?_
  refine ((List.forall₂_and_left l l').2 ⟨found, h⟩).imp ?_
  rintro x y ⟨hx, hxy⟩
  split
  · next heq => exact ⟨heq ▸ hxy.1, ha _ (hx heq ▸ hxy.2)⟩
  · exact hxy

theorem symm {S : α → α → Prop} (h : Entries R l l') (hS : ∀ a b, R a b → S b a) : Entries S l' l :=
  List.Forall₂.flip (h.imp fun _ _ hxy => ⟨hxy.1.symm, hS _ _ hxy.2⟩)

theorem mono {S : α → α → Prop} (h : Entries R l l') (hS : ∀ a b, R a b → S a b) : Entries S l l' :=
  h.imp fun _ _ hxy => ⟨hxy.1, hS _ _ hxy.2⟩

theorem map_fst_eq (h : Entries R l l') : l'.map (·.1) = l.map (·.1) := by
  induction h with
  | nil => rfl
  | cons hxy _ ih => rw [List.map_cons, List.map_cons, ih, hxy.1]

end Entries

end

end Session

namespace Likeness

open Session

/-! ## Sessions -/

variable {L : Likeness d} {s t : Session d} {name : String}

/-- Two sessions that differ at most in these ways. -/
inductive Agree (L : Likeness d) (s : Session d) : Session d → Prop
  | intro {q : Pool d} {l : List (String × Manager d)} (pool : s.pool.Related L.Rel q)
    (managers : Entries (L.Kin s.pool) s.managers l) :
    Agree L s { s with pool := q, managers := l }

namespace Agree

theorem pool (h : L.Agree s t) : s.pool.Related L.Rel t.pool := by
  obtain ⟨pool, -⟩ := h
  exact pool

theorem managers (h : L.Agree s t) : Entries (L.Kin s.pool) s.managers t.managers := by
  obtain ⟨-, managers⟩ := h
  exact managers

theorem symm (h : L.Agree s t) (rel : ∀ {e e'}, L.Rel e e' → L.Rel e' e)
    (symm : ∀ {p m m'}, L.Kin p m m' → L.Kin p m' m) : L.Agree t s := by
  obtain @⟨q, l, pool, managers⟩ := h
  exact .intro (s := { s with pool := q, managers := l }) (pool.symm rel)
    (managers.symm fun _ _ kin => L.grows (symm kin) (.of_eq pool.slot?))

/-- There are managers under the same names. -/
theorem lookup (h : L.Agree s t) (n : String) :
    (s.managers.lookup n = none ∧ t.managers.lookup n = none) ∨
      ∃ m m', s.managers.lookup n = some m ∧ t.managers.lookup n = some m' ∧ L.Kin s.pool m m' := by
  have found := h.managers.lookup_rel n
  generalize s.managers.lookup n = x, t.managers.lookup n = y at found
  cases found with
  | none => exact .inl ⟨rfl, rfl⟩
  | some kin => exact .inr ⟨_, _, rfl, rfl, kin⟩

/-- What becomes of two pools that agree, and of the tables of managers. -/
theorem withPool (h : L.Agree s t) {p q : Pool d} (pool : p.Related L.Rel q)
    {l l' : List (String × Manager d)} (managers : Entries (L.Kin p) l l') :
    L.Agree { s with pool := p, managers := l } { t with pool := q, managers := l' } := by
  obtain ⟨-, -⟩ := h
  exact .intro (s := { s with pool := p, managers := l }) pool managers

theorem setPool (h : L.Agree s t) {p q : Pool d} (pool : p.Related L.Rel q)
    (grows : s.pool.Grows p) : L.Agree { s with pool := p } { t with pool := q } :=
  h.withPool pool (h.managers.mono fun _ _ kin => L.grows kin grows)

theorem withEnv (h : L.Agree s t) {e e' : Env d.State} (env : L.Rel e e') :
    L.Agree (s.withEnv e) (t.withEnv e') :=
  h.setPool (h.pool.setEnv env) (.of_eq rfl)

theorem onEnv (h : L.Agree s t) {f : Env d.State → Env d.State} (hf : Env.Respects L.Rel f) :
    L.Agree (s.onEnv f) (t.onEnv f) := h.withEnv (hf _ _ h.pool.env)

theorem setManager (h : L.Agree s t) (n : String) {m m' : Manager d} (kin : L.Kin s.pool m m') :
    L.Agree (s.setManager n m) (t.setManager n m') := h.withPool h.pool (h.managers.of_update n kin)

end Agree

/-! ## Operations -/

/-- An operation ends alike in two sessions. -/
def Matches (L : Likeness d) (s t : Session d) (x y : Attempt (Session d) (Reply d)) : Prop :=
  Ends L.Agree L.Same (x s) (y t)

section

variable {α : Type}

theorem matches_unknown (h : L.Agree s t) (r : Reply d) :
    L.Matches s t (pure r) (pure r) := .ok (L.refl r) h

theorem matches_withManager (h : L.Agree s t) {act : Manager d → Attempt (Session d) (Reply d)}
    (hact : ∀ m m', s.managers.lookup name = some m → t.managers.lookup name = some m' →
      L.Kin s.pool m m' → L.Matches s t (act m) (act m')) :
    L.Matches s t (withManager name act) (withManager name act) := by
  unfold Matches withManager
  rw [Attempt.get_bind, Attempt.get_bind]
  rcases h.lookup name with ⟨hs, ht⟩ | ⟨m, m', hs, ht, kin⟩ <;> rw [hs, ht]
  · exact matches_unknown h _
  · exact hact m m' hs ht kin

theorem matches_withTensor (h : L.Agree s t) {act : Nat → Tensor d → Attempt (Session d) (Reply d)}
    (hact : ∀ i x, s.pool.tensors[i]? = some x → L.Matches s t (act i x) (act i x)) :
    L.Matches s t (withTensor name act) (withTensor name act) := by
  have same : t.tensor? name = s.tensor? name := by
    obtain ⟨⟨-⟩, -⟩ := h
    rfl
  unfold Matches withTensor
  rw [Attempt.get_bind, Attempt.get_bind, same]
  cases hx : s.tensor? name with
  | none => exact matches_unknown h _
  | some x => exact hact _ _ (tensor?_some hx)

theorem matches_withResource (h : L.Agree s t) {act : ResourceId → Attempt (Session d) (Reply d)}
    (hact : ∀ r, L.Matches s t (act r) (act r)) :
    L.Matches s t (withResource name act) (withResource name act) := by
  unfold Matches withResource Pool.find?
  rw [Attempt.get_bind, Attempt.get_bind, h.pool.held_eq]
  cases s.pool.held.lookup name with
  | none => exact matches_unknown h _
  | some r => exact hact r

theorem matches_withInstance (h : L.Agree s t) {act act' : d.Instance → Attempt (Session d) (Reply d)}
    (hact : ∀ i, s.instances.lookup name = some i → L.Matches s t (act i) (act' i)) :
    L.Matches s t (withInstance name act) (withInstance name act') := by
  have same : t.instances = s.instances := by
    obtain ⟨-, -⟩ := h
    rfl
  unfold Matches withInstance
  rw [Attempt.get_bind, Attempt.get_bind, same]
  cases hi : s.instances.lookup name with
  | none => exact matches_unknown h _
  | some i => exact hact i hi

theorem matches_withDevice (h : L.Agree s t) {act act' : d.Device → Attempt (Session d) (Reply d)}
    (hact : ∀ x, s.devices.lookup name = some x → L.Matches s t (act x) (act' x)) :
    L.Matches s t (withDevice name act) (withDevice name act') := by
  have same : t.devices = s.devices := by
    obtain ⟨-, -⟩ := h
    rfl
  unfold Matches withDevice
  rw [Attempt.get_bind, Attempt.get_bind, same]
  cases hx : s.devices.lookup name with
  | none => exact matches_unknown h _
  | some x => exact hact x hx

/-- An attempt on the pool, and what is done with its answer. -/
theorem matches_runPool_bind {Q : α → α → Prop} {x y : Attempt (Pool d) α}
    {f g : α → Attempt (Session d) (Reply d)}
    (ends : Ends (Pool.Related L.Rel) Q (x s.pool) (y t.pool))
    (ok : ∀ a b p q, x s.pool = .ok a p → y t.pool = .ok b q → Q a b → p.Related L.Rel q →
      L.Matches { s with pool := p } { t with pool := q } (f a) (g b))
    (error : ∀ error p q, x s.pool = .error error p → p.Related L.Rel q →
      L.Agree { s with pool := p } { t with pool := q }) :
    L.Matches s t (runPool x >>= f) (runPool y >>= g) := by
  unfold Matches
  generalize hx : x s.pool = r, hy : y t.pool = r' at ends
  cases ends with
  | ok value pool =>
    rw [Attempt.bind_of_ok (runPool_ok hx), Attempt.bind_of_ok (runPool_ok hy)]
    exact ok _ _ _ _ hx hy value pool
  | error pool =>
    rw [Attempt.bind_of_error (runPool_error hx), Attempt.bind_of_error (runPool_error hy)]
    exact .error (error _ _ _ hx pool)

theorem ends_run (h : L.Agree s t) {act : Act d.State α} (hact : act.Respects L.Rel) :
    Ends L.Agree Eq (run act s) (run act t) := by
  have ends := hact _ _ h.pool.env
  generalize hs : act s.pool.env = r, ht : act t.pool.env = r' at ends
  cases ends with
  | ok value env =>
    rw [run_ok hs, run_ok ht]
    exact .ok value (h.withEnv env)
  | error env =>
    rw [run_error hs, run_error ht]
    exact .error (h.withEnv env)

/-- An action of the driver, and what is done with its answer. -/
theorem matches_run_bind (h : L.Agree s t) {act : Act d.State α} (hact : act.Respects L.Rel)
    {f g : α → Attempt (Session d) (Reply d)}
    (ok : ∀ a e e', act s.pool.env = .ok a e → L.Rel e e' →
      L.Matches (s.withEnv e) (t.withEnv e') (f a) (g a)) :
    L.Matches s t (run act >>= f) (run act >>= g) := by
  refine matches_runPool_bind (Pool.alike_run hact _ _ h.pool) (fun a b p q made made' same pool => ?_)
    fun _ p q failed pool => ?_
  · obtain ⟨e, answered, rfl⟩ := Attempt.within_eq_ok.1 made
    obtain ⟨e', -, rfl⟩ := Attempt.within_eq_ok.1 made'
    subst same
    exact ok a e e' answered pool.env
  · obtain ⟨e, -, rfl⟩ := Attempt.within_eq_error.1 failed
    exact h.setPool pool (.of_eq rfl)

end

/-! ### Managers -/

/-- When the managers under a name are taken down, what they track is destroyed alike. -/
def Clears (L : Likeness d) (n : String) (s t : Session d) : Prop :=
  ∀ m m', s.managers.lookup n = some m → t.managers.lookup n = some m' → L.Kin s.pool m m' →
    (cleared m s.pool).Related L.Rel (cleared m' t.pool)

section

variable (hd : d.Respects L.Rel)
include hd

theorem Agree.storeManager (h : L.Agree s t) {n : String} (clears : L.Clears n s t) {m m' : Manager d}
    (kin : L.Kin s.pool m m') : L.Agree (storeManager n m s) (storeManager n m' t) := by
  have stored := h.managers.of_store n kin
  unfold Session.storeManager
  rcases h.lookup n with ⟨hs, ht⟩ | ⟨_, _, hs, ht, old⟩ <;> rw [hs, ht]
  · exact h.withPool h.pool stored
  · exact (h.withPool h.pool stored).setPool
      (Manager.related_drop hd h.pool (L.kin old) (clears _ _ hs ht old)) (Manager.grows_drop _ _)

theorem Agree.dropManager (h : L.Agree s t) {n : String} (clears : L.Clears n s t) :
    L.Agree (dropManager n s) (dropManager n t) := by
  have rest := h.managers.of_without n
  unfold Session.dropManager
  rcases h.lookup n with ⟨hs, ht⟩ | ⟨_, _, hs, ht, old⟩ <;> rw [hs, ht]
  · exact h.withPool h.pool rest
  · exact (h.withPool h.pool rest).setPool
      (Manager.related_drop hd h.pool (L.kin old) (clears _ _ hs ht old)) (Manager.grows_drop _ _)

/-- Both sessions come to their end. -/
theorem Agree.finish (h : L.Agree s t) (I : Session d → Prop) (first : I (s.onPool .dropAll))
    (lasts : ∀ s n, I s → I (s.dropManager n))
    (clears : ∀ s t n, I s → L.Agree s t → L.Clears n s t) : L.Agree s.finish t.finish := by
  have dropped : L.Agree (s.onPool .dropAll) (t.onPool .dropAll) :=
    h.setPool (h.pool.dropAll hd) (.dropAll s.pool)
  unfold Session.finish managerNames
  rw [h.managers.map_fst_eq]
  generalize (s.managers.map (·.1)).mergeSort _ = names
  generalize s.onPool .dropAll = s, t.onPool .dropAll = t at first dropped
  induction names generalizing s t with
  | nil => exact dropped
  | cons name names ih =>
    have next := dropped.dropManager hd (clears s t name first dropped)
    exact ih _ _ (lasts s name first) next

/-- New managers are stored. -/
theorem matches_addManager (h : L.Agree s t) {make make' : Act d.State (Manager d)}
    (ends : Ends L.Rel (fun m m' => ∀ p, L.Kin p m m') (make s.pool.env)
      (make' t.pool.env))
    (clears : ∀ m e e', make s.pool.env = .ok m e → L.Agree (s.withEnv e) (t.withEnv e') →
      L.Clears name (s.withEnv e) (t.withEnv e')) :
    L.Matches s t (addManager name make) (addManager name make') := by
  unfold Matches addManager
  generalize hs : make s.pool.env = r, ht : make' t.pool.env = r' at ends
  cases ends with
  | error env =>
    rw [Attempt.bind_of_error (run_error hs), Attempt.bind_of_error (run_error ht)]
    exact .error (h.withEnv env)
  | @ok m m' e e' kin env =>
    rw [Attempt.bind_of_ok (run_ok hs), Attempt.bind_of_ok (run_ok ht), Attempt.modify_bind,
      Attempt.modify_bind]
    have agree := h.withEnv env
    have stored := agree.storeManager hd (clears m e e' hs agree) (kin _)
    obtain ⟨manages, s', a', t'⟩ := L.kin (kin s.pool)
    exact .ok (L.refl _) stored

/-- A manager is torn down. -/
theorem matches_destroyManager (h : L.Agree s t) {n : String} (clears : L.Clears n s t) :
    L.Matches s t (step (.destroyManager n)) (step (.destroyManager n)) := by
  refine matches_withManager h fun m m' hs ht kin => ?_
  have destroyed := Manager.related_destroy hd h.pool (L.kin kin) (clears m m' hs ht kin)
  have next := h.setPool destroyed (Manager.grows_destroy m s.pool)
  exact .ok (L.counts (L.destroy kin t.pool)) (next.setManager n (L.destroy kin t.pool))

theorem matches_dropManager (h : L.Agree s t) {n : String} (clears : L.Clears n s t) :
    L.Matches s t (step (.dropManager n)) (step (.dropManager n)) :=
  matches_withManager h fun _ _ _ _ _ => .ok (L.refl _) (h.dropManager hd clears)

end

/-! ### Resources -/

section

variable (hd : d.Respects L.Rel)
include hd

/-- A manager makes a resource, which a name holds. -/
theorem matches_addResource (h : L.Agree s t) {n : String} {identify : Nat → ResourceId}
    {tensors : List Nat} {make : Manager d → Attempt (Pool d) (Nat × Manager d)}
    (making : Manager.Making L.Rel identify make)
    (produces : ∀ m, Produces m identify tensors (make m)) :
    L.Matches s t (addResource n name identify make) (addResource n name identify make) := by
  refine matches_withManager h fun m m' _ _ kin =>
    matches_runPool_bind (making (L.kin kin) _ _ h.pool) ?_ fun _ _ _ failed pool =>
      h.setPool pool ((produces m).grows_of_error failed)
  rintro ⟨i, m₁⟩ ⟨j, m₁'⟩ p q made - ⟨number, left, right⟩ pool
  obtain rfl : j = i := number
  obtain rfl : m₁ = m.enroll (identify j) := left
  obtain rfl : m₁' = m'.enroll (identify j) := right
  obtain ⟨device, order, -, -, ⟨e₁, x, e₂, -, -, -, adds⟩, -⟩ := (produces m).ok made
  have grows : s.pool.Grows p := .of_adds adds
  have enrolled := (h.setPool pool grows).setManager n
    (L.enroll (L.grows kin grows) (Option.isSome_of_eq_some adds.slot))
  exact .ok (L.refl _) (enrolled.setPool (pool.hold hd name (identify j)) (.of_hold _ _ _))

theorem matches_addAlgorithm (h : L.Agree s t) {n : String} {names : List String}
    {make : List Nat → Manager d → Attempt (Pool d) (Nat × Manager d)}
    (making : ∀ numbers, Manager.Making L.Rel .algorithm (make numbers))
    (produces : ∀ numbers m, Produces m .algorithm numbers (make numbers m)) :
    L.Matches s t (addAlgorithm n name names make) (addAlgorithm n name names make) := by
  have same : t.tensorNumbers names = s.tensorNumbers names := by
    obtain ⟨⟨-⟩, -⟩ := h
    induction names with
    | nil => rfl
    | cons name names ih =>
      unfold tensorNumbers
      rw [ih]
      rfl
  unfold Matches addAlgorithm
  rw [Attempt.get_bind, Attempt.get_bind, same]
  cases s.tensorNumbers names with
  | error tensor => exact matches_unknown h _
  | ok numbers => exact matches_addResource hd h (making numbers) (produces numbers)

end

/-- What is done to a pool that leaves slots as they are or empties them. -/
theorem matches_onPool (h : L.Agree s t) {f : Pool d → Pool d} (pool : (f s.pool).Related L.Rel (f t.pool))
    (grows : s.pool.Grows (f s.pool)) {r : Session d → Reply d}
    (same : ∀ {s t : Session d}, L.Agree s t → r t = r s) :
    L.Matches s t (do modify (onPool f); return r (← get)) (do modify (onPool f); return r (← get)) := by
  have agree : L.Agree (s.onPool f) (t.onPool f) := h.setPool pool grows
  unfold Matches
  rw [Attempt.modify_bind, Attempt.modify_bind, Attempt.get_bind, Attempt.get_bind, same agree]
  exact .ok (L.refl _) agree

/-- A tensor is edited. -/
theorem Agree.setTensor (h : L.Agree s t) {i : Nat} {x x' : Tensor d}
    (hx : s.pool.tensors[i]? = some x) (buffer : x'.buffer = x.buffer) :
    L.Agree (s.setTensor i x') (t.setTensor i x') := by
  refine h.setPool ?_ (.of_eq (Pool.slot?_set hx buffer))
  obtain ⟨⟨env⟩, -⟩ := h
  exact .intro (p := { s.pool with tensors := s.pool.tensors.set i x' }) env

/-! ### Calls of the driver -/

/-- Something is put into a table of what the caller keeps. -/
theorem Agree.of_commutes (h : L.Agree s t) {f : Session d → Session d}
    (hf : ∀ s q l, f { s with pool := q, managers := l } = { f s with pool := q, managers := l }) :
    L.Agree (f s) (f t) := by
  have apart := hf s s.pool s.managers
  have pool : (f s).pool = s.pool := congrArg (·.pool) apart
  have managers : (f s).managers = s.managers := congrArg (·.managers) apart
  obtain @⟨q, l, agree, kin⟩ := h
  rw [hf s q l]
  rw [← pool] at agree kin
  rw [← managers] at kin
  exact .intro agree kin

theorem matches_takeObject {α : Type} (h : L.Agree s t) {entries : Session d → List (String × α)}
    {setEntries : List (String × α) → Session d → Session d} {consume : α → Env d.State → Env d.State}
    (hentries : ∀ s q l, entries { s with pool := q, managers := l } = entries s)
    (hset : ∀ l' s q l, setEntries l' { s with pool := q, managers := l } =
      { setEntries l' s with pool := q, managers := l })
    (hconsume : ∀ a, Env.Respects L.Rel (consume a)) :
    L.Matches s t (takeObject name entries setEntries consume)
      (takeObject name entries setEntries consume) := by
  have same : entries t = entries s := by
    obtain ⟨-, -⟩ := h
    exact hentries ..
  unfold Matches takeObject
  rw [Attempt.get_bind, Attempt.get_bind, same]
  cases (entries s).lookup name with
  | none => exact matches_unknown h _
  | some a => exact .ok (L.refl _) ((h.of_commutes (hset _)).onEnv (hconsume a))

/-- Something is made for the caller, who keeps it. -/
theorem matches_addObject {α : Type} (h : L.Agree s t) {make : Act d.State α}
    (hact : make.Respects L.Rel) {put : α → Session d → Session d}
    (hput : ∀ a s q l, put a { s with pool := q, managers := l } =
      { put a s with pool := q, managers := l }) :
    L.Matches s t (addObject make put) (addObject make put) :=
  matches_run_bind h hact fun a _ _ _ env => .ok (L.refl _) ((h.withEnv env).of_commutes (hput a))

section

variable (hd : d.Respects L.Rel)
include hd

theorem matches_probe (h : L.Agree s t) (device : d.Device) :
    L.Matches s t (probe device) (probe device) := by
  unfold Matches probe
  rw [Attempt.get_bind, Attempt.get_bind, hd.isAlive device _ _ h.pool.env]
  exact matches_unknown h _

theorem matches_call (h : L.Agree s t) (c : DriverCall) : L.Matches s t (call c) (call c) := by
  cases c with
  | createInstance name what =>
    exact matches_addObject h (hd.createInstance what) fun _ _ _ _ => rfl
  | createDevice name inst adapter what =>
    exact matches_withInstance h fun i _ =>
      matches_addObject h (hd.createDevice i adapter what) fun _ _ _ _ => rfl
  | destroyInstance inst =>
    exact matches_withInstance h fun i _ => .ok (L.refl _) (h.onEnv (hd.destroyInstance i))
  | releaseDevice device =>
    exact matches_withDevice h fun x _ => matches_probe hd (h.onEnv (hd.releaseDevice x)) x
  | destroyDevice device =>
    exact matches_withDevice h fun x _ => matches_probe hd (h.onEnv (hd.destroyDevice x)) x
  | probeDevice device => exact matches_withDevice h fun x _ => matches_probe hd h x
  | survey inst adapter =>
    exact matches_withInstance h fun i _ => matches_run_bind h (respects_survey hd i adapter)
      fun _ _ _ _ env => matches_unknown (h.withEnv env) _
  | registerCallbacks name inst =>
    exact matches_withInstance h fun i _ =>
      matches_addObject h (hd.registerCallbacks i) fun _ _ _ _ => rfl
  | unregisterCallbacks inst name =>
    exact matches_withInstance h fun i _ =>
      matches_takeObject h (fun _ _ _ => rfl) (fun _ _ _ _ => rfl) (hd.unregisterCallbacks i)
  | createBuffer name device size usage =>
    exact matches_withDevice h fun x _ =>
      matches_addObject h (hd.createBuffer x size usage) fun _ _ _ _ => rfl
  | destroyBuffer device name =>
    exact matches_withDevice h fun x _ =>
      matches_takeObject h (fun _ _ _ => rfl) (fun _ _ _ _ => rfl) (hd.destroyBuffer x)
  | createPipeline name device what =>
    refine matches_withDevice h fun x _ => ?_
    have same : t.looseBindings what.bindings = s.looseBindings what.bindings := by
      obtain ⟨-, -⟩ := h
      induction what.bindings with
      | nil => rfl
      | cons b bs ih =>
        unfold looseBindings
        rw [ih]
    unfold Matches
    rw [Attempt.get_bind, Attempt.get_bind, same]
    cases s.looseBindings what.bindings with
    | error buffer => exact matches_unknown h _
    | ok bindings =>
      exact matches_addObject h (hd.createPipeline x _) fun _ _ _ _ => rfl
  | destroyPipeline device name =>
    exact matches_withDevice h fun x _ =>
      matches_takeObject h (fun _ _ _ => rfl) (fun _ _ _ _ => rfl) (hd.destroyPipeline x)
  | createBatch name device family timestamps =>
    exact matches_withDevice h fun x _ =>
      matches_addObject h (hd.createBatch x family timestamps) fun _ _ _ _ => rfl
  | destroyBatch device name =>
    exact matches_withDevice h fun x _ =>
      matches_takeObject h (fun _ _ _ => rfl) (fun _ _ _ _ => rfl) (hd.destroyBatch x)

/-! ### Steps -/

/-- Whether an operation neither makes a manager nor clears one or takes one down. -/
def ordinary : Operation → Bool
  | .createManager .. | .borrow .. | .clear _ | .destroyManager _ | .dropManager _ => false
  | _ => true

/-- **Ordinary operations end alike in sessions that are alike.** -/
theorem matches_ordinary (h : L.Agree s t) {o : Operation} (ho : ordinary o) :
    L.Matches s t (step o) (step o) := by
  cases o with
  | createManager | borrow | clear | destroyManager | dropManager => cases ho
  | keepHandles n name =>
    refine matches_withManager h fun m m' _ _ kin => ?_
    obtain ⟨manages, a, b, c⟩ := L.kin kin
    exact .ok (L.refl _) (h.of_commutes (f := fun s => { s with
      instances := m.inst.elim s.instances fun o => store name o.handle s.instances
      devices := m.device.elim s.devices fun o => store name o.handle s.devices }) fun _ _ _ => rfl)
  | describeManager n =>
    exact matches_withManager h fun _ _ _ _ kin => .ok (L.managerState kin h.pool) h
  | properties n =>
    refine matches_withManager h fun m m' _ _ kin => ?_
    obtain ⟨manages, a, b, c⟩ := L.kin kin
    have respects : m.properties.Respects L.Rel :=
      (Alike.ofExcept _).bind_same fun i => hd.properties i m.adapter
    exact matches_run_bind h respects fun _ _ _ _ env => matches_unknown (h.withEnv env) _
  | adapters n =>
    refine matches_withManager h fun m m' _ _ kin => ?_
    obtain ⟨manages, a, b, c⟩ := L.kin kin
    have respects : m.adapters.Respects L.Rel := (Alike.ofExcept _).bind_same hd.adapters
    exact matches_run_bind h respects fun _ _ _ _ env => matches_unknown (h.withEnv env) _
  | counts n => exact matches_withManager h fun _ _ _ _ kin => .ok (L.counts kin) h
  | tensor n name data =>
    exact matches_addResource hd h (Manager.making_tensorOfBytes hd _ _ _ _)
      fun m => produces_tensorOfBytes m _ _ _ _
  | tensorOfBytes n name bytes count size type =>
    exact matches_addResource hd h (Manager.making_tensorOfBytes hd bytes count size type)
      fun m => produces_tensorOfBytes m bytes count size type
  | algorithm n name tensors code =>
    exact matches_addAlgorithm hd h (fun numbers => Manager.making_algorithm hd numbers code)
      fun numbers m => produces_algorithm m numbers code
  | algorithmWith n name tensors code workgroup pushConstants =>
    exact matches_addAlgorithm hd h
      (fun numbers => Manager.making_algorithmWith hd numbers code workgroup pushConstants)
      fun numbers m => produces_algorithmWith m numbers code workgroup pushConstants
  | sequence n name queue timestamps =>
    exact matches_addResource hd h (Manager.making_sequence hd queue timestamps)
      fun m => produces_sequence m queue timestamps
  | readElements name type =>
    refine matches_withTensor h fun _ x _ => ?_
    cases x.elements type with
    | ok words => exact .ok (L.refl _) h
    | error error => exact .error h
  | writeElements name data =>
    refine matches_withTensor h fun i x hx => ?_
    cases hx' : x.setElements data with
    | ok x' => exact .ok (L.refl _) (h.setTensor hx (buffer_setElements hx'))
    | error error => exact .error h
  | readBytes name => exact matches_withTensor h fun _ _ _ => matches_unknown h _
  | setDescriptorType name type =>
    exact matches_withTensor h fun i x hx => .ok (L.refl _) (h.setTensor hx rfl)
  | holdBound name algorithm position =>
    have same : t.boundTensor? algorithm position = s.boundTensor? algorithm position := by
      obtain ⟨⟨-⟩, -⟩ := h
      rfl
    unfold Matches
    dsimp only [step]
    rw [Attempt.get_bind, Attempt.get_bind, same]
    cases s.boundTensor? algorithm position with
    | none => exact matches_unknown h _
    | some i =>
      exact matches_onPool h (h.pool.hold hd name _) (.of_hold _ _ _) (r := fun _ => .created) fun _ => rfl
  | describe name =>
    refine matches_withResource h fun r => ?_
    have same : t.describe? r = s.describe? r := by
      obtain ⟨⟨-⟩, -⟩ := h
      cases r <;> rfl
    unfold Matches
    rw [Attempt.get_bind, Attempt.get_bind, same]
    exact matches_unknown h _
  | destroy name =>
    refine matches_withResource h fun r => ?_
    exact matches_onPool h (h.pool.destroy hd r) (.of_empties (Pool.empties_destroy r _))
      (r := fun s => .isInit (s.pool.isInit r)) fun agree => by rw [agree.pool.isInit]
  | share name holder =>
    exact matches_withResource h fun r =>
      matches_onPool h (h.pool.hold hd name r) (.of_hold _ _ _) (r := fun _ => .created) fun _ => rfl
  | drop name =>
    exact matches_withResource h fun _ =>
      matches_onPool h (h.pool.drop hd name) (.of_drop _ _) (r := fun _ => .dropped) fun _ => rfl
  | call c => exact matches_call hd h c

end

end Likeness

end GpuCompute
