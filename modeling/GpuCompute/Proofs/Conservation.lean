import GpuCompute.Proofs.Estates

/-!
# Handles are conserved

Whatever a session is asked to do, the handles that were made for managers are those that were ended
again and those that managers own. One operation either leaves what managers own as it is, and what it
makes it ends again; or it is addressed to one manager, ends what this owned, and what it makes the
manager owns afterwards (`Session.Conveys`). For a run it follows that each handle is ended at most once,
at the latest when the manager goes for which it was made, and by an operation on this manager
(`Interface.owned`).
-/

namespace GpuCompute

open Driver

variable {d : Driver}

namespace Session

variable (L : Ledger d) {s s' : Session d} {o : Operation} {n name : String} {m : Manager d}
  {born gone : List L.Thing} {target creates : Option String}

/-! ## What managers own -/

/-- A manager owns a handle. -/
def Owns (s : Session d) (n : String) (t : L.Thing) : Prop :=
  ∃ m, s.managers.lookup n = some m ∧ t ∈ L.estate m

/-- The managers by name, with what they own. -/
def holdings (s : Session d) : List (String × List L.Thing) := mapped L.estate s.managers

/-- What the manager under a name owns. -/
def holding (s : Session d) (n : String) : List L.Thing := ((holdings L s).lookup n).elim [] id

/-- What managers own. -/
def estates (s : Session d) : List L.Thing := (holdings L s).flatMap (·.2)

variable {L}

theorem holding_of_lookup (h : s.managers.lookup n = some m) : holding L s n = L.estate m := by
  rw [holding, holdings, lookup_mapped, h]
  rfl

theorem holding_of_none (h : s.managers.lookup n = none) : holding L s n = [] := by
  rw [holding, holdings, lookup_mapped, h]
  rfl

theorem owns_iff {t : L.Thing} : Owns L s n t ↔ t ∈ holding L s n := by
  cases h : s.managers.lookup n with
  | none => simp [Owns, h, holding_of_none h]
  | some m => simp [Owns, h, holding_of_lookup h]

theorem holding_congr {l : List (String × List L.Thing)} (hn : name ≠ n)
    (h : without n (holdings L s') = without n l) :
    holding L s' name = (l.lookup name).elim [] id := by
  rw [holding, ← lookup_without_of_ne hn, h, lookup_without_of_ne hn]

/-! ## Operations -/

/-- The name of the manager that an operation makes with an instance and a device of its own. -/
def creates? : Operation → Option String
  | .createManager n .. => some n
  | _ => none

/-- How handles pass when `born` are made and `gone` are ended by an operation that is addressed to the
manager `target`. -/
inductive Conveys (L : Ledger d) (target : Option String) (born gone : List L.Thing)
    (s s' : Session d) : Prop
  /-- Managers own what they owned before. What was made was ended again. -/
  | keeps (same : holdings L s' = holdings L s) (undone : gone.Perm born)
  /-- What one manager owned was ended. What was made is what is owned under its name now. -/
  | turns {n : String} (ht : target = some n)
    (others : without n (holdings L s') = without n (holdings L s)) (left : gone = holding L s n)
    (entered : born.Perm (holding L s' n))

/-- Handles are conserved. -/
theorem Conveys.conserves (h : Conveys L target born gone s s') (hs : (namesOf s.managers).Nodup)
    (hs' : (namesOf s'.managers).Nodup) :
    (gone ++ estates L s').Perm (born ++ estates L s) := by
  cases h with
  | keeps same undone =>
    rw [estates, estates, same]
    exact undone.append_right _
  | @turns n _ others left entered =>
    have before := flatMap_perm (l := holdings L s) ((namesOf_mapped _ _).symm ▸ hs) id n
    have now := flatMap_perm (l := holdings L s') ((namesOf_mapped _ _).symm ▸ hs') id n
    rw [others] at now
    rw [left]
    calc holding L s n ++ estates L s'
      _ |>.Perm (holding L s n ++ (holding L s' n ++ _)) := now.append_left _
      _ |>.Perm (holding L s' n ++ (holding L s n ++ _)) := List.perm_append_comm_assoc _ _ _
      _ |>.Perm (born ++ estates L s) := entered.symm.append before.symm

/-- What an operation does about handles: those that it makes and ends pass as they should, and it makes
some only if it makes a manager. -/
structure Balanced (L : Ledger d) (target creates : Option String) (s s' : Session d) : Prop where
  grows : L.trace s.pool.env.driver <+: L.trace s'.pool.env.driver
  conveys : Conveys L target (L.made s.pool.env s'.pool.env) (L.ended s.pool.env s'.pool.env) s s'
  made : creates = none → L.made s.pool.env s'.pool.env = []

theorem balanced_of_deals (deals : L.Deals born gone s.pool.env s'.pool.env)
    (conveys : Conveys L target born gone s s') (made : creates = none → born = []) :
    Balanced L target creates s s' := by
  obtain ⟨grows, rfl, rfl⟩ := deals
  exact ⟨grows, conveys, made⟩

/-- An operation that has nothing to do with handles. -/
theorem balanced_of_same (deals : L.Deals [] [] s.pool.env s'.pool.env)
    (same : holdings L s' = holdings L s) : Balanced L target creates s s' :=
  balanced_of_deals deals (.keeps same .nil) fun _ => rfl

theorem balanced_refl (s : Session d) : Balanced L target creates s s :=
  balanced_of_same (.of_driver rfl) rfl

/-- A manager in another state that owns what it owned. -/
theorem holdings_setManager (hs : s.Named) (hm : s.managers.lookup n = some m) {m' : Manager d}
    (like : m.Like m') (p : Pool d) :
    holdings L ({ s with pool := p }.setManager n m') = holdings L s := by
  have found : (holdings L s).lookup n = some (L.estate m') := by
    rw [holdings, lookup_mapped, hm, Ledger.estate_like like]
    rfl
  have names : (namesOf (holdings L s)).Nodup := (namesOf_mapped _ _).symm ▸ hs.managers
  change mapped L.estate (update n m' s.managers) = _
  rw [← update_mapped]
  exact update_self names found

/-- A manager that was torn down owns nothing. -/
theorem holding_destroyManager (orderly : m.Orderly) (hm : s.managers.lookup n = some m) :
    holding L ({ s with pool := (m.destroy s.pool).2 }.setManager n (m.destroy s.pool).1) n = [] := by
  have closed : ({ s with pool := (m.destroy s.pool).2 }.setManager n
      (m.destroy s.pool).1).managers.lookup n = some (m.destroy s.pool).1 := lookup_update_self hm _
  rw [holding_of_lookup closed, Ledger.estate_of_bare (orderly.bare_destroy s.pool)]

variable (C : L.Complete)
include C

theorem deals_hold (name : String) (r : ResourceId) (p : Pool d) :
    L.Deals [] [] p.env (p.hold name r).env := by
  obtain ⟨q, destroys, env⟩ := destroys_hold name r p
  rw [env]
  exact Ledger.deals_destroys C destroys

theorem balanced_addResource (hs : s.Named) {identify : Nat → ResourceId} {tensors : List Nat}
    {make : Manager d → Attempt (Pool d) (Nat × Manager d)}
    (produces : ∀ m, Produces m identify tensors (make m)) :
    Balanced L target creates s ((addResource n name identify make).after s) := by
  rw [after_addResource]
  cases hm : s.managers.lookup n with
  | none => exact balanced_refl s
  | some m =>
    dsimp only
    cases h : make m s.pool with
    | ok made p =>
      obtain ⟨i, m'⟩ := made
      obtain ⟨device, order, -, -, makes, registers, -⟩ := (produces m).ok h
      refine balanced_of_same ?_ (holdings_setManager hs hm registers.like _)
      exact (Ledger.deals_makes C makes).then_ (deals_hold C name (identify i) p)
    | error error p =>
      refine balanced_of_same ?_ rfl
      obtain ⟨e, asked, rfl⟩ | ⟨device, order, -, -, refuses⟩ := (produces m).error h
      · exact .of_asked asked
      · exact Ledger.deals_refuses C refuses

theorem deals_dropManager (orderly : s.AllManagers Manager.Orderly) (n : String) :
    L.Deals [] (holding L s n) s.pool.env (dropManager n s).pool.env := by
  unfold dropManager
  cases hm : s.managers.lookup n with
  | none =>
    rw [holding_of_none hm]
    exact .of_driver rfl
  | some old =>
    rw [holding_of_lookup hm]
    exact Ledger.deals_drop C (orderly n old hm) s.pool

/-- The manager that had a name is dropped when another one takes it. -/
theorem deals_storeManager (orderly : s.AllManagers Manager.Orderly) (n : String) (m : Manager d) :
    L.Deals [] (holding L s n) s.pool.env (storeManager n m s).pool.env := by
  have same : (storeManager n m s).pool = (dropManager n s).pool := by
    unfold storeManager dropManager
    cases s.managers.lookup n <;> rfl
  rw [same]
  exact deals_dropManager C orderly n

/-- A manager is made, and the one that had its name is dropped; or none can be made. -/
theorem balanced_addManager (orderly : s.AllManagers Manager.Orderly)
    {make : Act d.State (Manager d)} (yields : L.Yields make)
    (made : creates = none → ∀ e, L.made e (make.after e) = []) :
    Balanced L (some n) creates s ((addManager n make).after s) := by
  rw [after_addManager]
  cases h : make s.pool.env with
  | error error e =>
    obtain ⟨born, gone, deals, undone⟩ := yields.error h
    refine balanced_of_deals deals (.keeps rfl undone) fun hc => ?_
    rw [← deals.made]
    exact Attempt.after_of_error h ▸ made hc s.pool.env
  | ok m e =>
    obtain ⟨deals, entered⟩ := yields.ok h
    dsimp only
    have managers : (storeManager n m (s.withEnv e)).managers = store n m s.managers :=
      managers_storeManager n m (s.withEnv e)
    have new : holding L (storeManager n m (s.withEnv e)) n = L.estate m :=
      holding_of_lookup (by rw [managers, lookup_store_self])
    have others : without n (holdings L (storeManager n m (s.withEnv e))) =
        without n (holdings L s) := by
      rw [holdings, holdings, without_mapped, managers, without_store, without_mapped]
    have dropped : L.Deals [] (holding L s n) e (storeManager n m (s.withEnv e)).pool.env :=
      deals_storeManager C (s := s.withEnv e) orderly n m
    refine balanced_of_deals (deals.trans dropped) (.turns rfl others rfl ?_) fun hc => ?_
    · rw [new, List.append_nil]
      exact entered
    · rw [List.append_nil]
      exact Attempt.after_of_ok h ▸ made hc s.pool.env

theorem balanced_dropManager (orderly : s.AllManagers Manager.Orderly) (n : String) :
    Balanced L (some n) creates s (dropManager n s) := by
  have managers : (dropManager n s).managers = without n s.managers := managers_dropManager n s
  refine balanced_of_deals (deals_dropManager C orderly n) (.turns rfl ?_ rfl ?_) fun _ => rfl
  · rw [holdings, holdings, without_mapped, managers, without_without, without_mapped]
  · rw [holding_of_none (managers ▸ lookup_without_self n _)]

/-- **What an operation does about handles**, unless the caller calls the driver by itself. -/
theorem balanced_step (named : s.Named) (orderly : s.AllManagers Manager.Orderly)
    (hc : ∀ c, o ≠ .call c) :
    Balanced L (manager? o) (creates? o) s ((step o).after s) := by
  have effect := effect_step o s
  generalize (step o).after s = s' at effect ⊢
  cases effect with
  | aside h asked => exact balanced_of_same (.of_asked (asked hc)) (congrArg (mapped _) h.managers)
  | handles h =>
    obtain ⟨q, destroys, env⟩ := h.exists_destroys
    refine balanced_of_same ?_ rfl
    rw [env]
    exact Ledger.deals_destroys C destroys
  | makes _ _ produces => exact balanced_addResource C named produces
  | creates n config selection =>
    exact balanced_addManager C orderly (Ledger.yields_create config selection) nofun
  | borrows =>
    exact balanced_addManager C orderly Ledger.lends_borrow.to_yields
      fun _ => Ledger.lends_borrow.made_eq_nil
  | clears hm =>
    obtain same | ⟨m', record, same, like, -⟩ := clear_cases _ s.pool <;> rw [same]
    · exact balanced_of_same (.of_driver rfl) (holdings_setManager named hm (.refl _) _)
    · exact balanced_of_same (.of_driver rfl) (holdings_setManager named hm like _)
  | @closes n m hm =>
    have orderly := orderly n m hm
    refine balanced_of_deals (Ledger.deals_destroy C orderly s.pool)
      (.turns rfl ?_ (holding_of_lookup hm).symm ?_) fun _ => rfl
    · change without n (mapped _ (update n _ s.managers)) = without n (mapped _ s.managers)
      rw [without_mapped, without_update, without_mapped]
    · rw [holding_destroyManager orderly hm]
  | drops n => exact balanced_dropManager C orderly n

end Session

end GpuCompute
