import GpuCompute.Proofs.Keeping
import Mathlib.Data.List.Induction

/-!
# Owners of handles

For every run, whichever managers are set up in it and in whichever way: a handle that was made for a
manager is ended at most once, and as soon as no manager owns it, it has been ended exactly once, by an
operation on the manager for which it was made. Managers that borrow end nothing (`Interface.owned`). The
caller of a session may end handles, too, by calls of its own. These were not made for managers, unless the
caller has kept the handles of one.
-/

namespace GpuCompute

open Session

variable {d : Driver}

/-- Managers are under different names and have their parts together. -/
structure Session.Regular (s : Session d) : Prop where
  named : s.Named
  orderly : s.AllManagers Manager.Orderly
  paired : s.AllManagers Manager.Paired

/-! ## Runs -/

/-- A way to operate sessions. -/
structure Interface (d : Driver) where
  Operation : Type
  /-- The session after an operation. -/
  after : Operation → Session d → Session d
  /-- The manager that an operation sets up or is addressed to. -/
  manager? : Operation → Option String
  /-- The manager that an operation makes with an instance and a device of its own. -/
  creates? : Operation → Option String
  /-- The manager that an operation tears down or drops. -/
  tears? : Operation → Option String
  /-- Whether the caller calls the driver by itself. -/
  isCall : Operation → Bool
  /-- Whether the caller keeps the handles of a manager. -/
  keeps : Operation → Bool

/-- The name of the manager that an operation tears down or drops. -/
def Session.tears? : Operation → Option String
  | .destroyManager n | .dropManager n => some n
  | _ => none

/-- Whether an operation is a call of the driver by the caller itself. -/
def Session.isCall : Operation → Bool
  | .call _ => true
  | _ => false

/-- The operations of every session. -/
def Session.interface (d : Driver) : Interface d where
  Operation := Operation
  after o s := (step o).after s
  manager? := manager?
  creates? := creates?
  tears? := tears?
  isCall := isCall
  keeps := keeps

namespace Interface

variable (I : Interface d) (L : Ledger d)

/-- The session after operations. -/
def run (os : List I.Operation) (s : Session d) : Session d := os.foldl (fun s o => I.after o s) s

/-- The handles that an operation makes, unless the caller does so by itself. -/
def madeBy (o : I.Operation) (s : Session d) : List L.Thing :=
  if I.isCall o then [] else L.made s.pool.env (I.after o s).pool.env

/-- The handles that an operation ends, unless the caller does so by itself. -/
def endedBy (o : I.Operation) (s : Session d) : List L.Thing :=
  if I.isCall o then [] else L.ended s.pool.env (I.after o s).pool.env

/-- The handles that are made for managers in a run. -/
def made : List I.Operation → Session d → List L.Thing
  | [], _ => []
  | o :: os, s => I.madeBy L o s ++ made os (I.after o s)

/-- The handles that managers end in a run. -/
def ended : List I.Operation → Session d → List L.Thing
  | [], _ => []
  | o :: os, s => I.endedBy L o s ++ ended os (I.after o s)

/-- A handle was made when the manager under a name was, and this manager has owned it ever since. -/
def MadeFor (s : Session d) (os : List I.Operation) (n : String) (t : L.Thing) : Prop :=
  ∃ before o after, os = before ++ o :: after ∧ I.creates? o = some n ∧
    t ∈ I.madeBy L o (I.run before s) ∧
    ∀ l, l <+: after → Owns L (I.run (before ++ o :: l) s) n t

/-- What a run that starts in a session has to show for the handles of its managers. -/
structure Owned (s : Session d) (os : List I.Operation) : Prop where
  /-- No handle is made twice, -/
  made_once : (I.made L os s).Nodup
  /-- none is ended twice, -/
  ended_once : (I.ended L os s).Nodup
  /-- and only those are ended that were made for managers. -/
  ended_made : I.ended L os s ⊆ I.made L os s
  /-- A handle has been ended as soon as no manager owns it, and not before. -/
  settled : ∀ t ∈ I.made L os s, t ∈ I.ended L os s ↔ ∀ n, ¬ Owns L (I.run os s) n t
  /-- A manager that borrows owns nothing, nor does one that was torn down. -/
  nothing : ∀ n m, (I.run os s).managers.lookup n = some m → m.Borrower ∨ m.isDestroyed →
    L.estate m = []
  /-- To tear a manager down, or to drop it, is to end all that it owns. -/
  teardown : ∀ before o after n t, os = before ++ o :: after → I.tears? o = some n →
    Owns L (I.run before s) n t → t ∈ I.endedBy L o (I.run before s)
  /-- Whichever operation it is by which a manager ceases to own a handle, it ends the handle. -/
  cessation : ∀ before o after n t, os = before ++ o :: after → Owns L (I.run before s) n t →
    ¬ Owns L (I.run (before ++ [o]) s) n t →
    I.manager? o = some n ∧ t ∈ I.endedBy L o (I.run before s)
  /-- An operation ends what it has made itself, or it is addressed to the manager that owns the handle
  since this was made for it. -/
  creator : ∀ before o after t, os = before ++ o :: after → t ∈ I.endedBy L o (I.run before s) →
    t ∈ I.madeBy L o (I.run before s) ∨
      ∃ n, I.manager? o = some n ∧ I.MadeFor L s before n t
  /-- What is addressed to a manager that borrows or was torn down ends nothing, unless it makes a
  manager in its place and ends what it has made itself. -/
  borrower : ∀ before o after n m t, os = before ++ o :: after → I.manager? o = some n →
    (I.run before s).managers.lookup n = some m → m.Borrower ∨ m.isDestroyed →
    t ∈ I.endedBy L o (I.run before s) →
    I.creates? o = some n ∧ t ∈ I.madeBy L o (I.run before s)
  /-- What the caller ends by a call of its own was not made for a manager, unless the caller kept handles
  of managers before. -/
  caller : ∀ before o after t, os = before ++ o :: after → I.isCall o = true →
    t ∈ L.ended (I.run before s).pool.env (I.run (before ++ [o]) s).pool.env → t ∈ I.made L os s →
    ∃ o' ∈ before, I.keeps o' = true
  /-- In the end everything has been ended. -/
  finished : (I.ended L os s ++ L.ended (I.run os s).pool.env (I.run os s).finish.pool.env).Perm
    (I.made L os s)

/-! ## Laws -/

/-- What is used of a way to operate sessions. -/
structure Lawful {L : Ledger d} (C : L.Complete) : Prop where
  regular : ∀ {s} o, s.Regular → (I.after o s).Regular
  issues : ∀ {s} o, s.Regular → C.Issues s.pool.env (I.after o s).pool.env
  call : ∀ {s} o, I.isCall o = true → (I.after o s).managers = s.managers
  balanced : ∀ {s} o, s.Regular → I.isCall o = false →
    Balanced L (I.manager? o) (I.creates? o) s (I.after o s)
  creates : ∀ o n, I.creates? o = some n → I.manager? o = some n
  tears : ∀ {s} o n, s.Regular → I.tears? o = some n → holding L (I.after o s) n = []
  minds : ∀ {s} o, I.isCall o = true → Minds L s (I.after o s)
  sameHandles : ∀ {s} o, I.isCall o = false → I.keeps o = false → SameHandles L s (I.after o s)

/-! ## Conservation -/

variable {I L} {C : L.Complete} {s : Session d} {o : I.Operation} {os : List I.Operation} {n : String}
  {t : L.Thing}

theorem run_concat (os : List I.Operation) (o : I.Operation) (s : Session d) :
    I.run (os ++ [o]) s = I.after o (I.run os s) := by
  rw [run, List.foldl_append]
  rfl

namespace Lawful

variable (h : I.Lawful C)
include h

theorem regular_run (hs : s.Regular) (os : List I.Operation) : (I.run os s).Regular := by
  induction os generalizing s with
  | nil => exact hs
  | cons o os ih => exact ih (h.regular o hs)

/-- How handles pass in any operation. Nothing passes in a call of the caller. -/
theorem conveys (hs : s.Regular) (o : I.Operation) :
    Conveys L (I.manager? o) (I.madeBy L o s) (I.endedBy L o s) s (I.after o s) := by
  unfold madeBy endedBy
  cases hc : I.isCall o with
  | true => exact .keeps (congrArg (mapped _) (h.call o hc)) .nil
  | false => exact (h.balanced o hs hc).conveys

theorem madeBy_eq_nil (hs : s.Regular) (hc : I.creates? o = none) : I.madeBy L o s = [] := by
  unfold madeBy
  cases hcall : I.isCall o with
  | true => rfl
  | false => exact (h.balanced o hs hcall).made hc

/-- **Handles are conserved in every run.** -/
theorem conserves (hs : s.Regular) (os : List I.Operation) :
    (I.ended L os s ++ estates L (I.run os s)).Perm (I.made L os s ++ estates L s) := by
  induction os generalizing s with
  | nil => exact .refl _
  | cons o os ih =>
    have first := (h.conveys hs o).conserves hs.named.managers (h.regular o hs).named.managers
    have rest := ih (h.regular o hs)
    change (I.endedBy L o s ++ I.ended L os (I.after o s) ++ estates L (I.run os (I.after o s))).Perm
      (I.madeBy L o s ++ I.made L os (I.after o s) ++ estates L s)
    rw [List.append_assoc, List.append_assoc]
    refine (rest.append_left _).trans ?_
    refine (List.perm_append_comm_assoc _ _ _).trans ?_
    exact (first.append_left _).trans (List.perm_append_comm_assoc _ _ _)

/-! ## Nothing is made twice -/

theorem numbers_madeBy (hs : s.Regular) (o : I.Operation) : (I.madeBy L o s).Nodup ∧
    ∀ t ∈ I.madeBy L o s, C.next s.pool.env.driver ≤ C.number t ∧
      C.number t < C.next (I.after o s).pool.env.driver := by
  unfold madeBy
  split
  · simp
  · exact (h.issues o hs).nodup_made

theorem issues_run (hs : s.Regular) (os : List I.Operation) :
    C.Issues s.pool.env (I.run os s).pool.env := by
  induction os generalizing s with
  | nil => exact .refl _ _
  | cons o os ih => exact (h.issues o hs).trans (ih (h.regular o hs))

theorem numbers_made (hs : s.Regular) (os : List I.Operation) : (I.made L os s).Nodup ∧
    ∀ t ∈ I.made L os s, C.next s.pool.env.driver ≤ C.number t ∧
      C.number t < C.next (I.run os s).pool.env.driver := by
  induction os generalizing s with
  | nil => simp [made]
  | cons o os ih =>
    obtain ⟨nodup, range⟩ := h.numbers_madeBy hs o
    obtain ⟨rest, later⟩ := ih (h.regular o hs)
    refine ⟨List.nodup_append.2 ⟨nodup, rest, ?_⟩, fun t ht => ?_⟩
    · rintro t ht _ ht' rfl
      exact Nat.lt_irrefl _ (Nat.lt_of_lt_of_le (range t ht).2 (later t ht').1)
    · rcases List.mem_append.1 ht with ht | ht
      · have ascends := (h.issues_run (h.regular o hs) os).1
        exact ⟨(range t ht).1, Nat.lt_of_lt_of_le (range t ht).2 ascends⟩
      · exact ⟨Nat.le_trans (h.issues o hs).1 (later t ht).1, (later t ht).2⟩

end Lawful

/-! ## Owners -/

theorem mem_estates (hs : s.Named) : t ∈ estates L s ↔ ∃ n, Owns L s n t := by
  have names : (namesOf (holdings L s)).Nodup := (namesOf_mapped _ _).symm ▸ hs.managers
  simp only [estates, List.mem_flatMap, owns_iff, holding]
  constructor
  · rintro ⟨⟨n, l⟩, hx, ht⟩
    exact ⟨n, by rw [lookup_of_mem names hx]; exact ht⟩
  · rintro ⟨n, ht⟩
    cases hl : (holdings L s).lookup n with
    | none => simp [hl] at ht
    | some l =>
      rw [hl] at ht
      exact ⟨(n, l), mem_of_lookup hl, ht⟩

/-- A manager that owns a handle after an operation owned it before, or it was made for the manager. -/
theorem owns_before {s' : Session d} {born gone : List L.Thing} {target : Option String}
    (h : Conveys L target born gone s s') (owns : Owns L s' n t) :
    Owns L s n t ∨ (target = some n ∧ t ∈ born) := by
  rw [owns_iff] at owns ⊢
  cases h with
  | keeps same => exact .inl (by rwa [holding, same] at owns)
  | @turns n' ht others _ entered =>
    by_cases hn : n = n'
    · subst hn
      exact .inr ⟨ht, entered.mem_iff.2 owns⟩
    · exact .inl (by rwa [holding_congr hn others] at owns)

/-- What a manager owned before an operation and does not own after it was ended. -/
theorem ended_of_owns {s' : Session d} {born gone : List L.Thing} {target : Option String}
    (h : Conveys L target born gone s s') (owns : Owns L s n t) (ceases : ¬ Owns L s' n t) :
    target = some n ∧ t ∈ gone := by
  rw [owns_iff] at owns ceases
  cases h with
  | keeps same => exact absurd owns (by rwa [holding, same] at ceases)
  | @turns n' ht others left =>
    by_cases hn : n = n'
    · subst hn
      exact ⟨ht, left ▸ owns⟩
    · exact absurd owns (by rwa [holding_congr hn others] at ceases)

/-- What an operation ends it has made itself, or a manager owned it. -/
theorem owns_of_ended {s' : Session d} {born gone : List L.Thing} {target : Option String}
    (h : Conveys L target born gone s s') (ends : t ∈ gone) :
    t ∈ born ∨ ∃ n, target = some n ∧ Owns L s n t := by
  cases h with
  | keeps _ undone => exact .inl (undone.mem_iff.1 ends)
  | turns ht _ left => exact .inr ⟨_, ht, owns_iff.2 (left ▸ ends)⟩

/-- **What a manager owns was made for it.** -/
theorem Lawful.madeFor (h : I.Lawful C) (hs : s.Regular) (start : s.managers = [])
    (os : List I.Operation) (owns : Owns L (I.run os s) n t) : I.MadeFor L s os n t := by
  induction os using List.reverseRecOn with
  | nil =>
    obtain ⟨m, hm, -⟩ := owns
    rw [run, List.foldl_nil, start] at hm
    cases hm
  | append_singleton os o ih =>
    have conveys := h.conveys (h.regular_run hs os) o
    rw [run_concat] at owns
    obtain before | ⟨target, made⟩ := owns_before conveys owns
    · obtain ⟨first, o', later, rfl, creates, made, since⟩ := ih before
      refine ⟨first, o', later ++ [o], by simp, creates, made, fun l hl => ?_⟩
      rcases List.prefix_concat_iff.1 hl with rfl | hl
      · rw [← List.cons_append, ← List.append_assoc, run_concat]
        exact owns
      · exact since l hl
    · have creates : I.creates? o = some n := by
        cases hc : I.creates? o with
        | none =>
          rw [h.madeBy_eq_nil (h.regular_run hs os) hc] at made
          cases made
        | some n' => rw [← target, h.creates o n' hc]
      refine ⟨os, o, [], rfl, creates, made, fun l hl => ?_⟩
      rw [List.prefix_nil.1 hl, run_concat]
      exact owns

/-! ## The caller -/

theorem made_append (os os' : List I.Operation) (s : Session d) :
    I.made L (os ++ os') s = I.made L os s ++ I.made L os' (I.run os s) := by
  induction os generalizing s with
  | nil => rfl
  | cons o os ih =>
    change I.madeBy L o s ++ I.made L (os ++ os') (I.after o s) = _
    rw [ih, ← List.append_assoc]
    rfl

theorem made_concat (os : List I.Operation) (o : I.Operation) (s : Session d) :
    I.made L (os ++ [o]) s = I.made L os s ++ I.madeBy L o (I.run os s) := by
  rw [made_append, made, made, List.append_nil]

/-- A thing was there, and it was not made for a manager. -/
structure Lawful.Apart (_ : I.Lawful C) (os : List I.Operation) (s : Session d) (t : L.Thing) :
    Prop where
  old : C.number t < C.next (I.run os s).pool.env.driver
  apart : t ∉ I.made L os s

namespace Lawful

variable (h : I.Lawful C)
include h

/-- What was there and was not made for a manager never is. -/
theorem not_made (hs : s.Regular) (apart : h.Apart os s t) (later : List I.Operation) :
    t ∉ I.made L (os ++ later) s := by
  intro made
  rw [made_append] at made
  rcases List.mem_append.1 made with made | made
  · exact apart.apart made
  · have new := ((h.numbers_made (h.regular_run hs os) later).2 t made).1
    exact Nat.lt_irrefl _ (Nat.lt_of_lt_of_le apart.old new)

/-- It stays so after any operation. -/
theorem Apart.concat (hs : s.Regular) (apart : h.Apart os s t) (o : I.Operation) :
    h.Apart (os ++ [o]) s t := by
  refine ⟨?_, h.not_made hs apart [o]⟩
  rw [run_concat]
  exact Nat.lt_of_lt_of_le apart.old (h.issues o (h.regular_run hs os)).1

/-- What the caller has or makes by a call of its own is not made for a manager. -/
theorem apart_call (hs : s.Regular) (ho : I.isCall o = true)
    (has : ∀ t ∈ handles L (I.run os s), h.Apart os s t)
    (ht : t ∈ handles L (I.run os s) ∨
      t ∈ L.made (I.run os s).pool.env (I.after o (I.run os s)).pool.env) :
    h.Apart (os ++ [o]) s t := by
  obtain before | fresh := ht
  · exact .concat h hs (has t before) o
  have none : I.madeBy L o (I.run os s) = [] := if_pos ho
  obtain ⟨new, old⟩ := (h.issues o (h.regular_run hs os)).nodup_made.2 t fresh
  refine ⟨by rwa [run_concat], fun earlier => ?_⟩
  rw [made_concat, none, List.append_nil] at earlier
  have before := ((h.numbers_made hs os).2 t earlier).2
  exact Nat.lt_irrefl _ (Nat.lt_of_lt_of_le before new)

/-- **The caller has no handles that were made for managers**, as long as it keeps none of these. -/
theorem apart_handles (hs : s.Regular) (none : handles L s = []) {os : List I.Operation}
    (keeps : ∀ o ∈ os, I.keeps o = false) : ∀ t ∈ handles L (I.run os s), h.Apart os s t := by
  induction os using List.reverseRecOn with
  | nil =>
    intro t ht
    rw [run, List.foldl_nil, none] at ht
    cases ht
  | append_singleton os o ih =>
    have has := ih fun o' ho' => keeps o' (List.mem_append_left _ ho')
    intro t ht
    rw [run_concat] at ht
    cases ho : I.isCall o with
    | true => exact h.apart_call hs ho has ((h.minds o ho).has t ht)
    | false =>
      rw [h.sameHandles o ho (keeps o (by simp))] at ht
      exact .concat h hs (has t ht) o

end Lawful

end Interface

/-! ## The end of a session -/

namespace Session

variable {L : Ledger d} {C : L.Complete} {s : Session d}

theorem deals_dropAll (C : L.Complete) (p : Pool d) : L.Deals [] [] p.env p.dropAll.env := by
  unfold Pool.dropAll
  generalize p.names = names
  induction names generalizing p with
  | nil => exact .of_driver rfl
  | cons name names ih =>
    obtain ⟨q, destroys, env⟩ := destroys_drop name p
    have dropped : L.Deals [] [] p.env (p.drop name).env := env ▸ Ledger.deals_destroys C destroys
    exact dropped.then_ (ih (p.drop name))

theorem AllManagers.dropManager {I : Manager d → Prop} (all : s.AllManagers I) (n : String) :
    (dropManager n s).AllManagers I := by
  intro name m found
  rw [managers_dropManager] at found
  by_cases hn : name = n
  · rw [hn, lookup_without_self] at found
    cases found
  · exact all name m ((lookup_without_of_ne hn _).symm.trans found)

/-- Managers are dropped one after the other. -/
theorem deals_dropManagers (C : L.Complete) (nodup : (namesOf s.managers).Nodup)
    (orderly : s.AllManagers Manager.Orderly) (names : List String) :
    ∃ gone, L.Deals [] gone s.pool.env (names.foldl (fun s n => dropManager n s) s).pool.env ∧
      (gone ++ estates L (names.foldl (fun s n => dropManager n s) s)).Perm (estates L s) ∧
      (names.foldl (fun s n => dropManager n s) s).managers =
        s.managers.filter fun x => x.1 ∉ names := by
  induction names generalizing s with
  | nil => exact ⟨[], .of_driver rfl, .refl _, by simp⟩
  | cons n names ih =>
    have managers := managers_dropManager n s
    have nodup' : (namesOf (dropManager n s).managers).Nodup := managers ▸ nodup_without n nodup
    obtain ⟨gone, deals, conserved, rest⟩ := ih nodup' (orderly.dropManager n)
    have dropped := deals_dropManager C orderly n
    have balanced : Balanced L (some n) none s (dropManager n s) := balanced_dropManager C orderly n
    have first := balanced.conveys.conserves nodup nodup'
    rw [dropped.made, dropped.ended, List.nil_append] at first
    refine ⟨_, dropped.trans deals, ?_, ?_⟩
    · rw [List.append_assoc]
      exact (conserved.append_left _).trans first
    · rw [List.foldl_cons, rest, managers, without, List.filter_filter]
      refine List.filter_congr fun x _ => ?_
      rw [Bool.eq_iff_iff]
      simp [and_comm]

/-- **At the end of a session all that managers own is ended**, each handle once. -/
theorem ended_finish (C : L.Complete) (nodup : (namesOf s.managers).Nodup)
    (orderly : s.AllManagers Manager.Orderly) :
    (L.ended s.pool.env s.finish.pool.env).Perm (estates L s) := by
  obtain ⟨gone, deals, conserved, managers⟩ :=
    deals_dropManagers C (s := s.onPool .dropAll) nodup orderly s.managerNames
  have none : (s.managers.filter fun x => x.1 ∉ s.managerNames) = [] := by
    refine List.filter_eq_nil_iff.2 fun x hx => ?_
    simp [managerNames, List.mem_map_of_mem hx]
  have all : L.Deals [] gone s.pool.env s.finish.pool.env := (deals_dropAll C s.pool).after_ deals
  have empty : estates L s.finish = [] := by
    rw [estates, holdings, finish, managers]
    change (mapped _ (s.managers.filter _)).flatMap _ = []
    rw [none]
    rfl
  have conserved : (gone ++ estates L s.finish).Perm (estates L s) := conserved
  rw [all.ended]
  rwa [empty, List.append_nil] at conserved

end Session

/-! ## Ownership -/

namespace Interface

variable {I : Interface d} {L : Ledger d} {C : L.Complete} {s : Session d}

/-- **Every run is in order with the handles of its managers.** -/
theorem owned (h : I.Lawful C) (hs : s.Regular) (start : s.managers = []) (none : handles L s = [])
    (os : List I.Operation) : I.Owned L s os := by
  have regular (before : List I.Operation) : (I.run before s).Regular := h.regular_run hs before
  have conserves : (I.ended L os s ++ estates L (I.run os s)).Perm (I.made L os s) := by
    have none : estates L s = [] := by
      rw [estates, holdings, start]
      rfl
    have conserves := h.conserves hs os
    rwa [none, List.append_nil] at conserves
  have once := (h.numbers_made hs os).1
  have both := List.nodup_append.1 (conserves.nodup_iff.2 once)
  have idle {before : List I.Operation} {n : String} {m : Manager d}
      (hm : (I.run before s).managers.lookup n = some m) (hidle : m.Borrower ∨ m.isDestroyed) :
      L.estate m = [] := by
    have orderly := (regular before).orderly n m hm
    obtain borrower | destroyed := hidle
    · exact Ledger.estate_of_borrower orderly ((regular before).paired n m hm) borrower
    · exact Ledger.estate_of_bare (orderly.bare (Option.isNone_iff_eq_none.1 destroyed))
  refine ⟨once, both.1, ?made, ?settled, fun n m => idle, ?teardown, ?cessation, ?creator, ?borrower,
    ?caller, ?finished⟩
  case made => exact fun t ht => conserves.mem_iff.1 (List.mem_append_left _ ht)
  case settled =>
    intro t ht
    rw [← not_exists, ← mem_estates (regular os).named]
    constructor
    · exact fun ended owned => both.2.2 t ended t owned rfl
    · exact fun lost => (List.mem_append.1 (conserves.mem_iff.2 ht)).resolve_right lost
  case cessation =>
    rintro before o after n t rfl owns ceases
    rw [run_concat] at ceases
    exact ended_of_owns (h.conveys (regular before) o) owns ceases
  case teardown =>
    rintro before o after n t rfl tears owns
    refine (ended_of_owns (h.conveys (regular before) o) owns ?_).2
    rw [owns_iff, h.tears o n (regular before) tears]
    exact List.not_mem_nil
  case creator =>
    rintro before o after t rfl ended
    obtain made | ⟨n, target, owns⟩ := owns_of_ended (h.conveys (regular before) o) ended
    · exact .inl made
    · exact .inr ⟨n, target, h.madeFor hs start before owns⟩
  case borrower =>
    rintro before o after n m t rfl target hm hidle ended
    obtain made | ⟨n', target', m', hm', owns⟩ :=
      owns_of_ended (h.conveys (regular before) o) ended
    · refine ⟨?_, made⟩
      cases hc : I.creates? o with
      | none =>
        rw [h.madeBy_eq_nil (regular before) hc] at made
        cases made
      | some n' => rw [← target, h.creates o n' hc]
    · cases target.symm.trans target'
      cases hm.symm.trans hm'
      rw [idle hm hidle] at owns
      cases owns
  case caller =>
    rintro before o after t rfl ho ended made
    by_contra keeps
    have keeps : ∀ o ∈ before, I.keeps o = false := by simpa using keeps
    have has := h.apart_handles hs none keeps
    rw [run_concat] at ended
    have apart := h.apart_call hs ho has ((h.minds o ho).ends t ended)
    refine h.not_made hs apart after ?_
    rwa [List.append_assoc]
  case finished =>
    have ended := ended_finish C (regular os).named.managers (regular os).orderly
    exact (ended.append_left _).trans conserves

end Interface

/-! ## The operations of every session -/

namespace Session

variable {L : Ledger d} {s : Session d}

theorem regular_start (driver : d.State) : (start driver).Regular :=
  ⟨named_start driver, .start _ driver, .start _ driver⟩

theorem regular_step (hs : s.Regular) (o : Operation) : ((step o).after s).Regular where
  named := named_step hs.named o
  orderly := hs.orderly.step Manager.lasts_orderly o
  paired := hs.paired.step Manager.lasts_paired o

/-- What is made in an attempt to make a manager has numbers of its own, and so it has with the manager in
its place. -/
theorem issues_addManager (C : L.Complete) (hs : s.Named) (n : String)
    {make : Act d.State (Manager d)} (h : Attempt.Leaves C.Issues make) :
    C.Issues s.pool.env ((addManager n make).after s).pool.env := by
  rw [after_addManager]
  cases made : make s.pool.env with
  | error error e => exact h.of_error made
  | ok m e =>
    have named : (s.withEnv e).Named := ⟨hs.managers, hs.held⟩
    exact (h.of_ok made).trans (C.issues (driven_storeManager named n m))

/-- A manager that was torn down or dropped owns nothing. -/
theorem holding_of_tears (hs : s.Regular) {o : Operation} {n : String} (ho : tears? o = some n) :
    holding L ((step o).after s) n = [] := by
  cases o with
  | destroyManager =>
    cases ho
    unfold step
    rw [after_withManager]
    cases hm : s.managers.lookup n with
    | none => exact holding_of_none hm
    | some m => exact holding_destroyManager (hs.orderly n m hm) hm
  | dropManager =>
    cases ho
    unfold step
    rw [after_withManager]
    cases hm : s.managers.lookup n with
    | none => exact holding_of_none hm
    | some m =>
      refine holding_of_none ?_
      change (dropManager n s).managers.lookup n = none
      rw [managers_dropManager, lookup_without_self]
  | _ => cases ho

theorem lawful (C : L.Complete) : (interface d).Lawful C where
  regular o hs := regular_step hs o
  issues o hs := Ledger.Complete.issues (driven_step hs.named o)
  call {s} o ho := by
    cases o with
    | call c => exact (untouched_call c s).managers
    | _ => cases ho
  balanced o hs ho := balanced_step C hs.named hs.orderly fun c hc => by
    subst hc
    cases ho
  creates o n ho := by
    cases o <;> first | exact ho | cases ho
  tears o n hs ho := holding_of_tears hs ho
  minds {s} o ho := by
    cases o with
    | call c => exact minds_call C c s
    | _ => cases ho
  sameHandles {s} o ho hk := handles_step (fun c hc => by subst hc; cases ho) hk s

end Session

end GpuCompute
