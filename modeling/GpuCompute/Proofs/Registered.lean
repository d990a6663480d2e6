import GpuCompute.Proofs.Handles

/-!
# What a registry reaches

A registry lists resources and keeps none of them alive. When it is asked for them, or destroys them, it
makes a handle of each that is alive and gives it back; that comes to the same as looking at what is alive
beforehand (`Shelf.visit_destroying`, `Shelf.visit_pruning`, `Shelf.upgradeEach_eq`). Since a resource only
ages, what is usable has been so all the time, and pruning has spared its entries (`Shelf.Listed`). Each
call that destroys a resource is in a ledger, and only the first one to a resource takes effect.
-/

namespace GpuCompute.Shelf

variable {s s' s'' : Shelf} {i j : Nat} {l : List Nat} {name : String}

/-! ## Handles for a moment -/

/-- A handle of a resource, if it is alive. -/
def upgrade (i : Nat) (s : Shelf) : Option Shelf := if s.isAlive i then some (s.clone i) else none

/-- Goes through entries: with a handle of each that is alive something is done, after which the handle is
given back. The entries at which the answer was yes are collected. -/
def visit (act : Nat → Shelf → Bool × Shelf) : List Nat → Shelf → List Nat × Shelf
  | [], s => ([], s)
  | i :: l, s =>
    match s.upgrade i with
    | none => visit act l s
    | some s' =>
      let (yes, s'') := act i s'
      let (rest, s''') := visit act l (s''.release i)
      (if yes then i :: rest else rest, s''')

/-- Goes through entries and keeps the handles. -/
def upgradeEach : List Nat → Shelf → List Nat × Shelf
  | [], s => ([], s)
  | i :: l, s =>
    match s.upgrade i with
    | none => upgradeEach l s
    | some s' => ((upgradeEach l s').1.cons i, (upgradeEach l s').2)

/-- Destroys resources one after the other. -/
def destroyEach (l : List Nat) (s : Shelf) : Shelf := l.foldl (fun s i => s.destroyItem i) s

theorem upgrade_of_alive (h : s.isAlive i) : s.upgrade i = some (s.clone i) := if_pos h

theorem upgrade_of_dead (h : s.isAlive i = false) : s.upgrade i = none := if_neg (by simp [h])

/-- Whether a resource is destroyed has nothing to do with its handles. -/
theorem isDestroyed_onItem {f : Item → Item} (hf : ∀ x, (f x).isDestroyed = x.isDestroyed) (i : Nat)
    (s : Shelf) : (s.onItem i f).isDestroyed = s.isDestroyed := by
  funext j
  unfold isDestroyed
  rw [getElem?_onItem]
  cases s.items[j]? with
  | none => rfl
  | some x => by_cases hij : i = j <;> simp [hij, hf]

theorem isAlive_destroyItem (i : Nat) (s : Shelf) : (s.destroyItem i).isAlive = s.isAlive := by
  funext j
  rw [isAlive, handles_destroyItem, isAlive]

/-- Whoever destroys a resource through a handle of its own has only destroyed it. -/
theorem release_destroyItem_clone (i : Nat) (s : Shelf) :
    ((s.clone i).destroyItem i).release i = s.destroyItem i := by
  unfold destroyItem
  have cloned : (s.clone i).items[i]? =
      (s.items[i]?).map fun x => { x with handles := x.handles + 1 } := by
    rw [clone, getElem?_onItem]
    simp
  rw [cloned]
  cases hx : s.items[i]? with
  | none => exact clone_release i s
  | some x =>
    have items : ((s.items.modify i fun x => { x with handles := x.handles + 1 }).modify i
          fun x => { x with isDestroyed := true }).modify i (fun x => { x with handles := x.handles - 1 }) =
        s.items.modify i fun x : Item => { x with isDestroyed := true } := by
      rw [List.modify_modify_eq, List.modify_modify_eq]
      rfl
    simp only [Option.map_some, clone, release, onItem, items]

/-- Where the handle is only looked through, nothing is left of the visit. -/
theorem visit_pruning (l : List Nat) (s : Shelf) :
    visit (fun i s => (!s.isDestroyed i, s)) l s = (l.filter s.isUsable, s) := by
  induction l with
  | nil => rfl
  | cons i l ih =>
    unfold visit
    cases hi : s.isAlive i with
    | false =>
      rw [upgrade_of_dead hi, List.filter_cons_of_neg (by simp [isUsable, hi])]
      exact ih
    | true =>
      have same : (s.clone i).isDestroyed = s.isDestroyed := isDestroyed_onItem (by intro x; rfl) i s
      rw [upgrade_of_alive hi]
      dsimp only
      rw [clone_release, ih, same, List.filter_cons]
      simp [isUsable, hi]

/-- **Destroying through handles of one's own.** Each entry that is alive is reached, in order. -/
theorem visit_destroying (l : List Nat) (s : Shelf) :
    visit (fun i s => (true, s.destroyItem i)) l s =
      (l.filter s.isAlive, s.destroyEach (l.filter s.isAlive)) := by
  induction l generalizing s with
  | nil => rfl
  | cons i l ih =>
    unfold visit
    cases hi : s.isAlive i with
    | false =>
      rw [upgrade_of_dead hi, List.filter_cons_of_neg (by simp [hi])]
      exact ih s
    | true =>
      rw [upgrade_of_alive hi, List.filter_cons_of_pos hi]
      dsimp only
      rw [release_destroyItem_clone, ih, isAlive_destroyItem]
      rfl

theorem upgradeEach_eq (l : List Nat) (s : Shelf) :
    upgradeEach l s = (l.filter s.isAlive, (l.filter s.isAlive).foldl (fun s i => s.clone i) s) := by
  induction l generalizing s with
  | nil => rfl
  | cons i l ih =>
    unfold upgradeEach
    cases hi : s.isAlive i with
    | false =>
      rw [upgrade_of_dead hi, List.filter_cons_of_neg (by simp [hi])]
      exact ih s
    | true =>
      have same : (s.clone i).isAlive = s.isAlive := by
        funext j
        rw [Bool.eq_iff_iff]
        refine ⟨fun hj => ?_, isAlive_clone hi⟩
        rw [isAlive_iff, handles_clone hi, List.count_singleton] at hj
        split at hj
        · next hij => exact beq_iff_eq.1 hij ▸ hi
        · exact isAlive_iff.2 hj
      rw [upgrade_of_alive hi, List.filter_cons_of_pos hi]
      dsimp only
      rw [ih, same]
      rfl

theorem clone_comm (i j : Nat) (s : Shelf) : (s.clone i).clone j = (s.clone j).clone i := by
  by_cases hij : i = j
  · rw [hij]
  · unfold clone onItem
    simp only [List.modify_modify_ne _ _ _ hij]

theorem release_cloneEach (l : List Nat) (i : Nat) (s : Shelf) :
    (l.foldl (fun s j => s.clone j) (s.clone i)).release i = l.foldl (fun s j => s.clone j) s := by
  induction l generalizing s with
  | nil => exact clone_release i s
  | cons j l ih => rw [List.foldl_cons, List.foldl_cons, clone_comm, ih]

/-- Handles that are given back at once leave nothing behind. -/
theorem releaseEach_cloneEach (l : List Nat) (s : Shelf) :
    l.foldl (fun s i => s.release i) (l.foldl (fun s i => s.clone i) s) = s := by
  induction l generalizing s with
  | nil => rfl
  | cons i l ih => rw [List.foldl_cons, List.foldl_cons, release_cloneEach, ih]

/-! ## Growing old -/

/-- A resource may lose handles and be destroyed; without a handle it gets none any more. -/
structure Ages (s s' : Shelf) : Prop where
  items : ∀ (i : Nat) (x : Item), s.items[i]? = some x → ∃ x', s'.items[i]? = some x' ∧
    x'.name = x.name ∧ (x.handles = 0 → x'.handles = 0) ∧ (x.isDestroyed → x'.isDestroyed)

namespace Ages

theorem of_items (h : s'.items = s.items) : Ages s s' := ⟨fun _ x hx => ⟨x, h ▸ hx, rfl, id, id⟩⟩

theorem refl (s : Shelf) : Ages s s := of_items rfl

theorem trans (h : Ages s s') (h' : Ages s' s'') : Ages s s'' := by
  refine ⟨fun i x hx => ?_⟩
  obtain ⟨x', hx', name', dead', destroyed'⟩ := h.items i x hx
  obtain ⟨x'', hx'', name'', dead'', destroyed''⟩ := h'.items i x' hx'
  exact ⟨x'', hx'', name''.trans name', dead'' ∘ dead', destroyed'' ∘ destroyed'⟩

theorem onItem {f : Item → Item} (hf : ∀ x, s.items[i]? = some x → (f x).name = x.name ∧
    (x.handles = 0 → (f x).handles = 0) ∧ (x.isDestroyed → (f x).isDestroyed)) :
    Ages s (s.onItem i f) := by
  refine ⟨fun j x hx => ?_⟩
  rw [getElem?_onItem, hx]
  by_cases hij : i = j
  · subst hij
    exact ⟨_, rfl, by simpa using hf x hx⟩
  · exact ⟨_, rfl, by simp [hij]⟩

theorem clone (hi : s.isAlive i) : Ages s (s.clone i) := by
  refine onItem fun x hx => ⟨rfl, fun dead => ?_, id⟩
  obtain ⟨x', hx', alive⟩ := exists_item hi
  rw [hx] at hx'
  cases hx'
  omega

theorem release (i : Nat) (s : Shelf) : Ages s (s.release i) := by
  refine onItem fun x _ => ⟨rfl, fun dead => ?_, id⟩
  show x.handles - 1 = 0
  omega

theorem destroyItem (i : Nat) (s : Shelf) : Ages s (s.destroyItem i) := by
  unfold Shelf.destroyItem
  split
  · exact refl s
  · exact (onItem (f := fun x => { x with isDestroyed := true }) fun _ _ =>
      ⟨rfl, id, fun _ => rfl⟩).trans (of_items rfl)

theorem releaseFound (o : Option Nat) (h : Ages s s') :
    Ages s (match o with | none => s' | some old => s'.release old) := by
  split
  · exact h
  · next old => exact h.trans (release old s')

theorem letGo (name : String) (s : Shelf) : Ages s (s.letGo name) :=
  releaseFound _ (of_items rfl)

theorem hold (name : String) (i : Nat) (s : Shelf) : Ages s (s.hold name i) :=
  releaseFound _ (of_items rfl)

theorem add (name : String) (s : Shelf) : Ages s (s.add name) := by
  have longer : Ages s { s with items := s.items ++ [({ name := name } : Item)] } := by
    refine ⟨fun i x hx => ⟨x, ?_, rfl, id, id⟩⟩
    rw [List.getElem?_append_left (List.getElem?_eq_some_iff.1 hx).1, hx]
  exact longer.trans (hold name _ _)

theorem destroyEach (l : List Nat) (s : Shelf) : Ages s (s.destroyEach l) := by
  induction l generalizing s with
  | nil => exact refl s
  | cons i l ih => exact (destroyItem i s).trans (ih (s.destroyItem i))

theorem keepAll (hl : ∀ i ∈ l, s.isAlive i) : Ages s (s.keepAll l) := by
  have cloned : Ages s (l.foldl (fun s i => s.clone i) s) := by
    induction l generalizing s with
    | nil => exact refl s
    | cons i l ih =>
      have hi := hl i List.mem_cons_self
      exact (clone hi).trans (ih fun j hj => isAlive_clone hi (hl j (List.mem_cons_of_mem _ hj)))
  have released (l' : List Nat) (s : Shelf) : Ages s (l'.foldl (fun s i => s.release i) s) := by
    induction l' generalizing s with
    | nil => exact refl s
    | cons i l' ih => exact (release i s).trans (ih (s.release i))
  have replaced : Ages s { l.foldl (fun s i => s.clone i) s with kept := l } :=
    cloned.trans (of_items rfl)
  exact replaced.trans (released s.kept _)

theorem step (h : Balanced [] s) (o : Operation) : Ages s (s.step o).2 := by
  cases o with
  | make name => exact add name s
  | create name => exact (add name s).trans (of_items rfl)
  | register name =>
    dsimp only [Shelf.step]
    split <;> exact of_items rfl
  | share name holder =>
    dsimp only [Shelf.step]
    split
    · next i hf => exact (clone (h.isAlive_of_find? hf)).trans (hold name i _)
    · exact refl s
  | adopt name position =>
    dsimp only [Shelf.step]
    split
    · next i hi =>
      have taken : Ages s { s with kept := s.kept.eraseIdx position } := of_items rfl
      exact taken.trans (hold name i _)
    · exact refl s
  | drop name => exact letGo name s
  | destroy name =>
    dsimp only [Shelf.step]
    split
    · next i hf => exact destroyItem i s
    · exact refl s
  | destroyAll => exact (destroyEach s.living s).trans (of_items rfl)
  | prune | alive | size => exact of_items rfl
  | keepAlive => exact keepAll fun i hi => (List.mem_filter.1 hi).2
  | releaseKept => exact keepAll nofun

theorem length_le (h : Ages s s') : s.items.length ≤ s'.items.length := by
  by_contra hlt
  obtain ⟨x', hx', -⟩ := h.items s'.items.length _ (List.getElem?_eq_getElem (Nat.lt_of_not_le hlt))
  simp at hx'

theorem isDestroyed (h : Ages s s') (hi : s.isDestroyed i) : s'.isDestroyed i := by
  unfold Shelf.isDestroyed at hi ⊢
  cases hx : s.items[i]? with
  | none => simp [hx] at hi
  | some x =>
    obtain ⟨x', hx', -, -, destroyed⟩ := h.items i x hx
    simp only [hx, Option.any_some] at hi
    simp [hx', destroyed hi]

/-- What can be used could be used before, if it was there. -/
theorem isUsable (h : Ages s s') (hi : i < s.items.length) (usable : s'.isUsable i) :
    s.isUsable i := by
  have hx := List.getElem?_eq_getElem hi
  obtain ⟨x', hx', -, dead, destroyed⟩ := h.items i _ hx
  simp only [Shelf.isUsable, isAlive, handles, Shelf.isDestroyed, hx, hx', Option.elim_some,
    Option.any_some, Bool.and_eq_true, decide_eq_true_eq, Bool.not_eq_true'] at usable ⊢
  refine ⟨Nat.pos_of_ne_zero fun none => ?_, Bool.eq_false_iff.2 fun gone => ?_⟩
  · have := dead none
    omega
  · rw [destroyed gone] at usable
    exact absurd usable.2 (by simp)

end Ages

theorem length_lt_add (name : String) (s : Shelf) : s.items.length < (s.add name).items.length := by
  have held := (Ages.hold name s.items.length
    { s with items := s.items ++ [({ name := name } : Item)] }).length_le
  simp only [List.length_append, List.length_singleton] at held
  exact held

/-! ## What was registered -/

/-- The resources that were registered since everything was destroyed last, after one operation more. -/
def registeredAfter (o : Operation) (s : Shelf) (l : List Nat) : List Nat :=
  match o with
  | .create _ => l ++ [s.items.length]
  | .register name => l ++ (s.find? name).toList
  | .destroyAll => []
  | _ => l

/-- The resources that were registered since everything was destroyed last, after a run. -/
def registered : List Operation → Shelf → List Nat → List Nat
  | [], _, l => l
  | o :: os, s, l => registered os (s.step o).2 (registeredAfter o s l)

@[simp] theorem books_hold (name : String) (i : Nat) (s : Shelf) :
    (s.hold name i).registry = s.registry ∧ (s.hold name i).notes = s.notes := by
  obtain ⟨items, -, same⟩ := hold_frame s name i
  rw [same]
  exact ⟨rfl, rfl⟩

@[simp] theorem books_letGo (name : String) (s : Shelf) :
    (s.letGo name).registry = s.registry ∧ (s.letGo name).notes = s.notes := by
  obtain ⟨items, -, same⟩ := letGo_frame s name
  rw [same]
  exact ⟨rfl, rfl⟩

@[simp] theorem books_add (name : String) (s : Shelf) :
    (s.add name).registry = s.registry ∧ (s.add name).notes = s.notes := books_hold name _ _

@[simp] theorem books_keepAll (l : List Nat) (s : Shelf) :
    (s.keepAll l).registry = s.registry ∧ (s.keepAll l).notes = s.notes := by
  obtain ⟨items, -, same⟩ := keepAll_frame s l
  rw [same]
  exact ⟨rfl, rfl⟩

@[simp] theorem registry_destroyItem (i : Nat) (s : Shelf) :
    (s.destroyItem i).registry = s.registry := by
  obtain ⟨items, notes, -, same⟩ := destroyItem_frame s i
  rw [same]

theorem entries_step (s : Shelf) (o : Operation) : (s.step o).2.registry.entries =
    match o with
    | .prune => s.registry.entries.filter s.isUsable
    | o => registeredAfter o s s.registry.entries := by
  cases o with
  | register name => cases hf : s.find? name <;> simp [step, registeredAfter, Registry.register, hf]
  | share name holder => cases hf : s.find? holder <;> simp [step, registeredAfter, hf, clone, onItem]
  | adopt name position => cases hf : s.kept[position]? <;> simp [step, registeredAfter, hf]
  | destroy name => cases hf : s.find? name <;> simp [step, registeredAfter, hf]
  | _ => simp [step, registeredAfter, Registry.register, Registry.prune]

/-- What is in the registry of what was registered. -/
structure Listed (s : Shelf) (l : List Nat) : Prop where
  /-- It is there in the order in which it was registered. -/
  sublist : s.registry.entries.Sublist l
  known : ∀ i ∈ l, i < s.items.length
  /-- What is alive and not destroyed is there as often as it was registered. -/
  whole : ∀ i, s.isUsable i → s.registry.entries.count i = l.count i

namespace Listed

theorem count_eq_zero (h : Listed s l) (hi : s.items.length ≤ i) :
    l.count i = 0 ∧ s.registry.entries.count i = 0 := by
  have none : i ∉ l := fun mem => Nat.not_lt.2 hi (h.known i mem)
  exact ⟨List.count_eq_zero.2 none, List.count_eq_zero.2 fun mem => none (h.sublist.subset mem)⟩

theorem step (h : Listed s l) (balanced : Balanced [] s) (o : Operation) :
    Listed (s.step o).2 (registeredAfter o s l) := by
  have ages := Ages.step balanced o
  have entries := entries_step s o
  have old (i : Nat) (usable : (s.step o).2.isUsable i) :
      s.isUsable i ∨ s.items.length ≤ i :=
    (Nat.lt_or_ge i s.items.length).imp_left fun hi => ages.isUsable hi usable
  have whole (i : Nat) (usable : (s.step o).2.isUsable i) :
      s.registry.entries.count i = l.count i := by
    rcases old i usable with usable | new
    · exact h.whole i usable
    · obtain ⟨none, none'⟩ := h.count_eq_zero new
      rw [none, none']
  have known (i : Nat) (hi : i ∈ l) : i < (s.step o).2.items.length :=
    Nat.lt_of_lt_of_le (h.known i hi) ages.length_le
  cases o with
  | create name =>
    refine ⟨?_, fun i hi => ?_, fun i usable => ?_⟩
    · rw [entries]
      exact h.sublist.append (.refl _)
    · rcases List.mem_append.1 hi with hi | hi
      · exact known i hi
      · rw [List.mem_singleton.1 hi]
        exact length_lt_add name s
    · simp only [entries, registeredAfter, List.count_append, whole i usable]
  | register name =>
    refine ⟨?_, fun i hi => ?_, fun i usable => ?_⟩
    · rw [entries]
      exact h.sublist.append (.refl _)
    · rcases List.mem_append.1 hi with hi | hi
      · exact known i hi
      · obtain ⟨x, hx, -⟩ := exists_item (balanced.isAlive_of_find? (Option.mem_toList.1 hi))
        exact Nat.lt_of_lt_of_le (List.getElem?_eq_some_iff.1 hx).1 ages.length_le
    · simp only [entries, registeredAfter, List.count_append, whole i usable]
  | prune =>
    refine ⟨entries ▸ List.filter_sublist.trans h.sublist, known, fun i usable => ?_⟩
    exact (List.count_filter (p := s.isUsable) usable).trans (whole i usable)
  | destroyAll => exact ⟨entries ▸ .refl _, nofun, fun _ _ => rfl⟩
  | _ => exact ⟨entries ▸ h.sublist, known, fun i usable => entries ▸ whole i usable⟩

theorem steps (h : Listed s l) (balanced : Balanced [] s) (os : List Operation) :
    Listed (s.steps os) (registered os s l) := by
  induction os generalizing s l with
  | nil => exact h
  | cons o os ih => exact ih (h.step balanced o) (balanced.step o)

end Listed

/-- Where nothing is pruned, all that was registered is there. -/
theorem entries_steps_of_unpruned {os : List Operation} (h : .prune ∉ os) (s : Shelf) :
    (s.steps os).registry.entries = registered os s s.registry.entries := by
  induction os generalizing s with
  | nil => rfl
  | cons o os ih =>
    rw [List.mem_cons, not_or] at h
    have entries : (s.step o).2.registry.entries = registeredAfter o s s.registry.entries := by
      rw [entries_step]
      split
      · exact absurd rfl h.1
      · rfl
    rw [registered, ← entries]
    exact ih h.2 (s.step o).2

/-! ## Calls that destroy -/

/-- The resources that an operation destroys, in order. -/
def callsOf (o : Operation) (s : Shelf) : List Nat :=
  match o with
  | .destroy name => (s.find? name).toList
  | .destroyAll => s.living
  | _ => []

/-- The calls that destroy resources in order, each with whether it takes effect. -/
def effects : List Nat → Shelf → List (Nat × Bool)
  | [], _ => []
  | i :: l, s => (i, !s.isDestroyed i) :: effects l (s.destroyItem i)

/-- All calls of a run that destroy resources, each with whether it takes effect. -/
def ledger : List Operation → Shelf → List (Nat × Bool)
  | [], _ => []
  | o :: os, s => effects (callsOf o s) s ++ ledger os (s.step o).2

/-- The resources that were destroyed by a call that took effect. -/
def effective (calls : List (Nat × Bool)) : List Nat := (calls.filter (·.2)).map (·.1)

/-- What a resource notes of a call. -/
def note? (s : Shelf) (call : Nat × Bool) : Option String :=
  (s.items[call.1]?).map fun x => (if call.2 then "destroy " else "again ") ++ x.name

theorem isDestroyed_destroyItem (h : i < s.items.length) : (s.destroyItem i).isDestroyed i := by
  have hx := List.getElem?_eq_getElem h
  unfold destroyItem isDestroyed
  rw [hx]
  show ((s.onItem i _).items[i]?).any _ = true
  rw [getElem?_onItem, hx]
  simp

/-- A call that takes effect destroys what was not destroyed before. -/
theorem effective_effects (known : ∀ i ∈ l, i < s.items.length) :
    (effective (effects l s)).Nodup ∧ ∀ i ∈ effective (effects l s),
      s.isDestroyed i = false ∧ (s.destroyEach l).isDestroyed i = true := by
  induction l generalizing s with
  | nil => exact ⟨List.nodup_nil, nofun⟩
  | cons i l ih =>
    have hi := known i List.mem_cons_self
    have ages := Ages.destroyItem i s
    obtain ⟨nodup, rest⟩ := ih (s := s.destroyItem i) fun j hj =>
      Nat.lt_of_lt_of_le (known j (List.mem_cons_of_mem _ hj)) ages.length_le
    have later (j : Nat) (hj : j ∈ effective (effects l (s.destroyItem i))) :
        s.isDestroyed j = false ∧ (s.destroyEach (i :: l)).isDestroyed j = true := by
      obtain ⟨fresh, gone⟩ := rest j hj
      refine ⟨Bool.eq_false_iff.2 fun before => ?_, gone⟩
      rw [ages.isDestroyed before] at fresh
      cases fresh
    have gone := isDestroyed_destroyItem hi
    cases before : s.isDestroyed i with
    | true =>
      have same : effective (effects (i :: l) s) = effective (effects l (s.destroyItem i)) := by
        simp [effective, effects, before]
      rw [same]
      exact ⟨nodup, later⟩
    | false =>
      have more : effective (effects (i :: l) s) = i :: effective (effects l (s.destroyItem i)) := by
        simp [effective, effects, before]
      rw [more]
      refine ⟨List.nodup_cons.2 ⟨fun mem => ?_, nodup⟩, fun j hj => ?_⟩
      · rw [(rest i mem).1] at gone
        cases gone
      · rcases List.mem_cons.1 hj with rfl | hj
        · exact ⟨before, (Ages.destroyEach l (s.destroyItem j)).isDestroyed gone⟩
        · exact later j hj

theorem callsOf_known (balanced : Balanced [] s) (o : Operation) :
    ∀ i ∈ callsOf o s, i < s.items.length := by
  intro i hi
  have alive : s.isAlive i := by
    cases o with
    | destroy name => exact balanced.isAlive_of_find? (Option.mem_toList.1 hi)
    | destroyAll => exact (List.mem_filter.1 hi).2
    | _ => cases hi
  obtain ⟨x, hx, -⟩ := exists_item alive
  exact (List.getElem?_eq_some_iff.1 hx).1

/-- What an operation destroys is destroyed afterwards. -/
theorem items_step (o : Operation) (h : callsOf o s ≠ []) :
    (s.step o).2.items = (s.destroyEach (callsOf o s)).items := by
  cases o with
  | destroy name =>
    cases hf : s.find? name with
    | none => simp [callsOf, hf] at h
    | some i => simp [step, callsOf, hf, destroyEach]
  | destroyAll => rfl
  | _ => exact absurd rfl h

theorem effective_append (calls calls' : List (Nat × Bool)) :
    effective (calls ++ calls') = effective calls ++ effective calls' := by
  simp [effective]

/-- **In a run each resource is destroyed at most once.** -/
theorem effective_ledger (balanced : Balanced [] s) (os : List Operation) :
    (effective (ledger os s)).Nodup ∧ ∀ i ∈ effective (ledger os s), s.isDestroyed i = false := by
  induction os generalizing s with
  | nil => exact ⟨List.nodup_nil, nofun⟩
  | cons o os ih =>
    obtain ⟨nodup, later⟩ := ih (balanced.step o)
    obtain ⟨nodup', now⟩ := effective_effects (callsOf_known balanced o)
    have ages := Ages.step balanced o
    have gone (i : Nat) (hi : i ∈ effective (effects (callsOf o s) s)) :
        (s.step o).2.isDestroyed i := by
      have some : callsOf o s ≠ [] := by
        intro none
        rw [none] at hi
        cases hi
      unfold isDestroyed
      rw [items_step o some]
      exact (now i hi).2
    rw [ledger, effective_append]
    refine ⟨List.nodup_append.2 ⟨nodup', nodup, ?_⟩, fun i hi => ?_⟩
    · rintro i hi _ hi' rfl
      have before := later i hi'
      rw [gone i hi] at before
      cases before
    · rcases List.mem_append.1 hi with hi | hi
      · exact (now i hi).1
      · refine Bool.eq_false_iff.2 fun before => ?_
        have after := later i hi
        rw [ages.isDestroyed before] at after
        cases after

theorem Ages.note?_eq (h : Ages s s') {call : Nat × Bool} (known : call.1 < s.items.length) :
    s'.note? call = s.note? call := by
  have hx := List.getElem?_eq_getElem known
  obtain ⟨x', hx', name, -, -⟩ := h.items _ _ hx
  simp [Shelf.note?, hx, hx', name]

theorem Ages.steps (balanced : Balanced [] s) (os : List Operation) : Ages s (s.steps os) := by
  induction os generalizing s with
  | nil => exact .refl s
  | cons o os ih => exact (Ages.step balanced o).trans (ih (balanced.step o))

theorem mem_of_mem_effects {call : Nat × Bool} (h : call ∈ effects l s) : call.1 ∈ l := by
  induction l generalizing s with
  | nil => cases h
  | cons i l ih =>
    rcases List.mem_cons.1 h with rfl | h
    · exact List.mem_cons_self
    · exact List.mem_cons_of_mem _ (ih h)

theorem notes_destroyEach (known : ∀ i ∈ l, i < s.items.length) :
    (s.destroyEach l).notes = s.notes ++ (effects l s).filterMap s.note? := by
  induction l generalizing s with
  | nil => simp [destroyEach, effects]
  | cons i l ih =>
    have ages := Ages.destroyItem i s
    have known' (j : Nat) (hj : j ∈ l) := known j (List.mem_cons_of_mem _ hj)
    have first : (s.destroyItem i).notes =
        s.notes ++ (s.note? (i, !s.isDestroyed i)).toList := by
      unfold destroyItem note? isDestroyed
      cases s.items[i]? with
      | none => simp
      | some x => cases hd : x.isDestroyed <;> simp [hd]
    have rest : (effects l (s.destroyItem i)).filterMap (s.destroyItem i).note? =
        (effects l (s.destroyItem i)).filterMap s.note? :=
      List.filterMap_congr fun call hc => ages.note?_eq (known' _ (mem_of_mem_effects hc))
    have later := ih (s := s.destroyItem i) fun j hj => Nat.lt_of_lt_of_le (known' j hj) ages.length_le
    show ((s.destroyItem i).destroyEach l).notes = _
    rw [later, rest, first, effects, List.filterMap_cons]
    cases s.note? (i, !s.isDestroyed i) <;> simp

theorem notes_step (balanced : Balanced [] s) (o : Operation) :
    (s.step o).2.notes = s.notes ++ (effects (callsOf o s) s).filterMap s.note? := by
  have known := callsOf_known balanced o
  cases o with
  | register name => cases hf : s.find? name <;> simp [step, callsOf, effects, hf]
  | share name holder => cases hf : s.find? holder <;> simp [step, callsOf, effects, hf, clone, onItem]
  | adopt name position => cases hf : s.kept[position]? <;> simp [step, callsOf, effects, hf]
  | destroy name =>
    rw [← notes_destroyEach known]
    cases hf : s.find? name <;> simp [step, callsOf, hf, destroyEach]
  | destroyAll => exact notes_destroyEach known
  | _ => simp [step, callsOf, effects]

/-- What the resources noted is what the ledger says. -/
theorem notes_steps (balanced : Balanced [] s) (os : List Operation) :
    (s.steps os).notes = s.notes ++ (ledger os s).filterMap (s.steps os).note? := by
  induction os generalizing s with
  | nil => simp [steps, ledger]
  | cons o os ih =>
    have now : (effects (callsOf o s) s).filterMap (s.steps (o :: os)).note? =
        (effects (callsOf o s) s).filterMap s.note? :=
      List.filterMap_congr fun call hc => (Ages.steps balanced (o :: os)).note?_eq
        (callsOf_known balanced o _ (mem_of_mem_effects hc))
    rw [ledger, List.filterMap_append, now, ← List.append_assoc, ← notes_step balanced]
    exact ih (balanced.step o)

/-! ## What a registry does -/

/-- A run without its registrations. -/
structure Unregistered (ops : List Operation) : Prop where
  silent : ∀ o ∈ unregistered ops, o.registers = false
  /-- At any point the same is alive, if no handles of the registry are kept. -/
  isAlive : .keepAlive ∉ ops → ∀ os, os <+: ops → ∀ i,
    (({} : Shelf).steps (unregistered os)).isAlive i = (({} : Shelf).steps os).isAlive i
  /-- If they are kept and not passed on, what is alive besides is what they keep alive. -/
  kept : (∀ name position, .adopt name position ∉ ops) → ∀ os, os <+: ops → ∀ i,
    ((({} : Shelf).steps os).isAlive i = true ↔
      (({} : Shelf).steps (unregistered os)).isAlive i = true ∨ i ∈ (({} : Shelf).steps os).kept)

theorem unregistered_all (ops : List Operation) : Unregistered ops where
  silent _ := not_registers_of_unregistered
  isAlive h os hos i := by
    have keepless : .keepAlive ∉ os := fun mem => h (hos.subset mem)
    have kept : (({} : Shelf).steps os).kept = [] := kept_steps keepless rfl
    have alive := isAlive_iff_unregistered (.inl ⟨keepless, rfl⟩) i
    rw [kept] at alive
    rw [Bool.eq_iff_iff, alive]
    simp only [List.not_mem_nil, or_false]
  kept h os hos i :=
    isAlive_iff_unregistered (.inr fun name position mem => h name position (hos.subset mem)) i

/-- The name of a resource. -/
def nameOf (s : Shelf) (i : Nat) : String := (s.items[i]?).elim "" (·.name)

/-- What the operations of a registry come to, which go through its entries one by one. -/
structure Walks (s : Shelf) : Prop where
  /-- The living entries are those whose resource is alive, in order and with repetitions; handles of them
  that are given back leave nothing behind. -/
  upgrades : ∃ s', upgradeEach s.registry.entries s = (s.registry.entries.filter s.isAlive, s') ∧
    (s.registry.entries.filter s.isAlive).foldl (fun s i => s.release i) s' = s
  /-- Each of them is named in the answer. -/
  alive : s.step .alive = (.names ((s.registry.entries.filter s.isAlive).map s.nameOf), s)
  /-- The new handles take the place of those that were kept. -/
  keepAlive : let (living, s') := upgradeEach s.registry.entries s
    s.step .keepAlive = (.count living.length,
      s.kept.foldl (fun s i => s.release i) { s' with kept := living })
  prune : let (rest, s') := visit (fun i s => (!s.isDestroyed i, s)) s.registry.entries s
    s.step .prune = (.count (s.registry.entries.length - rest.length), { s' with registry := ⟨rest⟩ })
  /-- Each living entry is destroyed once, in order, and then there are no entries any more. -/
  destroyAll : let (reached, s') := visit (fun i s => (true, s.destroyItem i)) s.registry.entries s
    reached = s.registry.entries.filter s.isAlive ∧ s' = s.destroyEach reached ∧
      s.step .destroyAll = (.count reached.length, { s' with registry := {} })
  size : s.step .size = (.count s.registry.entries.length, s)

theorem walks (s : Shelf) : s.Walks where
  upgrades := ⟨_, upgradeEach_eq _ s, releaseEach_cloneEach _ s⟩
  alive := by
    -- What is alive is a resource, and so none of the names is left out.
    have named : ∀ i ∈ s.living, (s.items[i]?).map (·.name) = some (s.nameOf i) := fun i hi => by
      obtain ⟨x, hx, -⟩ := exists_item (List.mem_filter.1 hi).2
      simp [nameOf, hx]
    have names : (s.living.filterMap fun i => s.items[i]?.map (·.name)) = s.living.map s.nameOf :=
      (List.filterMap_congr named).trans (congrFun List.filterMap_eq_map _)
    exact congrArg (Answer.names · , s) names
  keepAlive := by
    rw [upgradeEach_eq]
    rfl
  prune := by
    rw [visit_pruning]
    rfl
  destroyAll := by
    rw [visit_destroying]
    exact ⟨rfl, rfl, rfl⟩
  size := rfl

/-- **A registry lists resources and does nothing else for them.** After any run a resource has as many
handles as names and the list have of it; if there is one, it is alive. At any point the same resources are
alive as without the registrations, apart from those of which handles are kept that the registry gave out.
The registry lists what was registered since everything was destroyed last, in this order; what is usable is
listed as often as it was registered, and all is listed if nothing was pruned. Its operations reach exactly
the entries that are alive, and it is these that are named when it is asked for them. Of all calls that
destroy resources, at most one takes effect on each, and the resources note all of them. -/
theorem registry_lists (ops : List Operation) :
    let s := ({} : Shelf).steps ops
    (∀ i, s.handles i = s.holders i ∧
      (s.isAlive i = true ↔ (∃ name, (name, i) ∈ s.held) ∨ i ∈ s.kept)) ∧
    Unregistered ops ∧
    s.Listed (registered ops {} []) ∧
    (.prune ∉ ops → s.registry.entries = registered ops {} []) ∧
    s.Walks ∧
    (effective (ledger ops {})).Nodup ∧ s.notes = (ledger ops {}).filterMap s.note? := by
  intro s
  have start : Balanced [] ({} : Shelf) := balanced_steps []
  have listed : Listed ({} : Shelf) [] := ⟨.refl _, nofun, fun _ _ => rfl⟩
  have balanced := balanced_steps ops
  refine ⟨fun i => ⟨balanced.handles i, balanced.isAlive_iff i⟩, unregistered_all ops,
    listed.steps start ops, fun unpruned => entries_steps_of_unpruned unpruned {}, walks s,
    (effective_ledger start ops).1, ?_⟩
  exact (notes_steps start ops).trans (List.nil_append _)

/-- A handle that the registry gave out keeps a resource alive which nothing keeps alive if it is not
registered. -/
theorem kept_handle :
    (({} : Shelf).steps [.create "a", .keepAlive, .drop "a"]).isAlive 0 = true ∧
      (({} : Shelf).steps (unregistered [.create "a", .keepAlive, .drop "a"])).isAlive 0 = false := by
  decide

/-- What is registered twice is destroyed by the first of two calls. -/
example : (({} : Shelf).steps [.create "a", .register "a", .keepAlive, .drop "a", .destroyAll]).notes =
    ["destroy a", "again a"] := by decide

end GpuCompute.Shelf
