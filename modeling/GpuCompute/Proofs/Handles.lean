import GpuCompute.Registry.Shelf
import GpuCompute.Proofs.Names
import Mathlib.Data.List.Perm.Basic

/-!
# Handles

A shelf keeps its books on handles: a resource has as many handles as there are names that hold it and
places in the list of kept ones (`Shelf.Balanced`, with the handles that are on their way from one place
to another). The registry has no part in this, apart from the handles that it gives out to be kept. So
without its registrations a run goes the same way as far as the names are concerned
(`Shelf.Unlisted.steps`).
-/

namespace GpuCompute.Shelf

variable {s s' t : Shelf} {i j : Nat} {l l' loose : List Nat} {name : String}

/-! ## Single resources -/

theorem getElem?_onItem (i : Nat) (f : Item → Item) (s : Shelf) (j : Nat) :
    (s.onItem i f).items[j]? = (s.items[j]?).map fun x => if i = j then f x else x :=
  List.getElem?_modify f i s.items j

theorem handles_onItem (i : Nat) (f : Item → Item) (s : Shelf) (j : Nat) :
    (s.onItem i f).handles j =
      if i = j then (s.items[j]?).elim 0 fun x => (f x).handles else s.handles j := by
  unfold handles
  rw [getElem?_onItem]
  by_cases hij : i = j <;> cases s.items[j]? <;> simp [hij]

theorem isAlive_iff : s.isAlive i = true ↔ 0 < s.handles i := decide_eq_true_iff

theorem exists_item (h : s.isAlive i) : ∃ x, s.items[i]? = some x ∧ 0 < x.handles := by
  have some := isAlive_iff.1 h
  unfold handles at some
  cases hx : s.items[i]? with
  | none => simp [hx] at some
  | some x => exact ⟨x, rfl, by simpa [hx] using some⟩

theorem handles_clone (hi : s.isAlive i) (j : Nat) :
    (s.clone i).handles j = s.handles j + [i].count j := by
  obtain ⟨x, hx, -⟩ := exists_item hi
  rw [clone, handles_onItem, List.count_singleton]
  by_cases hij : i = j
  · subst hij
    simp [handles, hx]
  · simp [hij]

theorem handles_release (i : Nat) (s : Shelf) (j : Nat) :
    (s.release i).handles j = s.handles j - [i].count j := by
  rw [release, handles_onItem, List.count_singleton]
  by_cases hij : i = j
  · subst hij
    cases hx : s.items[i]? <;> simp [handles, hx]
  · simp [hij]

theorem handles_destroyItem (i : Nat) (s : Shelf) : (s.destroyItem i).handles = s.handles := by
  funext j
  unfold destroyItem
  cases hx : s.items[i]? with
  | none => rfl
  | some x =>
    show (s.onItem i _).handles j = s.handles j
    rw [handles_onItem]
    by_cases hij : i = j
    · subst hij
      simp [handles, hx]
    · simp [hij]

@[simp] theorem held_destroyItem (i : Nat) (s : Shelf) : (s.destroyItem i).held = s.held := by
  unfold destroyItem
  split <;> rfl

@[simp] theorem kept_destroyItem (i : Nat) (s : Shelf) : (s.destroyItem i).kept = s.kept := by
  unfold destroyItem
  split <;> rfl

theorem isAlive_clone (hi : s.isAlive i) (hj : s.isAlive j) : (s.clone i).isAlive j := by
  rw [isAlive_iff] at hj ⊢
  rw [handles_clone hi]
  omega

theorem clone_release (i : Nat) (s : Shelf) : (s.clone i).release i = s := by
  have same : s.items.modify i ((fun x : Item => { x with handles := x.handles - 1 }) ∘
      fun x : Item => { x with handles := x.handles + 1 }) = s.items := List.modify_id i s.items
  show ({ s with items := (s.items.modify i _).modify i _ } : Shelf) = s
  rw [List.modify_modify_eq, same]

/-! ## Counting handles -/

/-- How many handles of a resource are under names and among those that are kept. -/
def holders (s : Shelf) (i : Nat) : Nat := (s.held.map (·.2)).count i + s.kept.count i

/-- All handles are accounted for, if those of `loose` are on their way. -/
structure Balanced (loose : List Nat) (s : Shelf) : Prop where
  names : (Session.namesOf s.held).Nodup
  handles : ∀ i, s.handles i = s.holders i + loose.count i

theorem count_loose (i : Nat) (l : List Nat) (j : Nat) :
    (i :: l).count j = [i].count j + l.count j := by
  rw [List.count_cons, List.count_singleton, Nat.add_comm]

/-- Without a name there is one handle less of what it held. -/
theorem count_without (nodup : (Session.namesOf s.held).Nodup) (name : String) (i : Nat) :
    ((Session.without name s.held).map (·.2)).count i + (s.find? name).toList.count i =
      (s.held.map (·.2)).count i := by
  unfold find?
  cases hf : s.held.lookup name with
  | none =>
    rw [Session.without_of_not_mem (Session.not_mem_names_of_lookup hf)]
    rfl
  | some old =>
    obtain ⟨l₁, l₂, splits⟩ := Session.exists_splits nodup hf
    rw [splits.without, splits.eq]
    simp only [List.map_append, List.map_cons, List.count_append, List.count_cons, Option.toList_some,
      List.count_nil]
    omega

namespace Balanced

theorem of_same (h : Balanced loose s) (held : s'.held = s.held) (kept : s'.kept = s.kept)
    (handles : s'.handles = s.handles) : Balanced loose s' where
  names := held ▸ h.names
  handles i := by
    rw [handles, h.handles, holders, holders, held, kept]

theorem perm (h : Balanced l s) (hl : l.Perm l') : Balanced l' s :=
  ⟨h.names, fun i => by rw [h.handles, hl.count_eq]⟩

theorem clone (h : Balanced l s) (hi : s.isAlive i) : Balanced (i :: l) (s.clone i) where
  names := h.names
  handles j := by
    show (s.clone i).handles j = s.holders j + _
    rw [handles_clone hi, h.handles, count_loose i l]
    omega

theorem release (h : Balanced (i :: l) s) : Balanced l (s.release i) where
  names := h.names
  handles j := by
    show (s.release i).handles j = s.holders j + _
    rw [handles_release, h.handles, count_loose i l]
    omega

theorem destroyItem (h : Balanced l s) (i : Nat) : Balanced l (s.destroyItem i) :=
  h.of_same (held_destroyItem i s) (kept_destroyItem i s) (handles_destroyItem i s)

/-- The handle that a name had, if any, is given up. -/
theorem release_found (h : Balanced ((t.find? name).toList ++ l) s) :
    Balanced l (match t.find? name with | none => s | some old => s.release old) := by
  split
  · next none => simpa [none] using h
  · next old some =>
    rw [some] at h
    exact h.release

theorem letGo (h : Balanced l s) (name : String) : Balanced l (s.letGo name) := by
  have rest : Balanced ((s.find? name).toList ++ l)
      { s with held := Session.without name s.held } := by
    refine ⟨Session.nodup_without name h.names, fun i => ?_⟩
    have before := h.handles i
    have one := count_without h.names name i
    unfold holders at before ⊢
    rw [List.count_append]
    show s.handles i = _
    simp only at one ⊢
    omega
  exact rest.release_found

theorem hold (h : Balanced (i :: l) s) (name : String) : Balanced l (s.hold name i) := by
  have next : Balanced ((s.find? name).toList ++ l)
      { s with held := Session.store name i s.held } := by
    refine ⟨Session.nodup_store name i h.names, fun j => ?_⟩
    have before := h.handles j
    have one := count_without h.names name j
    unfold holders at before ⊢
    rw [count_loose] at before
    rw [List.count_append]
    show s.handles j = _
    simp only [Session.store, List.map_append, List.map_cons, List.map_nil, List.count_append] at one ⊢
    omega
  exact next.release_found

/-- A new resource has one handle. -/
theorem add (h : Balanced l s) (name : String) : Balanced l (s.add name) := by
  have next : Balanced (s.items.length :: l) { s with items := s.items ++ [({ name } : Item)] } := by
    refine ⟨h.names, fun i => ?_⟩
    have before := h.handles i
    show (Option.elim ((s.items ++ [_])[i]?) 0 _) = s.holders i + _
    rw [count_loose, List.count_singleton]
    unfold Shelf.handles at before
    rcases Nat.lt_trichotomy i s.items.length with hlt | rfl | hgt
    · rw [List.getElem?_append_left hlt, before]
      simp [Nat.ne_of_gt hlt]
    · simp at before ⊢
      omega
    · have out : (s.items ++ [({ name } : Item)])[i]? = none := List.getElem?_eq_none (by simp; omega)
      rw [List.getElem?_eq_none (Nat.le_of_lt hgt)] at before
      simp [out, Nat.ne_of_lt hgt] at before ⊢
      omega
  exact next.hold name

theorem cloneEach (h : Balanced l s) (hl : ∀ i ∈ l', s.isAlive i) :
    Balanced (l' ++ l) (l'.foldl (fun s i => s.clone i) s) := by
  induction l' generalizing s l with
  | nil => exact h
  | cons i l' ih =>
    have hi := hl i List.mem_cons_self
    have later := ih (h.clone hi) fun j hj => isAlive_clone hi (hl j (List.mem_cons_of_mem _ hj))
    exact later.perm List.perm_middle

theorem releaseEach (h : Balanced (l' ++ l) s) :
    Balanced l (l'.foldl (fun s i => s.release i) s) := by
  induction l' generalizing s with
  | nil => exact h
  | cons i l' ih => exact ih (Balanced.release h)

theorem keepAll (h : Balanced [] s) (hl : ∀ i ∈ l, s.isAlive i) : Balanced [] (s.keepAll l) := by
  have kept : (l.foldl (fun s i => s.clone i) s).kept = s.kept := by
    clear h hl
    induction l generalizing s with
    | nil => rfl
    | cons i l ih => exact ih
  have cloned := h.cloneEach hl
  -- What was kept takes the place of what is kept now among the loose handles.
  have swapped : Balanced (s.kept ++ []) { l.foldl (fun s i => s.clone i) s with kept := l } := by
    refine ⟨cloned.names, fun i => ?_⟩
    have before := cloned.handles i
    unfold holders at before ⊢
    rw [kept] at before
    simp only [List.append_nil] at before ⊢
    show (l.foldl (fun s i => s.clone i) s).handles i = _
    omega
  exact swapped.releaseEach

/-- A handle is taken from those that are kept. -/
theorem eraseIdx {position : Nat} (h : Balanced l s) (hi : s.kept[position]? = some i) :
    Balanced (i :: l) { s with kept := s.kept.eraseIdx position } := by
  obtain ⟨hlt, rfl⟩ := List.getElem?_eq_some_iff.1 hi
  refine ⟨h.names, fun j => ?_⟩
  have before := h.handles j
  have one := (List.getElem_cons_eraseIdx_perm hlt).count_eq j
  unfold holders at before ⊢
  rw [count_loose] at one ⊢
  show s.handles j = (s.held.map (·.2)).count j + (s.kept.eraseIdx position).count j + _
  omega

/-- What a name holds is alive. -/
theorem isAlive_of_find? (h : Balanced l s) (hf : s.find? name = some i) : s.isAlive i := by
  have mem : i ∈ s.held.map (·.2) := List.mem_map_of_mem (Session.mem_of_lookup hf)
  have pos : 0 < (s.held.map (·.2)).count i := List.count_pos_iff.2 mem
  rw [isAlive_iff, h.handles, holders]
  omega

/-- **Each operation keeps the books on handles.** -/
theorem step (h : Balanced [] s) (o : Operation) : Balanced [] (s.step o).2 := by
  have living : ∀ i ∈ s.living, s.isAlive i := fun i hi => (List.mem_filter.1 hi).2
  cases o with
  | make name => exact h.add name
  | create name => exact (h.add name).of_same rfl rfl rfl
  | register name =>
    dsimp only [Shelf.step]
    split
    · exact h.of_same rfl rfl rfl
    · exact h
  | share name holder =>
    dsimp only [Shelf.step]
    split
    · next i hf => exact (h.clone (h.isAlive_of_find? hf)).hold name
    · exact h
  | adopt name position =>
    dsimp only [Shelf.step]
    split
    · next i hi => exact (h.eraseIdx hi).hold name
    · exact h
  | drop name => exact h.letGo name
  | destroy name =>
    dsimp only [Shelf.step]
    split
    · exact h.destroyItem _
    · exact h
  | destroyAll =>
    refine of_same (s := s.living.foldl (fun s i => s.destroyItem i) s) ?_ rfl rfl rfl
    clear living
    induction s.living generalizing s with
    | nil => exact h
    | cons i l ih => exact ih (h.destroyItem i)
  | prune => exact h.of_same rfl rfl rfl
  | alive | size => exact h
  | keepAlive => exact h.keepAll living
  | releaseKept => exact h.keepAll nofun

theorem steps (h : Balanced [] s) (os : List Operation) : Balanced [] (s.steps os) := by
  induction os generalizing s with
  | nil => exact h
  | cons o os ih => exact ih (h.step o)

end Balanced

theorem balanced_steps (os : List Operation) : Balanced [] (({} : Shelf).steps os) := by
  have start : Balanced [] ({} : Shelf) := ⟨List.nodup_nil, fun _ => rfl⟩
  exact start.steps os

/-- **A resource is alive as long as a name or the list has a handle of it.** -/
theorem Balanced.isAlive_iff (h : Balanced [] s) (i : Nat) :
    s.isAlive i = true ↔ (∃ name, (name, i) ∈ s.held) ∨ i ∈ s.kept := by
  have named : i ∈ s.held.map (·.2) ↔ ∃ name, (name, i) ∈ s.held := by simp
  rw [Shelf.isAlive_iff, h.handles, holders, ← named, ← List.count_pos_iff, ← List.count_pos_iff,
    List.count_nil]
  omega

/-! ## Runs without registrations -/

/-- Whether an operation registers something. -/
def Operation.registers : Operation → Bool
  | .create _ | .register _ => true
  | _ => false

/-- What is left of an operation that must not register anything. -/
def Operation.unregistered : Operation → List Operation
  | .create name => [.make name]
  | .register _ => []
  | o => [o]

/-- What is left of a run without its registrations. -/
def unregistered (os : List Operation) : List Operation := os.flatMap Operation.unregistered

theorem not_registers_of_unregistered {os : List Operation} {o : Operation}
    (h : o ∈ unregistered os) : o.registers = false := by
  obtain ⟨o', -, h⟩ := List.mem_flatMap.1 h
  cases o' with
  | register => cases h
  | _ =>
    rw [List.mem_singleton.1 h]
    rfl

section

variable (s)

/-! What is done to handles changes nothing but what it is about. -/

theorem hold_frame (name : String) (i : Nat) : ∃ items : List Item,
    items.length = s.items.length ∧
      s.hold name i = { s with items, held := Session.store name i s.held } := by
  unfold hold
  cases s.find? name with
  | none => exact ⟨s.items, rfl, rfl⟩
  | some old => exact ⟨_, List.length_modify .., rfl⟩

theorem letGo_frame (name : String) : ∃ items : List Item,
    items.length = s.items.length ∧
      s.letGo name = { s with items, held := Session.without name s.held } := by
  unfold letGo
  cases s.find? name with
  | none => exact ⟨s.items, rfl, rfl⟩
  | some old => exact ⟨_, List.length_modify .., rfl⟩

theorem add_frame (name : String) : ∃ items : List Item,
    items.length = s.items.length + 1 ∧
      s.add name = { s with items, held := Session.store name s.items.length s.held } := by
  obtain ⟨items, length, same⟩ :=
    hold_frame { s with items := s.items ++ [({ name } : Item)] } name s.items.length
  exact ⟨items, length.trans List.length_append, same⟩

theorem destroyItem_frame (i : Nat) : ∃ (items : List Item) (notes : List String),
    items.length = s.items.length ∧ s.destroyItem i = { s with items, notes } := by
  unfold destroyItem
  cases s.items[i]? with
  | none => exact ⟨s.items, s.notes, rfl, rfl⟩
  | some x => exact ⟨_, _, List.length_modify .., rfl⟩

theorem destroyEach_frame (l : List Nat) : ∃ (items : List Item) (notes : List String),
    items.length = s.items.length ∧
      l.foldl (fun s i => s.destroyItem i) s = { s with items, notes } := by
  induction l generalizing s with
  | nil => exact ⟨s.items, s.notes, rfl, rfl⟩
  | cons i l ih =>
    obtain ⟨items, notes, length, same⟩ := destroyItem_frame s i
    obtain ⟨items', notes', length', same'⟩ := ih { s with items, notes }
    exact ⟨items', notes', length'.trans length, by rw [List.foldl_cons, same, same']⟩

theorem onItems_frame (f : Item → Item) (l : List Nat) : ∃ items : List Item,
    items.length = s.items.length ∧ l.foldl (fun s i => s.onItem i f) s = { s with items } := by
  induction l generalizing s with
  | nil => exact ⟨s.items, rfl, rfl⟩
  | cons i l ih =>
    obtain ⟨items, length, same⟩ := ih (s.onItem i f)
    exact ⟨items, length.trans (List.length_modify ..), same⟩

theorem keepAll_frame (l : List Nat) : ∃ items : List Item,
    items.length = s.items.length ∧ s.keepAll l = { s with items, kept := l } := by
  obtain ⟨items, length, cloned⟩ := onItems_frame s _ l
  obtain ⟨items', length', released⟩ := onItems_frame { s with items, kept := l } _ s.kept
  refine ⟨items', length'.trans length, ?_⟩
  unfold keepAll
  rw [show l.foldl (fun s i => s.clone i) s = { s with items } from cloned]
  exact released

end

/-- A shelf with the same names as another one, whose registry lists nothing and gave no handles out. -/
structure Unlisted (s t : Shelf) : Prop where
  held : t.held = s.held
  length : t.items.length = s.items.length
  kept : t.kept = []
  entries : t.registry.entries = []

namespace Unlisted

theorem find?_eq (h : Unlisted s t) (name : String) : t.find? name = s.find? name := by
  rw [Shelf.find?, Shelf.find?, h.held]

theorem living_eq_nil (h : Unlisted s t) : t.living = [] := by
  rw [Shelf.living, Registry.living, h.entries, List.filter_nil]

theorem hold (h : Unlisted s t) (name : String) (i : Nat) :
    Unlisted (s.hold name i) (t.hold name i) := by
  obtain ⟨items, hs, same⟩ := hold_frame s name i
  obtain ⟨items', ht, same'⟩ := hold_frame t name i
  rw [same, same']
  exact ⟨congrArg (Session.store name i) h.held, by rw [ht, hs, h.length], h.kept, h.entries⟩

theorem clone (h : Unlisted s t) (i : Nat) : Unlisted (s.clone i) (t.clone i) :=
  ⟨h.held, (List.length_modify ..).trans (h.length.trans (List.length_modify ..).symm), h.kept,
    h.entries⟩

theorem letGo (h : Unlisted s t) (name : String) : Unlisted (s.letGo name) (t.letGo name) := by
  obtain ⟨items, hs, same⟩ := letGo_frame s name
  obtain ⟨items', ht, same'⟩ := letGo_frame t name
  rw [same, same']
  exact ⟨by rw [h.held], by rw [ht, hs, h.length], h.kept, h.entries⟩

/-- The new resource may be registered on the one shelf. -/
theorem add (h : Unlisted s t) (name : String) (registry : Registry Nat) :
    Unlisted { s.add name with registry } (t.add name) := by
  obtain ⟨items, hs, same⟩ := add_frame s name
  obtain ⟨items', ht, same'⟩ := add_frame t name
  rw [same, same']
  exact ⟨by rw [h.held, h.length], by rw [ht, hs, h.length], h.kept, h.entries⟩

theorem destroyItem (h : Unlisted s t) (i : Nat) : Unlisted (s.destroyItem i) (t.destroyItem i) := by
  obtain ⟨items, notes, hs, same⟩ := destroyItem_frame s i
  obtain ⟨items', notes', ht, same'⟩ := destroyItem_frame t i
  rw [same, same']
  exact ⟨h.held, by rw [ht, hs, h.length], h.kept, h.entries⟩

/-- The registry of the one shelf gives handles out, and that of the other one has none to give. -/
theorem keepAll (h : Unlisted s t) (l : List Nat) : Unlisted (s.keepAll l) (t.keepAll []) := by
  obtain ⟨items, hs, same⟩ := keepAll_frame s l
  obtain ⟨items', ht, same'⟩ := keepAll_frame t []
  rw [same, same']
  exact ⟨h.held, by rw [ht, hs, h.length], rfl, h.entries⟩

/-- Leaving a registration out makes no difference to the names, as long as no handle that the registry
gave out goes on to a name. -/
theorem step (h : Unlisted s t) {o : Operation}
    (ho : ∀ name position, o = .adopt name position → s.kept = []) :
    Unlisted (s.step o).2 (t.steps o.unregistered) := by
  have living := h.living_eq_nil
  cases o with
  | make name => exact h.add name (s.add name).registry
  | create name => exact h.add name _
  | register name =>
    dsimp only [Shelf.step]
    split <;> exact ⟨h.held, h.length, h.kept, h.entries⟩
  | share name holder =>
    dsimp only [Operation.unregistered, steps, List.foldl_cons, List.foldl_nil, Shelf.step]
    rw [h.find?_eq]
    split
    · next i hf => exact (h.clone i).hold name i
    · exact h
  | adopt name position =>
    have none : s.kept[position]? = none ∧ t.kept[position]? = none := by
      rw [ho name position rfl, h.kept]
      exact ⟨rfl, rfl⟩
    simp only [Operation.unregistered, steps, List.foldl_cons, List.foldl_nil, Shelf.step, none]
    exact h
  | drop name => exact h.letGo name
  | destroy name =>
    dsimp only [Operation.unregistered, steps, List.foldl_cons, List.foldl_nil, Shelf.step]
    rw [h.find?_eq]
    split
    · next i hf => exact h.destroyItem i
    · exact h
  | prune =>
    refine ⟨h.held, h.length, h.kept, ?_⟩
    show t.registry.entries.filter t.isUsable = []
    rw [h.entries, List.filter_nil]
  | destroyAll =>
    -- Only the one shelf has something to destroy, and that leaves the names as they are.
    obtain ⟨items, notes, hs, same⟩ := destroyEach_frame s s.living
    show Unlisted { s.living.foldl (fun s i => s.destroyItem i) s with registry := {} }
      { t.living.foldl (fun s i => s.destroyItem i) t with registry := {} }
    rw [same, living]
    exact ⟨h.held, h.length.trans hs.symm, h.kept, rfl⟩
  | alive | size => exact h
  | keepAlive =>
    show Unlisted (s.keepAll s.living) (t.keepAll t.living)
    exact living ▸ h.keepAll s.living
  | releaseKept => exact h.keepAll []

end Unlisted

@[simp] theorem kept_hold (name : String) (i : Nat) (s : Shelf) : (s.hold name i).kept = s.kept := by
  obtain ⟨items, -, same⟩ := hold_frame s name i
  rw [same]

@[simp] theorem kept_letGo (name : String) (s : Shelf) : (s.letGo name).kept = s.kept := by
  obtain ⟨items, -, same⟩ := letGo_frame s name
  rw [same]

@[simp] theorem kept_add (name : String) (s : Shelf) : (s.add name).kept = s.kept := kept_hold ..

@[simp] theorem kept_keepAll (l : List Nat) (s : Shelf) : (s.keepAll l).kept = l := by
  obtain ⟨items, -, same⟩ := keepAll_frame s l
  rw [same]

/-- Without a call for the living entries no handles come to be kept. -/
theorem kept_step {o : Operation} (ho : o ≠ .keepAlive) (h : s.kept = []) :
    (s.step o).2.kept = [] := by
  cases o with
  | keepAlive => exact absurd rfl ho
  | register name => cases hf : s.find? name <;> simp [step, hf, h]
  | share name holder => cases hf : s.find? holder <;> simp [step, hf, h, clone, onItem]
  | adopt name position => simp [step, h]
  | destroy name => cases hf : s.find? name <;> simp [step, hf, h]
  | destroyAll =>
    obtain ⟨items, notes, -, same⟩ := destroyEach_frame s s.living
    show (s.living.foldl (fun s i => s.destroyItem i) s).kept = []
    rw [same, h]
  | _ => simp [step, h]

theorem kept_steps {os : List Operation} (keepless : .keepAlive ∉ os) (h : s.kept = []) :
    (s.steps os).kept = [] := by
  induction os generalizing s with
  | nil => exact h
  | cons o os ih =>
    rw [List.mem_cons, not_or] at keepless
    exact ih keepless.2 (kept_step (Ne.symm keepless.1) h)

/-- No handle that the registry gives out goes on to a name: it gives none out to be kept, or none of those
that are kept is taken. -/
def KeepsApart (os : List Operation) (s : Shelf) : Prop :=
  .keepAlive ∉ os ∧ s.kept = [] ∨ ∀ name position, .adopt name position ∉ os

theorem KeepsApart.kept_of_adopt {o : Operation} {os : List Operation} (h : KeepsApart (o :: os) s) :
    ∀ name position, o = .adopt name position → s.kept = [] := by
  rintro name position rfl
  exact h.elim (·.2) fun h => absurd List.mem_cons_self (h name position)

theorem KeepsApart.tail {o : Operation} {os : List Operation} (h : KeepsApart (o :: os) s) :
    KeepsApart os (s.step o).2 := by
  refine h.imp (fun ⟨keepless, kept⟩ => ?_) fun h name position mem =>
    h name position (List.mem_cons_of_mem o mem)
  rw [List.mem_cons, not_or] at keepless
  exact ⟨keepless.2, kept_step (Ne.symm keepless.1) kept⟩

/-- **The names hold the same with and without registrations.** -/
theorem Unlisted.steps {os : List Operation} (h : Unlisted s t) (apart : KeepsApart os s) :
    Unlisted (s.steps os) (t.steps (unregistered os)) := by
  induction os generalizing s t with
  | nil => exact h
  | cons o os ih =>
    have split : t.steps (unregistered (o :: os)) =
        (t.steps o.unregistered).steps (unregistered os) := List.foldl_append
    rw [split]
    exact ih (h.step apart.kept_of_adopt) apart.tail

/-- What is alive is alive without the registrations, or a handle of it is kept that the registry gave
out. -/
theorem isAlive_iff_unregistered {os : List Operation} (apart : KeepsApart os {}) (i : Nat) :
    (({} : Shelf).steps os).isAlive i = true ↔
      (({} : Shelf).steps (unregistered os)).isAlive i = true ∨ i ∈ (({} : Shelf).steps os).kept := by
  obtain ⟨held, -, kept, -⟩ := Unlisted.steps ⟨rfl, rfl, rfl, rfl⟩ apart
  rw [(balanced_steps os).isAlive_iff, (balanced_steps (unregistered os)).isAlive_iff, held, kept]
  simp only [List.not_mem_nil, or_false]

end GpuCompute.Shelf
