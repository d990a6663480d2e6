import GpuCompute.Proofs.Steps

/-!
# What stays in a pool

A resource that was made stays in its slot, whose device never changes, and an object that left a slot
does not come back (`Pool.Grows`). What has its object has a holder (`Pool.Kept`), since a resource is
destroyed when its last holder lets go. Each move of a session keeps to this, whoever calls.
-/

namespace GpuCompute

variable {d : Driver}

namespace Pool

variable {p p' p'' : Pool d} {r : ResourceId}

/-! ## Slots -/

/-- Slots stay on their devices and get no new objects. -/
def Grows (p p' : Pool d) : Prop :=
  ∀ r slot, p.slot? r = some slot → ∃ slot', p'.slot? r = some slot' ∧
    slot'.device = slot.device ∧ ∀ x, slot'.object = some x → slot.object = some x

namespace Grows

theorem of_eq (slots : p'.slot? = p.slot?) : p.Grows p' := fun _ slot h =>
  ⟨slot, slots ▸ h, rfl, fun _ hx => hx⟩

theorem trans (h : p.Grows p') (h' : p'.Grows p'') : p.Grows p'' := by
  intro r slot hs
  obtain ⟨slot₁, hs₁, device₁, objects₁⟩ := h _ _ hs
  obtain ⟨slot₂, hs₂, device₂, objects₂⟩ := h' _ _ hs₁
  exact ⟨slot₂, hs₂, device₂.trans device₁, fun x hx => objects₁ x (objects₂ x hx)⟩

theorem of_empties (h : p.Empties r p') : p.Grows p' := by
  intro r' slot hs
  by_cases heq : r' = r
  · subst heq
    exact ⟨slot.emptied, by rw [h.slot, hs]; rfl, rfl, fun x hx => by cases hx⟩
  · exact ⟨slot, (h.others r' heq).trans hs, rfl, fun _ hx => hx⟩

theorem of_destroys (h : p.Destroys p') : p.Grows p' := by
  induction h with
  | refl => exact .of_eq rfl
  | tail _ h ih =>
    rcases h with ⟨r, rfl⟩ | ⟨record, rfl⟩
    · exact ih.trans (.of_empties (empties_destroy r _))
    · exact ih.trans (.of_eq rfl)

theorem of_adds {slot : Slot d (Object d)} (h : p.Adds r slot p') : p.Grows p' := by
  intro r' slot' hs
  refine ⟨slot', (h.others r' ?_).trans hs, rfl, fun _ hx => hx⟩
  rintro rfl
  rw [h.fresh] at hs
  cases hs

theorem of_reap (old : ResourceId) (holders : List (String × ResourceId)) (p : Pool d) :
    p.Grows ((p.withHeld holders).reap old) := by
  obtain ⟨q, hq, destroys, -⟩ := reap_cases old holders p
  rw [hq]
  exact (of_destroys destroys).trans (.of_eq rfl)

/-- A name takes hold of a resource. -/
theorem of_hold (name : String) (r : ResourceId) (p : Pool d) : p.Grows (p.hold name r) := by
  unfold Pool.hold
  cases p.find? name with
  | none => exact .of_eq rfl
  | some old => exact .of_reap old _ p

theorem of_drop (name : String) (p : Pool d) : p.Grows (p.drop name) := by
  unfold Pool.drop
  cases p.find? name with
  | none => exact .of_eq rfl
  | some old => exact .of_reap old _ p

theorem dropAll (p : Pool d) : p.Grows p.dropAll := by
  unfold Pool.dropAll
  generalize p.names = names
  induction names generalizing p with
  | nil => exact .of_eq rfl
  | cons name names ih => exact (of_drop name p).trans (ih _)

theorem isInit (h : p.Grows p') {slot : Slot d (Object d)} (hs : p.slot? r = some slot)
    (hr : p'.isInit r) : p.isInit r := by
  obtain ⟨slot', x, hs', hx⟩ := isInit_iff.1 hr
  obtain ⟨slot₁, hs₁, -, objects⟩ := h _ _ hs
  obtain rfl := Option.some.inj (hs'.symm.trans hs₁)
  exact isInit_iff.2 ⟨slot, x, hs, objects x hx⟩

end Grows

/-! ## Holders -/

/-- What has its object has a holder. -/
def Kept (p : Pool d) : Prop := ∀ r, p.isInit r → p.isHeld r

theorem Kept.isUsable (h : p.Kept) (hr : p.isInit r) : p.isUsable r := by
  rw [Pool.isUsable, h r hr, hr]
  rfl

theorem Kept.destroy (h : p.Kept) (r : ResourceId) : (p.destroy r).Kept := by
  intro r' hr'
  rw [(empties_destroy r p).isHeld]
  exact h r' ((Destroys.of_destroy r p).isInit hr')

/-- A name holds what is added. -/
theorem Kept.of_adds (h : p.Kept) {slot : Slot d (Object d)} (adds : p.Adds r slot p') (name : String) :
    (p'.withHeld (p.held ++ [(name, r)])).Kept := by
  intro r' hr'
  rw [isInit_withHeld] at hr'
  by_cases heq : r' = r
  · subst heq
    exact isHeld_iff.2 ⟨_, List.mem_append_right _ List.mem_cons_self, .inl rfl⟩
  · rw [isInit_eq, adds.others r' heq, ← isInit_eq] at hr'
    obtain ⟨x, hx, carries⟩ := isHeld_iff.1 (adds.isHeld r' (h r' hr'))
    exact isHeld_iff.2 ⟨x, List.mem_append_left _ (adds.held ▸ hx), carries⟩

end Pool

/-! ## Sessions -/

namespace Session

variable {P : Permit d} {s s' : Session d} {l : List (Manager d)}

theorem grows_move (h : Move P s l s') : s.pool.Grows s'.pool := by
  cases h with
  | makes _ _ _ made =>
    obtain ⟨e₁, x, e₂, -, -, -, adds⟩ := made
    exact (Pool.Grows.of_adds adds).trans (.of_eq rfl)
  | destroys r => exact .of_empties (Pool.empties_destroy r _)
  | edits ht buffer => exact .of_eq (Pool.slot?_set ht buffer)
  | _ => exact .of_eq rfl

theorem kept_move (h : Move P s l s') (kept : s.pool.Kept) : s'.pool.Kept := by
  cases h with
  | @makes n name m m' l₁ l₂ device order r p _ _ _ made =>
    obtain ⟨e₁, x, e₂, -, -, -, adds⟩ := made
    exact kept.of_adds adds name
  | destroys r => exact kept.destroy r
  | @reholds holders h =>
    intro r hr
    change (s.pool.withHeld holders).isInit r = true at hr
    rw [Pool.isInit_withHeld] at hr
    exact h r hr (kept r hr)
  | @edits i t t' ht buffer =>
    intro r hr
    rw [Pool.isInit_eq] at hr
    change Option.any _ (Pool.slot? { s.pool with tensors := s.pool.tensors.set i t' } r) = true at hr
    rw [Pool.slot?_set ht buffer, ← Pool.isInit_eq] at hr
    exact kept r hr
  | _ => exact kept

theorem grows_moves (h : Moves P s l s') : s.pool.Grows s'.pool := by
  induction h with
  | nil => exact .of_eq rfl
  | cons h _ ih => exact (grows_move h).trans ih

theorem kept_moves (h : Moves P s l s') (kept : s.pool.Kept) : s'.pool.Kept := by
  induction h with
  | nil => exact kept
  | cons h _ ih => exact ih (kept_move h kept)

theorem kept_start (driver : d.State) : (start driver).pool.Kept := by
  intro r hr
  obtain ⟨slot, x, hs, -⟩ := Pool.isInit_iff.1 hr
  exact absurd hs slot?_start

end Session

end GpuCompute
