import GpuCompute.Proofs.Idling
import GpuCompute.Proofs.Vulkan.Custody

/-!
# What slots and managers hold

The parts of the objects in slots stand, each in one slot only (`Stocked`); what managers own stands,
each thing with one manager only, and what they borrow may be used (`Staffed`). Both stay so when
resources and managers are made and destroyed.
-/

namespace GpuCompute.Vulkan

open Api

variable {M : MemoryLibrary} [M.Lawful] {gone : List Thing} {e e' e'' : Env (driverOn M).State}
  {x : Device}

/-! ## Resources -/

/-- What is in the slots of a pool stands, and is in no other slot. -/
structure Stocked (p : Pool (driverOn M)) : Prop where
  good : (State.api p.env.driver).Good
  stands : ∀ {r} {x : Device} {object part}, p.slot? r = some ⟨x, some object⟩ →
    part ∈ parts x.handle object → Stands (State.api p.env.driver).trace part.thing part.rests
  apart : ∀ {r r'} {x x' : Device} {object object' part part'}, p.slot? r = some ⟨x, some object⟩ →
    p.slot? r' = some ⟨x', some object'⟩ → part ∈ parts x.handle object →
    part' ∈ parts x'.handle object' → part.thing = part'.thing → r = r'
  known : ∀ {r slot}, p.slot? r = some slot → Device.Known slot.device p.env.driver

/-- Something is a part of an object in a slot. -/
def Stored (p : Pool (driverOn M)) (t : Thing) : Prop :=
  ∃ r, ∃ x : Device, ∃ object part, p.slot? r = some ⟨x, some object⟩ ∧
    part ∈ parts x.handle object ∧ part.thing = t

omit [M.Lawful] in
theorem role_of_stored {p : Pool (driverOn M)} {t : Thing} (h : Stored p t) : t.role = .object := by
  obtain ⟨r, x, object, part, -, hpart, rfl⟩ := h
  exact role_of_parts hpart

namespace Stocked

variable {p p' : Pool (driverOn M)} {r : ResourceId}

/-- Slots stay as they are while other things are made and ended. -/
theorem of_goes (h : Stocked p) (goes : Goes gone p.env p'.env) (loose : ∀ t ∈ gone, ¬ Stored p t)
    (slots : p'.slot? = p.slot?) (ages : lifetimes.Ages p.env p'.env) : Stocked p' := by
  refine ⟨goes.after, fun hslot hpart => ?_, ?_, fun hslot => ?_⟩
  · have hslot := slots ▸ hslot
    exact goes.stands (h.stands hslot hpart) fun hmem =>
      loose _ hmem ⟨_, _, _, _, hslot, hpart, rfl⟩
  · rw [slots]
    exact h.apart
  · exact ages.known trivial (h.known (slots ▸ hslot))

/-- What a resource gives up is what its destruction ends. -/
theorem goes_destroy (h : Stocked p) (r : ResourceId)
    (live : ∀ slot, p.slot? r = some slot → (driverOn M).isAlive slot.device p.env.driver = true →
      Live (State.api p.env.driver).trace (.device (Device.handle slot.device))) :
    ∃ gone, Goes gone p.env (p.destroy r).env ∧ ∀ t ∈ gone, ∃ x object part,
      p.slot? r = some ⟨x, some object⟩ ∧ part ∈ parts (Device.handle x) object ∧
        part.thing = t := by
  rcases Pool.driver_destroy r p with ⟨same, -⟩ | ⟨slot, object, hslot, hobject, alive, hdriver⟩
  · refine ⟨[], ?_, fun _ ht => nomatch ht⟩
    unfold Goes
    rw [same]
    exact .refl h.good
  · have hslot' : p.slot? r = some ⟨slot.device, some object⟩ := hobject ▸ hslot
    have goes : Goes _ p.env ((driverOn M).unmake slot.device object p.env) :=
      goes_unmake (e := p.env) (x := slot.device) h.good (live slot hslot alive) (h.known hslot)
        fun part hpart => h.stands hslot' hpart
    refine ⟨(parts (Device.handle slot.device) object).map (·.thing), ?_, fun t ht => ?_⟩
    · unfold Goes at goes ⊢
      rw [hdriver]
      exact goes
    · obtain ⟨part, hpart, rfl⟩ := List.mem_map.1 ht
      exact ⟨_, _, part, hslot', hpart, rfl⟩

theorem ages_destroy (r : ResourceId) (p : Pool (driverOn M)) :
    lifetimes.Ages p.env (p.destroy r).env := by
  rcases Pool.driver_destroy r p with ⟨same, -⟩ | ⟨slot, object, -, -, -, hdriver⟩
  · exact .of_eq same
  · exact (Driver.Lifetimes.Ages.of_passes (.unmake slot.device object p.env)).trans (.of_eq hdriver)

theorem of_destroy (h : Stocked p) (r : ResourceId)
    (live : ∀ slot, p.slot? r = some slot → (driverOn M).isAlive slot.device p.env.driver = true →
      Live (State.api p.env.driver).trace (.device (Device.handle slot.device))) :
    Stocked (p.destroy r) := by
  obtain ⟨gone, goes, hgone⟩ := h.goes_destroy r live
  have empties := Pool.empties_destroy r p
  have stays {r' : ResourceId} {x : Device} {object : Object (driverOn M)}
      (hslot : (p.destroy r).slot? r' = some ⟨x, some object⟩) :
      r' ≠ r ∧ p.slot? r' = some ⟨x, some object⟩ := by
    by_cases heq : r' = r
    · rw [heq, empties.slot] at hslot
      obtain ⟨slot, -, hempty⟩ := Option.map_eq_some_iff.1 hslot
      cases hempty
    · exact ⟨heq, empties.others r' heq ▸ hslot⟩
  refine ⟨goes.after, fun hslot hpart => ?_, fun hslot hslot' => ?_, fun {r' slot} hslot => ?_⟩
  · obtain ⟨hne, hslot⟩ := stays hslot
    refine goes.stands (h.stands hslot hpart) fun hmem => hne ?_
    obtain ⟨x', object', part', hslot', hpart', heq⟩ := hgone _ hmem
    exact h.apart hslot hslot' hpart hpart' heq.symm
  · exact h.apart (stays hslot).2 (stays hslot').2
  · refine (ages_destroy r p).known trivial ?_
    by_cases heq : r' = r
    · rw [heq, empties.slot] at hslot
      obtain ⟨slot', hslot', rfl⟩ := Option.map_eq_some_iff.1 hslot
      have known : Device.Known slot'.device p.env.driver := h.known hslot'
      exact known
    · exact h.known (empties.others r' heq ▸ hslot)

/-- A resource is made, with parts that stand and were made for it. -/
theorem goes_makes (h : Stocked p) {x : Device} {order : Order (driverOn M)}
    (live : Live (State.api p.env.driver).trace (.device x.handle)) (known : x.Known p.env.driver)
    (buffers : ∀ b ∈ order.binds, Live (State.api p.env.driver).trace (.object .buffer (Buffer.handle b)))
    (made : p.Makes x order r p') : ∃ object, p.Adds r ⟨x, some object⟩ p' ∧
      Yields (parts x.handle object) (State.api p.env.driver) (State.api p'.env.driver) ∧
      lifetimes.Ages p.env p'.env := by
  obtain ⟨e₁, object, e₂, asked, made, again, adds⟩ := made
  have asks {e e' : Env (driverOn M).State} (h : (driverOn M).Asked Driver.nothing Driver.nothing e e')
      (good : (State.api e.driver).Good) : Goes [] e e' :=
    goes_asked h good (fun _ h => h.elim) fun _ h => h.elim
  have first := asks asked h.good
  have ages : lifetimes.Ages p.env e₁ := .of_idled (.of_asked asked)
  have yields : Yields (parts x.handle object) (State.api e₁.driver) (State.api e₂.driver) :=
    (makes_make (e := e₁) order first.after (first.live live) (ages.known trivial known)
      fun b hb => first.live (buffers b hb)).ok made
  have passes : (driverOn M).Passes e₁ e₂ := by
    have passes := Driver.Passes.make (d := driverOn M) x order e₁
    rwa [Attempt.after_of_ok made] at passes
  exact ⟨object, adds, (yields.then_ (asks again yields.goes.after)).after_ first,
    (ages.trans (.of_passes passes)).trans (.of_idled (.of_asked again))⟩

/-- What was made for a resource is in no other slot. -/
theorem of_adds (h : Stocked p) {x : Device} {object : Object (driverOn M)}
    (adds : p.Adds r ⟨x, some object⟩ p') (ages : lifetimes.Ages p.env p'.env)
    (known : x.Known p.env.driver)
    (yields : Yields (parts x.handle object) (State.api p.env.driver) (State.api p'.env.driver)) :
    Stocked p' := by
  have cases {r' : ResourceId} {slot : Slot (driverOn M) (Object (driverOn M))}
      (hslot : p'.slot? r' = some slot) :
      (r' = r ∧ slot = ⟨x, some object⟩) ∨ p.slot? r' = some slot := by
    by_cases heq : r' = r
    · rw [heq, adds.slot, Option.some.injEq] at hslot
      exact .inl ⟨heq, hslot.symm⟩
    · exact .inr (adds.others r' heq ▸ hslot)
  -- New parts have later handles than old ones.
  have apart {r' : ResourceId} {y : Device} {object' : Object (driverOn M)} {part part' : Part}
      (hslot : p.slot? r' = some ⟨y, some object'⟩) (hpart : part ∈ parts y.handle object')
      (hpart' : part' ∈ parts x.handle object) : part.thing ≠ part'.thing := by
    intro heq
    have lt := h.good.lt_of_stands (h.stands hslot hpart)
    have le := (yields.made part' hpart').2
    rw [heq] at lt
    omega
  refine ⟨yields.goes.after, fun hslot hpart => ?_, fun hslot hslot' hpart hpart' heq => ?_,
    fun hslot => ages.known trivial ?_⟩
  · rcases cases hslot with ⟨rfl, hnew⟩ | hslot
    · cases hnew
      exact (yields.made _ hpart).1
    · exact yields.goes.stands (h.stands hslot hpart) (by simp)
  · obtain ⟨rfl, hnew⟩ | hslot := cases hslot <;> obtain ⟨rfl, hnew'⟩ | hslot' := cases hslot'
    · rfl
    · cases hnew
      exact absurd heq.symm (apart hslot' hpart' hpart)
    · cases hnew'
      exact absurd heq (apart hslot hpart hpart')
    · exact h.apart hslot hslot' hpart hpart' heq
  · rcases cases hslot with ⟨rfl, rfl⟩ | hslot
    · exact known
    · exact h.known hslot

end Stocked

/-! ## Managers -/

/-- The things that managers own. -/
def owned (l : List (String × Manager (driverOn M))) : List Thing :=
  l.flatMap fun x => (estate x.2).map (·.thing)

omit [M.Lawful] in
theorem nodup_estate (m : Manager (driverOn M)) : ((estate m).map (·.thing)).Nodup := by
  unfold estate
  split
  · cases m.callbacks <;> dsimp only [hostParts, Option.elim] <;> simp [Callbacks.parts]
  · exact .nil

omit [M.Lawful] in
theorem estate_of_closed {m : Manager (driverOn M)} (inst : m.inst = none) : estate m = [] := by
  unfold estate
  rw [inst]

/-- What managers own stands, and is owned by one of them only; what they borrow may be used. -/
structure Staffed (e : Env (driverOn M).State) (l : List (String × Manager (driverOn M))) : Prop where
  good : (State.api e.driver).Good
  custody : ∀ {x}, x ∈ l → Custody (State.api e.driver).trace x.2
  nodup : (owned l).Nodup
  known : ∀ {x} {o : Ownership Device}, x ∈ l → x.2.device = some o → o.handle.Known e.driver

namespace Staffed

variable {l l₁ l₂ : List (String × Manager (driverOn M))} {n : String} {m m' : Manager (driverOn M)}

omit [M.Lawful] in
theorem mem_owned {t : Thing} : t ∈ owned l ↔ ∃ x ∈ l, ∃ p ∈ estate x.2, p.thing = t := by
  simp only [owned, List.mem_flatMap, List.mem_map]

omit [M.Lawful] in
/-- What a manager owns is not owned by others. -/
theorem nodup_others (h : (owned (l₁ ++ (n, m) :: l₂)).Nodup) :
    (owned (l₁ ++ l₂)).Nodup ∧ ∀ t ∈ owned (l₁ ++ l₂), t ∉ (estate m).map (·.thing) := by
  simp only [owned, List.flatMap_append, List.flatMap_cons] at h ⊢
  obtain ⟨-, rest, apart⟩ := List.nodup_append.1 (List.perm_append_comm_assoc _ _ _ |>.nodup h)
  exact ⟨rest, fun t ht hmem => apart t hmem t ht rfl⟩

/-- Things are ended that no manager owns, and what is borrowed may still be used. -/
theorem of_goes (h : Staffed e l) (goes : Goes gone e e') (apart : ∀ t ∈ gone, t ∉ owned l)
    (lent : ∀ x ∈ l, Lent (State.api e'.driver).trace x.2) (ages : lifetimes.Ages e e') :
    Staffed e' l := by
  refine ⟨goes.after, fun {x} hx => ?_, h.nodup, fun hx ho => ages.known trivial (h.known hx ho)⟩
  exact (h.custody hx).of_goes goes (fun p hp hmem => apart _ hmem (mem_owned.2 ⟨x, hx, p, hp, rfl⟩))
    (lent x hx)

/-- Only objects are ended. -/
theorem of_goes_objects (h : Staffed e l) (goes : Goes gone e e') (objects : ∀ t ∈ gone, t.role = .object)
    (ages : lifetimes.Ages e e') : Staffed e' l :=
  ⟨goes.after, fun hx => (h.custody hx).of_goes_objects goes objects, h.nodup,
    fun hx ho => ages.known trivial (h.known hx ho)⟩

omit [M.Lawful] in
/-- A manager changes what it tracks. -/
theorem of_like (h : Staffed e (l₁ ++ (n, m) :: l₂)) (like : m.Like m') :
    Staffed e (l₁ ++ (n, m') :: l₂) := by
  have mem : (n, m) ∈ l₁ ++ (n, m) :: l₂ := List.mem_append_right _ List.mem_cons_self
  refine ⟨h.good, fun {x} hx => ?_, ?_, fun {x o} hx ho => ?_⟩
  · obtain rfl | hx := Session.mem_replace (a := (n, m)) hx
    · exact (h.custody mem).of_like like
    · exact h.custody hx
  · have nodup := h.nodup
    simp only [owned, List.flatMap_append, List.flatMap_cons] at nodup ⊢
    rwa [estate_like like]
  · obtain rfl | hx := Session.mem_replace (a := (n, m)) hx
    · exact h.known mem (like.device ▸ ho)
    · exact h.known hx ho

/-- A manager is made. -/
theorem of_addManager (h : Staffed e l)
    (yields : Yields (estate m) (State.api e.driver) (State.api e'.driver))
    (custody : Custody (State.api e'.driver).trace m) (ages : lifetimes.Ages e e')
    (known : ∀ o : Ownership Device, m.device = some o → o.handle.Known e'.driver) :
    Staffed e' (l ++ [(n, m)]) := by
  have old := h.of_goes_objects yields.goes (fun _ ht => nomatch ht) ages
  have cases {x} (hx : x ∈ l ++ [(n, m)]) : x ∈ l ∨ x = (n, m) := by
    rwa [List.mem_append, List.mem_singleton] at hx
  refine ⟨old.good, fun hx => ?_, ?_, fun {x o} hx ho => ?_⟩
  · rcases cases hx with hx | rfl
    · exact old.custody hx
    · exact custody
  · simp only [owned, List.flatMap_append, List.flatMap_singleton]
    refine List.nodup_append.2 ⟨h.nodup, nodup_estate m, fun t ht t' ht' heq => ?_⟩
    -- What a new manager owns has later handles than what is owned already.
    obtain ⟨x, hx, p, hp, rfl⟩ := mem_owned.1 ht
    obtain ⟨p', hp', rfl⟩ := List.mem_map.1 ht'
    have lt := h.good.lt_of_stands ((h.custody hx).stands p hp)
    have le := (yields.made p' hp').2
    rw [heq] at lt
    omega
  · rcases cases hx with hx | rfl
    · exact old.known hx ho
    · exact known o ho

/-- A manager is torn down. -/
theorem of_closes (h : Staffed e (l₁ ++ (n, m) :: l₂)) (goes : Goes ((estate m).map (·.thing)) e e')
    (lent : ∀ x ∈ l₁ ++ l₂, Lent (State.api e'.driver).trace x.2) (ages : lifetimes.Ages e e')
    (inst : m'.inst = none) (device : m'.device = none) : Staffed e' (l₁ ++ (n, m') :: l₂) := by
  have rest := nodup_others h.nodup
  refine ⟨goes.after, fun {x} hx => ?_, ?_, fun {x o} hx ho => ?_⟩
  · rcases Session.mem_around hx with rfl | hx
    · exact .closed inst device
    · refine (h.custody (Session.mem_of_around hx)).of_goes goes (fun p hp hmem => ?_) (lent x hx)
      exact rest.2 _ (mem_owned.2 ⟨x, hx, p, hp, rfl⟩) hmem
  · simpa [owned, estate_of_closed inst] using rest.1
  · rcases Session.mem_around hx with rfl | hx
    · cases device.symm.trans ho
    · exact ages.known trivial (h.known (Session.mem_of_around hx) ho)

omit [M.Lawful] in
/-- A manager goes that owns nothing. -/
theorem of_remove (h : Staffed e (l₁ ++ (n, m) :: l₂)) : Staffed e (l₁ ++ l₂) := by
  exact ⟨h.good, fun hx => h.custody (Session.mem_of_around hx), (nodup_others h.nodup).1,
    fun hx ho => h.known (Session.mem_of_around hx) ho⟩

end Staffed

end GpuCompute.Vulkan
