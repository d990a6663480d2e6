import GpuCompute.Proofs.Objects

/-!
# Letting go

When a name lets go of a resource, the pool destroys what nothing holds any more: the resource, and
after an algorithm those of its tensors that nothing else holds. `Pool.reap_withHeld` says that this
is a number of destructions after which nothing that lost its last holder still has its object.
-/

namespace GpuCompute.Pool

variable {d : Driver} {p q q' : Pool d} {r : ResourceId} {holders : List (String × ResourceId)}

/-- The pool with other holders. -/
def withHeld (holders : List (String × ResourceId)) (p : Pool d) : Pool d := { p with held := holders }

@[simp] theorem env_withHeld (holders : List (String × ResourceId)) (p : Pool d) :
    (p.withHeld holders).env = p.env := rfl

@[simp] theorem slot?_withHeld (holders : List (String × ResourceId)) (p : Pool d) :
    (p.withHeld holders).slot? = p.slot? := rfl

@[simp] theorem isInit_withHeld (holders : List (String × ResourceId)) (p : Pool d) :
    (p.withHeld holders).isInit = p.isInit := by
  funext r
  cases r <;> rfl

@[simp] theorem keeps_withHeld (holders : List (String × ResourceId)) (p : Pool d) :
    (p.withHeld holders).keeps = p.keeps := rfl

theorem withHeld_self (p : Pool d) : p.withHeld p.held = p := rfl

/-- Destroying a resource has nothing to do with who holds what. -/
theorem destroy_withHeld (r : ResourceId) (holders : List (String × ResourceId)) (p : Pool d) :
    (p.withHeld holders).destroy r = (p.destroy r).withHeld holders := by
  cases r with
  | tensor i =>
    change (p.withHeld holders).destroyTensor i = (p.destroyTensor i).withHeld holders
    unfold destroyTensor
    cases h : p.tensors[i]? <;> simp only [withHeld, h]
  | algorithm i =>
    change (p.withHeld holders).destroyAlgorithm i = (p.destroyAlgorithm i).withHeld holders
    unfold destroyAlgorithm
    cases h : p.algorithms[i]? <;> simp only [withHeld, h]
  | sequence i =>
    change (p.withHeld holders).destroySequence i = (p.destroySequence i).withHeld holders
    unfold destroySequence
    cases h : p.sequences[i]? <;> simp only [withHeld, h]

/-! ## Holders -/

/-- What keeps one resource keeps another: they are the same, or the first binds the second. -/
def Carries (p : Pool d) (holder r : ResourceId) : Prop :=
  holder = r ∨ ∃ t, r = .tensor t ∧ p.keeps t holder

theorem isHeld_iff : p.isHeld r ↔ ∃ x ∈ p.held, p.Carries x.2 r := by
  unfold isHeld isNamed Carries
  rw [Bool.or_eq_true, List.any_eq_true]
  constructor
  · rintro (⟨x, hx, h⟩ | h)
    · exact ⟨x, hx, .inl (beq_iff_eq.1 h)⟩
    · cases r with
      | tensor t =>
        obtain ⟨x, hx, h⟩ := List.any_eq_true.1 h
        exact ⟨x, hx, .inr ⟨t, rfl, h⟩⟩
      | algorithm i | sequence i => cases h
  · rintro ⟨x, hx, rfl | ⟨t, rfl, h⟩⟩
    · exact .inl ⟨x, hx, beq_self_eq_true _⟩
    · exact .inr (List.any_eq_true.2 ⟨x, hx, h⟩)

/-- Only algorithms bind anything, and only tensors are bound. -/
theorem Carries.trans {r₁ r₂ r₃ : ResourceId} (h : p.Carries r₁ r₂) (h' : p.Carries r₂ r₃) :
    p.Carries r₁ r₃ := by
  rcases h with rfl | ⟨t, rfl, h⟩
  · exact h'
  · rcases h' with rfl | ⟨t', rfl, h'⟩
    · exact .inr ⟨t, rfl, h⟩
    · cases h'

theorem isHeld_of_carries {r' : ResourceId} (h : p.isHeld r) (hc : p.Carries r r') : p.isHeld r' := by
  obtain ⟨x, hx, hr⟩ := isHeld_iff.1 h
  exact isHeld_iff.2 ⟨x, hx, hr.trans hc⟩

/-! ## Destructions -/

theorem isInit_destroy (r : ResourceId) (p : Pool d) : (p.destroy r).isInit r = false := by
  rw [isInit_eq, (empties_destroy r p).slot]
  cases p.slot? r <;> simp

/-- Any number of resources are destroyed, and records are written in between. -/
def Destroys : Pool d → Pool d → Prop := Relation.ReflTransGen fun p q =>
  (∃ r, q = p.destroy r) ∨ ∃ record, q = p.onEnv (.write record)

namespace Destroys

theorem refl (p : Pool d) : p.Destroys p := Relation.ReflTransGen.refl

theorem of_destroy (r : ResourceId) (p : Pool d) : p.Destroys (p.destroy r) := .single (.inl ⟨r, rfl⟩)

theorem write (record : Log.Record) (p : Pool d) : p.Destroys (p.onEnv (.write record)) :=
  .single (.inr ⟨record, rfl⟩)

theorem trans (h : p.Destroys q) (h' : q.Destroys q') : p.Destroys q' :=
  Relation.ReflTransGen.trans h h'

theorem held_eq (h : p.Destroys q) : q.held = p.held := by
  induction h with
  | refl => rfl
  | tail _ h ih =>
    rcases h with ⟨r, rfl⟩ | ⟨record, rfl⟩
    · rw [(empties_destroy r _).held, ih]
    · exact ih

theorem keeps_eq (h : p.Destroys q) : q.keeps = p.keeps := by
  induction h with
  | refl => rfl
  | tail _ h ih =>
    rcases h with ⟨r, rfl⟩ | ⟨record, rfl⟩
    · rw [(empties_destroy r _).keeps, ih]
    · exact ih

theorem isHeld_withHeld (h : p.Destroys q) (holders : List (String × ResourceId)) :
    (q.withHeld holders).isHeld = (p.withHeld holders).isHeld := isHeld_congr rfl h.keeps_eq

theorem isHeld (h : p.Destroys q) : q.isHeld = p.isHeld := isHeld_congr h.held_eq h.keeps_eq

/-- What was destroyed does not come back. -/
theorem isInit (h : p.Destroys q) (hr : q.isInit r) : p.isInit r := by
  induction h with
  | refl => exact hr
  | @tail p₁ _ _ h ih =>
    rcases h with ⟨r', rfl⟩ | ⟨record, rfl⟩
    · refine ih ?_
      have e := empties_destroy r' p₁
      rw [isInit_eq] at hr ⊢
      by_cases h : r = r'
      · subst h
        rw [e.slot] at hr
        cases hs : p₁.slot? r <;> simp [hs] at hr
      · rwa [e.others r h] at hr
    · rw [isInit_eq] at hr
      exact ih (isInit_eq p₁ r ▸ hr)

/-- What is preserved when objects are destroyed. -/
theorem driver {P : d.State → Prop} (h : p.Destroys q) (start : P p.env.driver)
    (unmake : ∀ x object e, P e.driver → P (d.unmake x object e).driver) : P q.env.driver := by
  induction h with
  | refl => exact start
  | @tail q _ _ h ih =>
    rcases h with ⟨r, rfl⟩ | ⟨record, rfl⟩
    · rcases driver_destroy r q with ⟨same, -⟩ | ⟨s, x, -, -, -, same⟩
      · exact same ▸ ih
      · exact same ▸ unmake s.device x q.env ih
    · exact ih

theorem isInit_eq_false (h : p.Destroys q) (hr : p.isInit r = false) : q.isInit r = false :=
  Bool.eq_false_iff.2 fun hinit => by simp [h.isInit hinit] at hr

end Destroys

/-! ## Reaping -/

theorem foldl_reapTensor (holders : List (String × ResourceId)) (tensors : List Nat) (p : Pool d) :
    ∃ q, tensors.foldl reapTensor (p.withHeld holders) = q.withHeld holders ∧ p.Destroys q ∧
      ∀ t ∈ tensors, (p.withHeld holders).isHeld (.tensor t) = false →
        q.isInit (.tensor t) = false := by
  induction tensors generalizing p with
  | nil => exact ⟨p, rfl, .refl p, by simp⟩
  | cons t tensors ih =>
    by_cases ht : (p.withHeld holders).isHeld (.tensor t)
    · obtain ⟨q, hq, hpq, hgone⟩ := ih p
      refine ⟨q, ?_, hpq, fun t' ht' h => ?_⟩
      · rw [List.foldl_cons, reapTensor, if_pos ht, hq]
      · rcases List.mem_cons.1 ht' with rfl | ht'
        · rw [ht] at h
          cases h
        · exact hgone t' ht' h
    · obtain ⟨q, hq, hpq, hgone⟩ := ih (p.destroy (.tensor t))
      have one := Destroys.of_destroy (.tensor t) p
      refine ⟨q, ?_, one.trans hpq, fun t' ht' h => ?_⟩
      · rw [List.foldl_cons, reapTensor, if_neg ht, ← hq, ← destroy_withHeld]
        rfl
      · rcases List.mem_cons.1 ht' with rfl | ht'
        · exact hpq.isInit_eq_false (isInit_destroy _ p)
        · exact hgone t' ht' (by rwa [one.isHeld_withHeld])

/-- If nothing holds what is reaped, it is gone, and so is what only it held. -/
theorem reap_cases (old : ResourceId) (holders : List (String × ResourceId)) (p : Pool d) :
    ∃ q, (p.withHeld holders).reap old = q.withHeld holders ∧ p.Destroys q ∧
      ((p.withHeld holders).isHeld old = false → ∀ r, p.Carries old r →
        (p.withHeld holders).isHeld r = false → q.isInit r = false) := by
  by_cases hold : (p.withHeld holders).isHeld old
  · refine ⟨p, ?_, .refl p, by simp [hold]⟩
    unfold reap
    rw [if_pos hold]
  · cases old with
    | tensor i =>
      refine ⟨p.destroy (.tensor i), ?_, .of_destroy _ p, fun _ r hr _ => ?_⟩
      · unfold reap
        rw [if_neg hold]
        exact destroy_withHeld _ holders p
      · rcases hr with rfl | ⟨t, rfl, h⟩
        · exact isInit_destroy _ p
        · cases h
    | sequence i =>
      refine ⟨p.destroy (.sequence i), ?_, .of_destroy _ p, fun _ r hr _ => ?_⟩
      · unfold reap
        rw [if_neg hold]
        exact destroy_withHeld _ holders p
      · rcases hr with rfl | ⟨t, rfl, h⟩
        · exact isInit_destroy _ p
        · cases h
    | algorithm i =>
      have one := Destroys.of_destroy (.algorithm i) p
      obtain ⟨q, hq, hpq, hgone⟩ := foldl_reapTensor holders
        ((p.algorithms[i]?).elim [] (·.tensors)) (p.destroy (.algorithm i))
      refine ⟨q, ?_, one.trans hpq, fun _ r hr hlost => ?_⟩
      · unfold reap
        rw [if_neg hold, ← hq, ← destroy_withHeld]
        rfl
      · rcases hr with rfl | ⟨t, rfl, hkeeps⟩
        · exact hpq.isInit_eq_false (isInit_destroy _ p)
        · refine hgone t ?_ (by rwa [one.isHeld_withHeld])
          obtain ⟨a, ha, hc⟩ := (Option.any_eq_true _ _).1 hkeeps
          rw [ha]
          simpa using hc

/-- Holders are taken away from one resource only, which is then reaped: what still has its object
still has a holder. -/
theorem reap_withHeld (old : ResourceId) (p : Pool d)
    (hsub : ∀ x ∈ p.held, x ∈ holders ∨ x.2 = old) :
    ∃ q, (p.withHeld holders).reap old = q.withHeld holders ∧ p.Destroys q ∧
      ∀ r, q.isInit r → q.isHeld r → (q.withHeld holders).isHeld r := by
  obtain ⟨q, hq, hpq, hgone⟩ := reap_cases old holders p
  refine ⟨q, hq, hpq, fun r hinit hheld => ?_⟩
  rw [hpq.isHeld] at hheld
  rw [hpq.isHeld_withHeld]
  obtain ⟨x, hx, hr⟩ := isHeld_iff.1 hheld
  rcases hsub x hx with hx | hx
  · exact isHeld_iff.2 ⟨x, hx, hr⟩
  · rw [hx] at hr
    cases hold : (p.withHeld holders).isHeld old with
    | true => exact isHeld_of_carries (p := p.withHeld holders) hold hr
    | false =>
      cases hlost : (p.withHeld holders).isHeld r with
      | true => rfl
      | false =>
        rw [hgone hold r hr hlost] at hinit
        cases hinit

end GpuCompute.Pool
