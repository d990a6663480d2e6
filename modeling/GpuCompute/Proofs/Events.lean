import Mathlib.Logic.Relation

/-!
# Sequences of events

What can be said of the events that a program leaves behind, oldest first, whatever an event is:
that each was right when it happened (`Always`), what was made and what was ended between two points
(`Reading.Enters`), and that nothing was made twice (`Reading.Issues`).
-/

namespace GpuCompute

/-! ## What holds whenever something happens -/

/-- Each event of a list is right after those before it. -/
def Always {ε : Type} (P : List ε → ε → Prop) (l : List ε) : Prop :=
  ∀ before event after, l = before ++ event :: after → P before event

namespace Always

variable {ε : Type} {P Q : List ε → ε → Prop} {l l' : List ε}

theorem nil : Always P [] := by
  intro before event after h
  simp at h

theorem mono (h : Always P l) (hPQ : ∀ before event, P before event → Q before event) :
    Always Q l := fun before event after hl => hPQ _ _ (h before event after hl)

/-- What is right only depends on the events, as long as nothing else precedes them. -/
theorem forall_iff {R : ε → Prop}
    (h : ∀ before event after, l = before ++ event :: after → (P before event ↔ R event)) :
    Always P l ↔ ∀ event ∈ l, R event := by
  constructor
  · intro always event mem
    obtain ⟨before, after, hl⟩ := List.append_of_mem mem
    exact (h before event after hl).1 (always before event after hl)
  · intro all before event after hl
    exact (h before event after hl).2 (all event (by simp [hl]))

theorem append_iff :
    Always P (l ++ l') ↔ Always P l ∧ Always (fun before => P (l ++ before)) l' := by
  constructor
  · intro h
    refine ⟨fun before event after hl => ?_, fun before event after hl => ?_⟩
    · exact h before event (after ++ l') (by rw [hl, List.append_assoc, List.cons_append])
    · exact h (l ++ before) event after (by rw [hl, List.append_assoc])
  · rintro ⟨h, h'⟩ before event after hl
    rcases List.append_eq_append_iff.1 hl with ⟨m, rfl, hm⟩ | ⟨m, rfl, hm⟩
    · exact h' m event after hm
    · cases m with
      | nil => simpa using h' [] event after (by simpa using hm.symm)
      | cons event' m =>
        rw [List.cons_append, List.cons.injEq] at hm
        obtain ⟨rfl, rfl⟩ := hm
        exact h before event m rfl

theorem singleton_iff {event : ε} : Always P [event] ↔ P [] event := by
  constructor
  · intro h
    exact h [] event [] rfl
  · rintro h (_ | ⟨e, before⟩) event' after hl
    · rw [List.nil_append, List.cons.injEq] at hl
      exact hl.1 ▸ h
    · simp at hl

theorem snoc_iff {event : ε} : Always P (l ++ [event]) ↔ Always P l ∧ P l event := by
  rw [append_iff, singleton_iff, List.append_nil]

end Always

/-! ## What events made and ended -/

/-- What a thing is for. -/
inductive Role
  | inst
  | callbacks
  | device
  /-- What resources have on a device. -/
  | object
  deriving DecidableEq

/-- How events are read: which thing an event made, given its position in the trace, and which things
it ended. -/
structure Reading (ε τ : Type) where
  made? : Nat → ε → Option τ
  ends : ε → List τ

namespace Reading

variable {ε τ : Type} (r : Reading ε τ)

/-- The things that events made, the first of which is at a position. -/
def made (position : Nat) (events : List ε) : List τ :=
  (events.zipIdx position).filterMap fun entry => r.made? entry.2 entry.1

/-- The things that events ended. -/
def ended (events : List ε) : List τ := events.flatMap r.ends

@[simp] theorem made_nil (position : Nat) : r.made position [] = [] := rfl

@[simp] theorem ended_nil : r.ended [] = [] := rfl

theorem made_append (position : Nat) (l l' : List ε) :
    r.made position (l ++ l') = r.made position l ++ r.made (position + l.length) l' := by
  rw [made, List.zipIdx_append, List.filterMap_append, made, made]

@[simp] theorem ended_append (l l' : List ε) : r.ended (l ++ l') = r.ended l ++ r.ended l' :=
  List.flatMap_append

theorem made_singleton (position : Nat) (event : ε) :
    r.made position [event] = (r.made? position event).toList := by
  cases h : r.made? position event <;> simp [made, h]

theorem ended_singleton (event : ε) : r.ended [event] = r.ends event := by simp [ended]

/-- Between two traces, of which the first is the beginning of the second, `born` was made and `gone`
was ended, in this order. -/
def Enters (born gone : List τ) (l l' : List ε) : Prop :=
  ∃ events, l' = l ++ events ∧ r.made l.length events = born ∧ r.ended events = gone

/-- What was made was ended again; it was at most one thing, which satisfies `P`. -/
def Withdraws (P : τ → Prop) (l l' : List ε) : Prop :=
  ∃ (thing : Option τ) (m : List ε), (∀ t ∈ thing, P t) ∧ r.Enters thing.toList [] l m ∧
    r.Enters [] thing.toList m l'

variable {r} {born born' gone gone' : List τ} {l l' l'' : List ε}

theorem Enters.refl (l : List ε) : r.Enters [] [] l l := ⟨[], by simp⟩

theorem Enters.trans (h : r.Enters born gone l l') (h' : r.Enters born' gone' l' l'') :
    r.Enters (born ++ born') (gone ++ gone') l l'' := by
  obtain ⟨events, rfl, rfl, rfl⟩ := h
  obtain ⟨events', rfl, rfl, rfl⟩ := h'
  refine ⟨events ++ events', by rw [List.append_assoc], ?_, r.ended_append _ _⟩
  rw [made_append, List.length_append]

theorem Enters.of_append (event : ε) (l : List ε) :
    r.Enters (r.made? l.length event).toList (r.ends event) l (l ++ [event]) :=
  ⟨[event], rfl, r.made_singleton _ _, r.ended_singleton _⟩

/-! ## Numbers -/

variable {number : τ → Nat} {k m n : Nat}

/-- Between two traces only things with numbers from `m` on and below `n` were made, none of them
twice. -/
def Issues (r : Reading ε τ) (number : τ → Nat) (m n : Nat) (l l' : List ε) : Prop :=
  m ≤ n ∧ ∃ events, l' = l ++ events ∧ (r.made l.length events).Nodup ∧
    ∀ t ∈ r.made l.length events, m ≤ number t ∧ number t < n

namespace Issues

theorem refl (m : Nat) (l : List ε) : r.Issues number m m l l :=
  ⟨Nat.le_refl m, [], (List.append_nil l).symm, by simp, by simp⟩

theorem trans (h : r.Issues number k m l l') (h' : r.Issues number m n l' l'') :
    r.Issues number k n l l'' := by
  obtain ⟨hkm, events, rfl, nodup, range⟩ := h
  obtain ⟨hmn, events', rfl, nodup', range'⟩ := h'
  rw [List.length_append] at nodup' range'
  refine ⟨Nat.le_trans hkm hmn, events ++ events', List.append_assoc _ _ _, ?_, ?_⟩ <;>
    rw [made_append]
  · refine List.nodup_append.2 ⟨nodup, nodup', ?_⟩
    rintro t ht _ ht' rfl
    exact Nat.lt_irrefl _ (Nat.lt_of_lt_of_le (range t ht).2 (range' t ht').1)
  · intro t ht
    rcases List.mem_append.1 ht with ht | ht
    · exact ⟨(range t ht).1, Nat.lt_of_lt_of_le (range t ht).2 hmn⟩
    · exact ⟨Nat.le_trans hkm (range' t ht).1, (range' t ht).2⟩

/-- One event, which makes at most a thing with the next number. -/
theorem of_append {event : ε} (h : ∀ t, r.made? l.length event = some t → m ≤ number t ∧ number t < n)
    (hmn : m ≤ n) : r.Issues number m n l (l ++ [event]) := by
  refine ⟨hmn, [event], rfl, ?_, ?_⟩ <;> rw [made_singleton]
  · cases r.made? l.length event <;> simp
  · simpa using h

/-- If the number of a thing is the place in the trace of the event that made it, any events issue
numbers in order. -/
theorem of_positions (h : ∀ position event t, r.made? position event = some t → number t = position)
    (l events : List ε) : r.Issues number l.length (l ++ events).length l (l ++ events) := by
  induction events generalizing l with
  | nil =>
    rw [List.append_nil]
    exact .refl _ l
  | cons event events ih =>
    have first : r.Issues number l.length (l ++ [event]).length l (l ++ [event]) :=
      .of_append (fun t ht => by rw [h _ _ t ht]; simp) (by simp)
    have rest := ih (l ++ [event])
    rw [List.append_assoc, List.singleton_append] at rest
    exact first.trans rest

end Issues

end Reading

end GpuCompute
