import GpuCompute.InMemory.Session
import GpuCompute.Proofs.Driving
import GpuCompute.Proofs.Managers
import GpuCompute.Proofs.Negotiations

/-!
# Queues of managers

A manager has a queue for each entry of its list of families: the one that the driver gave for the
family, at the number of earlier entries of the same family. This stays so as long as the manager has
a device, whatever is done, and so a sequence is either refused because there are not as many queues,
or made for the family and the queue at the index that was asked for (`Session.queue_indexing`).
-/

namespace GpuCompute

/-! ## Slots -/

namespace Queue

/-- The next index of a family; 0 if the family was not met. -/
def Counters.next (counters : Counters) (family : UInt32) : UInt32 :=
  (counters.lookup family).getD 0

theorem Counters.next_cons (c : UInt32 × UInt32) (counters : Counters) (family : UInt32) :
    Counters.next (c :: counters) family = if family = c.1 then c.2 else counters.next family := by
  rw [next, List.lookup_cons]
  split
  case h_1 same => rw [if_pos (beq_iff_eq.1 same)]; rfl
  case h_2 other => rw [if_neg (ne_of_beq_false other), next]

theorem Counters.draw_index (counters : Counters) (family : UInt32) :
    (counters.draw family).1 = counters.next family := by
  induction counters with
  | nil => rfl
  | cons c counters ih =>
    rw [draw, next_cons]
    by_cases same : c.1 = family
    · rw [if_pos same, if_pos same.symm]
    · rw [if_neg same, if_neg (Ne.symm same)]
      exact ih

/-- An index that is given out counts for its family and for no other. -/
theorem Counters.next_draw (counters : Counters) (family f : UInt32) :
    Counters.next (counters.draw family).2 f =
      if f = family then counters.next f + 1 else counters.next f := by
  induction counters with
  | nil =>
    rw [draw, next_cons]
    rfl
  | cons c counters ih =>
    rw [draw, next_cons]
    by_cases same : c.1 = family
    · rw [if_pos same, next_cons, same]
      split <;> rfl
    · rw [if_neg same, next_cons, ih]
      by_cases met : f = c.1
      · rw [if_pos met, if_pos met, if_neg (met ▸ same)]
      · rw [if_neg met, if_neg met]

/-- Counters count the families before an entry: the next index of each is how many of them there were. -/
def Counters.Count (counters : Counters) (before : List UInt32) : Prop :=
  ∀ family, counters.next family = .ofNat (before.count family)

theorem Counters.count_nil : Counters.Count [] [] := fun _ => rfl

theorem Counters.Count.of_draw {counters : Counters} {before : List UInt32} (h : counters.Count before)
    (family : UInt32) : Counters.Count (counters.draw family).2 (family :: before) := by
  intro f
  rw [next_draw, h f, List.count_cons]
  by_cases same : f = family
  · rw [if_pos same, if_pos (beq_iff_eq.2 same.symm), UInt32.ofNat_add]
    rfl
  · rw [if_neg same, if_neg fun h => same (beq_iff_eq.1 h).symm, Nat.add_zero]

/-- The slots of families of which those in `before` precede them: each at the number of entries of its
family before it. -/
def slotsAfter (before : List UInt32) : List UInt32 → List (UInt32 × UInt32)
  | [] => []
  | family :: rest =>
    (family, UInt32.ofNat (before.count family)) :: slotsAfter (family :: before) rest

/-- What the counters give out is how often a family was met. -/
theorem slotsFrom_eq {counters : Counters} {before : List UInt32} (h : counters.Count before)
    (families : List UInt32) : slotsFrom counters families = slotsAfter before families := by
  induction families generalizing counters before with
  | nil => rfl
  | cons family rest ih =>
    rw [slotsAfter, ← ih (h.of_draw family), ← h family, ← Counters.draw_index]
    rfl

theorem slots_eq (families : List UInt32) : slots families = slotsAfter [] families :=
  slotsFrom_eq Counters.count_nil families

theorem length_slotsAfter (before families : List UInt32) :
    (slotsAfter before families).length = families.length := by
  induction families generalizing before with
  | nil => rfl
  | cons family rest ih => rw [slotsAfter, List.length_cons, ih, List.length_cons]

/-- The slot of an entry, by what precedes it. -/
theorem getElem?_slotsAfter (before families : List UInt32) (k : Nat) :
    (slotsAfter before families)[k]? =
      families[k]?.map fun f => (f, .ofNat (before.count f + (families.take k).count f)) := by
  induction families generalizing before k with
  | nil => rfl
  | cons family rest ih =>
    cases k with
    | zero => simp [slotsAfter]
    | succ k =>
      rw [slotsAfter, List.getElem?_cons_succ, ih, List.getElem?_cons_succ]
      refine congrArg (Option.map · rest[k]?) (funext fun f => ?_)
      rw [List.take_succ_cons, List.count_cons, List.count_cons]
      congr 2
      omega

theorem length_slots (families : List UInt32) : (slots families).length = families.length := by
  rw [slots_eq, length_slotsAfter]

theorem getElem?_slots (families : List UInt32) (k : Nat) :
    (slots families)[k]? =
      families[k]?.map fun f => (f, .ofNat ((families.take k).count f)) := by
  rw [slots_eq, getElem?_slotsAfter]
  simp

example : slots [2, 0, 2] = [(2, 0), (0, 0), (2, 1)] := rfl

end Queue

variable {d : Driver} {device : d.Device} {families : List UInt32} {queues : List Queue.Handle}
  {l l' : Transcript d}

/-! ## What a transcript says of queues -/

/-- There is a queue for each family, and the driver gave it. -/
structure Indexed (device : d.Device) (families : List UInt32) (queues : List Queue.Handle)
    (l : Transcript d) : Prop where
  length_eq : queues.length = families.length
  given : ∀ k family queue, families[k]? = some family → queues[k]? = some queue →
    .queue device family (.ofNat ((families.take k).count family)) queue ∈ l

theorem Indexed.mono (h : Indexed device families queues l) (hl : l ⊆ l') :
    Indexed device families queues l' :=
  ⟨h.length_eq, fun k family queue hf hq => hl (h.given k family queue hf hq)⟩

namespace Bootstrap.Fetches

variable {slots : List (UInt32 × UInt32)}

theorem length_eq (h : Fetches device slots queues l) : queues.length = slots.length := by
  induction h with
  | nil => rfl
  | cons h ih => rw [List.length_cons, ih, List.length_cons]

theorem queue_mem (h : Fetches device slots queues l) {k : Nat} {slot : UInt32 × UInt32}
    {queue : Queue.Handle} (hs : slots[k]? = some slot) (hq : queues[k]? = some queue) :
    .queue device slot.1 slot.2 queue ∈ l := by
  induction h generalizing k with
  | nil => cases hs
  | cons h ih =>
    cases k with
    | zero =>
      cases hs
      cases hq
      exact .head _
    | succ k => exact .tail _ (ih hs hq)

theorem to_indexed (h : Fetches device (Queue.slots families) queues l) :
    Indexed device families queues l where
  length_eq := h.length_eq.trans (Queue.length_slots families)
  given k family queue hf hq := by
    have slot : (Queue.slots families)[k]? =
        some (family, .ofNat ((families.take k).count family)) := by
      rw [Queue.getElem?_slots, hf]
      rfl
    exact h.queue_mem slot hq

end Bootstrap.Fetches

/-! ## Transcripts grow -/

namespace Driver

open Scribe

variable {e e' : Env d.transcribed.State}

/-- A transcript is the beginning of another one. -/
def Continues (e e' : Env d.transcribed.State) : Prop :=
  e.driver.transcript <+: e'.driver.transcript

theorem continues_ask {α : Type} (x : Except Error α → Exchange d) (call : Act d.State α)
    (e : Env (Scribe d)) : Continues e ((ask x call).after e) := by
  obtain ⟨l, said, -⟩ := Says.ask x call e
  exact ⟨l, said.symm⟩

theorem continues_note (x : Exchange d) (inner : Env d.State) (e : Env (Scribe d)) :
    Continues e (note x inner e) := ⟨[x], rfl⟩

theorem continues_make (x : d.transcribed.Device) (order : Order d.transcribed)
    (e : Env d.transcribed.State) : Continues e ((d.transcribed.make x order).after e) := by
  cases order <;>
  · rw [Driver.make, Attempt.after_map]
    exact continues_ask _ _ e

theorem continues_drives (h : d.transcribed.Drives e e') : Continues e e' := by
  refine h.induct (P := Continues e) (fun e₁ e₂ h ih => ih.trans ?_) (List.prefix_refl _)
  cases h with
  | passes h =>
    cases h with
    | asks h =>
      cases h with
      | log => exact List.prefix_refl _
      | instanceExtensions | instanceLayers | adapters | deviceExtensions => exact continues_ask _ _ _
      | properties | queueFamilies | queue => exact continues_note _ _ _
    | createInstance | registerCallbacks => exact continues_ask _ _ _
    | unregisterCallbacks | destroyInstance => exact continues_note _ _ _
    | refusesDevice failed => exact Attempt.after_of_error failed ▸ continues_ask _ _ _
    | make x order => exact continues_make x order _
    | unmake x object => cases object <;> exact continues_note _ _ _
  | creates made => exact Attempt.after_of_ok made ▸ continues_ask _ _ _
  | ends h => cases h <;> exact continues_note _ _ _

end Driver

/-! ## Managers -/

namespace Manager

open Bootstrap

variable {m m' : Manager d.transcribed} {config : Config} {selection : Selection}
  {e e' : Env d.transcribed.State}

/-- As long as a manager has a device, it has the queues of its families. -/
def HasQueues (l : Transcript d) (m : Manager d.transcribed) : Prop :=
  ∀ device, m.device = some device → Indexed (d := d) device.handle m.families m.queues l

theorem HasQueues.mono (h : m.HasQueues l) (hl : l ⊆ l') : m.HasQueues l' :=
  fun device hd => (h device hd).mono hl

theorem HasQueues.of_like (h : m.HasQueues l) (like : m.Like m') : m'.HasQueues l := by
  intro device hd
  rw [like.families, like.queues]
  exact h device (like.device ▸ hd)

theorem hasQueues_of_closed (closed : m.device = none) : m.HasQueues l := by
  intro device hd
  rw [closed] at hd
  cases hd

theorem hasQueues_create (h : create d.transcribed config selection e = .ok m e') :
    m.HasQueues e'.driver.transcript := by
  obtain ⟨l, said, opens⟩ := (says_create (d := d) config selection).of_ok h
  intro device hd
  cases opens with
  | made _ opens _ has families queues =>
    cases has.symm.trans hd
    cases opens with
    | made _ fetched =>
      rw [families, queues, said]
      refine fetched.to_indexed.mono fun x hx => ?_
      simp only [List.mem_append, List.mem_cons, hx, or_true]

theorem hasQueues_borrow {inst : d.Instance} {adapter : AdapterHandle} {device : d.Device}
    (h : borrow (d := d.transcribed) config inst adapter device families e = .ok m e') :
    m.HasQueues e'.driver.transcript := by
  obtain ⟨l, said, fetched⟩ := fetches_fetchFrom (d := d) device [] families e
  cases h
  rintro _ ⟨⟩
  refine fetched.to_indexed.mono fun x hx => ?_
  change x ∈ (fetchFrom d.transcribed device [] families e).2.driver.transcript
  rw [said]
  exact List.mem_append_right _ hx

end Manager

namespace Session

open Manager

variable {s s' : Session d.transcribed} {m : Manager d.transcribed}

/-- What was said to the driver of a session. -/
abbrev transcript (s : Session d.transcribed) : Transcript d := s.pool.env.driver.transcript

/-- All managers have their queues. -/
abbrev AllHaveQueues (s : Session d.transcribed) : Prop := s.AllManagers (HasQueues s.transcript)

theorem AllManagers.hasQueues_of_continues {e e' : Env d.transcribed.State}
    (all : s.AllManagers (HasQueues e.driver.transcript)) (h : Driver.Continues e e') :
    s.AllManagers (HasQueues e'.driver.transcript) :=
  fun name m found => (all name m found).mono h.subset

theorem hasQueues_addManager (hs : s.Named) (all : s.AllHaveQueues) (n : String)
    {make : Act d.transcribed.State (Manager d.transcribed)}
    (grows : Driver.Continues s.pool.env (make.after s.pool.env))
    (new : ∀ m e, make s.pool.env = .ok m e → m.HasQueues e.driver.transcript) :
    ((addManager n make).after s).AllHaveQueues := by
  rw [after_addManager]
  have all := all.hasQueues_of_continues grows
  cases made : make s.pool.env with
  | ok m e =>
    rw [Attempt.after_of_ok made] at all
    have stored := AllManagers.of_store (s := s.withEnv e) all (new m e made) n
    exact stored.hasQueues_of_continues (Driver.continues_drives
      (driven_storeManager (s := s.withEnv e) ⟨hs.managers, hs.held⟩ n m))
  | error error e =>
    rw [Attempt.after_of_error made] at all
    exact all

theorem like_clear (m : Manager d) (p : Pool d) : m.Like (m.clear p).1 := by
  obtain same | ⟨m', record, same, like, -⟩ := clear_cases m p <;> rw [same]
  · exact .refl m
  · exact like

theorem device_destroy (m : Manager d) (p : Pool d) : (m.destroy p).1.device = none := by
  cases hd : m.device with
  | none =>
    unfold Manager.destroy
    rw [hd]
    exact hd
  | some device => exact (destroy_of_device hd p).1

/-- The manager that made a resource is as before apart from what it tracks. -/
theorem managers_addResource {n name : String} {identify : Nat → ResourceId} {tensors : List Nat}
    {make : Manager d → Attempt (Pool d) (Nat × Manager d)}
    (produces : ∀ m, Produces m identify tensors (make m)) (s : Session d) :
    ((addResource n name identify make).after s).managers = s.managers ∨
      ∃ m m', s.managers.lookup n = some m ∧ m.Like m' ∧
        ((addResource n name identify make).after s).managers = update n m' s.managers := by
  rw [after_addResource]
  cases hm : s.managers.lookup n with
  | none => exact .inl rfl
  | some m =>
    dsimp only
    split
    · next made =>
      obtain ⟨_, _, _, _, _, registers, -⟩ := (produces m).ok made
      exact .inr ⟨m, _, rfl, registers.like, rfl⟩
    · exact .inl rfl

theorem hasQueues_step (hs : s.Named) (all : s.AllHaveQueues) (o : Operation) :
    ((step o).after s).AllHaveQueues := by
  have grows := Driver.continues_drives (driven_step hs o)
  have effect := effect_step o s
  have all' := all.hasQueues_of_continues grows
  generalize (step o).after s = s' at grows effect all'
  cases effect with
  | aside h => exact fun name m found => all' name m (h.managers ▸ found)
  | handles => exact all'
  | creates n config selection =>
    exact hasQueues_addManager hs all n (Driver.continues_drives (Manager.drives_create _ _ _))
      fun m e => hasQueues_create
  | borrows =>
    exact hasQueues_addManager hs all _ (Driver.continues_drives (Manager.drives_borrow _ _ _ _ _ _))
      fun m e => hasQueues_borrow
  | makes _ _ produces =>
    obtain same | ⟨m, m', hm, like, same⟩ := managers_addResource produces s
    · exact fun name m found => all' name m (same ▸ found)
    · exact all'.of_update hm ((all' _ m hm).of_like like) same
  | @clears n m hm =>
    exact all'.of_update hm ((all' n m hm).of_like (like_clear m s.pool)) rfl
  | @closes n m hm => exact all'.of_update hm (hasQueues_of_closed (device_destroy m s.pool)) rfl
  | drops n => exact all'.of_without (managers_dropManager n s)

theorem hasQueues_steps (hs : s.Named) (all : s.AllHaveQueues) (os : List Operation) :
    (steps os s).AllHaveQueues := by
  induction os generalizing s with
  | nil => exact all
  | cons o os ih => exact ih (named_step hs o) (hasQueues_step hs all o)

end Session

/-! ## Sequences -/

namespace Manager

variable {m : Manager d.transcribed} {p p' : Pool d.transcribed} {x : Ownership d.Device}

theorem queueAt_of_le {index : UInt64} (same : m.queues.length = m.families.length)
    (h : m.queues.length ≤ index.toNat) :
    m.queueAt index = .error (.invalidQueueIndex index.toNat m.queues.length) := by
  unfold queueAt
  rw [List.getElem?_eq_none]
  rw [List.length_zip, ← same, Nat.min_self]
  exact h

theorem queueAt_of_lt {index : UInt64} (same : m.queues.length = m.families.length)
    (h : index.toNat < m.queues.length) :
    ∃ queue family, m.queueAt index = .ok (queue, family) ∧ m.queues[index.toNat]? = some queue ∧
      m.families[index.toNat]? = some family := by
  have hq := List.getElem?_eq_getElem h
  have hf := List.getElem?_eq_getElem (same ▸ h)
  have both := List.getElem?_zip_eq_some (z := (m.queues[index.toNat], m.families[index.toNat])).2 ⟨hq, hf⟩
  refine ⟨_, _, ?_, hq, hf⟩
  unfold queueAt
  rw [both]

/-- The pool after a sequence was asked for, before anything is decided. -/
def announced (index : UInt64) (p : Pool d) : Pool d :=
  p.onEnv (.write { level := .debug, message := "creating sequence",
                    fields := [("queue_index", toString index.toNat)] })

theorem sequence_of_error {m : Manager d} {x : Ownership d.Device} (hd : m.device = some x)
    {index : UInt64} {error : Error} (h : m.queueAt index = .error error) (timestamps : UInt32)
    (p : Pool d) : m.sequence index timestamps p = .error error (announced index p) := by
  unfold sequence
  rw [liveDevice, hd, h]
  rfl

theorem sequence_of_ok {m : Manager d} {x : Ownership d.Device} (hd : m.device = some x)
    {index : UInt64} {queue : Queue.Handle} {family : UInt32}
    (h : m.queueAt index = .ok (queue, family)) (timestamps : UInt32) (p : Pool d) :
    m.sequence index timestamps p = (do
      let i ← Pool.addSequence x.handle m.adapter queue family timestamps
      return (i, if m.config.manageResources then { m with sequences := m.sequences.register i }
        else m)) (announced index p) := by
  unfold sequence
  rw [liveDevice, hd, h]
  rfl

/-- What the driver answers when it is asked for a batch, and what comes of it. -/
structure Asks (m : Manager d.transcribed) (device : d.Device) (queue : Queue.Handle)
    (family timestamps : UInt32) (p : Pool d.transcribed)
    (act : Attempt (Pool d.transcribed) (Nat × Manager d.transcribed))
    (answer : Except Error d.Batch) : Prop where
  said : (act.after p).env.driver.transcript =
    p.env.driver.transcript ++ [.createBatch device family timestamps answer]
  failed : ∀ error, answer = .error error → (act.outcome p).1 = .error error
  made : ∀ batch, answer = .ok batch →
    (∃ m', (act.outcome p).1 = .ok (p.sequences.length, m')) ∧
    (act.after p).sequences = p.sequences ++
      [{ adapter := m.adapter, queue, family, timestamps,
         batch := { device, object := some batch } }]

theorem asks_sequence (hd : m.device = some x) {index : UInt64} {queue : Queue.Handle}
    {family : UInt32} (h : m.queueAt index = .ok (queue, family)) (timestamps : UInt32)
    (p : Pool d.transcribed) :
    ∃ answer, Asks m x.handle queue family timestamps p (m.sequence index timestamps) answer := by
  have eq := sequence_of_ok hd h timestamps p
  cases made : Pool.addSequence (d := d.transcribed) x.handle m.adapter queue family timestamps
    (announced index p) with
  | ok i p' =>
    rw [Attempt.bind_of_ok made] at eq
    obtain ⟨sequence, p₁, h₁, h⟩ := Attempt.bind_eq_ok.1 made
    obtain ⟨e, created, rfl⟩ := Attempt.within_eq_ok.1 h₁
    cases h
    obtain ⟨batch, e', asked, h⟩ := Attempt.bind_eq_ok.1 created
    cases h
    obtain ⟨_, said, rfl⟩ := (Says.ask _ _).of_ok asked
    refine ⟨.ok batch, ?_, by rintro _ ⟨⟩, ?_⟩
    · rw [Attempt.after_of_ok eq]
      exact said
    · rintro _ ⟨⟩
      rw [Attempt.outcome, Attempt.after_of_ok eq, eq]
      exact ⟨⟨_, rfl⟩, rfl⟩
  | error error p' =>
    rw [Attempt.bind_of_error made] at eq
    rcases Attempt.bind_eq_error.1 made with h₁ | ⟨sequence, p₁, h₁, h⟩
    · obtain ⟨e, failed, rfl⟩ := Attempt.within_eq_error.1 h₁
      rcases Attempt.bind_eq_error.1 failed with asked | ⟨_, _, _, h⟩
      · obtain ⟨_, said, rfl⟩ := (Says.ask _ _).of_error asked
        refine ⟨.error error, ?_, ?_, by rintro _ ⟨⟩⟩
        · rw [Attempt.after_of_error eq]
          exact said
        · rintro _ ⟨⟩
          rw [Attempt.outcome, eq]
      · cases h
    · cases h

/-- The queues of a manager with a device, and what comes of asking it for a sequence. -/
structure Serves (m : Manager d.transcribed) (device : d.Device) (p : Pool d.transcribed) : Prop where
  indexed : Indexed device m.families m.queues p.env.driver.transcript
  /-- An index is refused, and the driver not called, just if there are not as many queues. -/
  refused : ∀ index timestamps, m.queues.length ≤ index.toNat ↔
    ∃ p', m.sequence index timestamps p =
      .error (.invalidQueueIndex index.toNat m.queues.length) p' ∧ p'.env.driver = p.env.driver
  /-- At any other index there are a queue and its family, and the sequence is for these. -/
  asked : ∀ index timestamps, index.toNat < m.queues.length → ∃ queue family answer,
    m.queues[index.toNat]? = some queue ∧ m.families[index.toNat]? = some family ∧
    Asks m device queue family timestamps p (m.sequence index timestamps) answer

theorem serves_of_hasQueues (hd : m.device = some x)
    (h : m.HasQueues p.env.driver.transcript) : Serves m x.handle p := by
  have indexed := h x hd
  have asked (index timestamps) (lt : index.toNat < m.queues.length) : ∃ queue family answer,
      m.queues[index.toNat]? = some queue ∧ m.families[index.toNat]? = some family ∧
      Asks m x.handle queue family timestamps p (m.sequence index timestamps) answer := by
    obtain ⟨queue, family, found, hq, hf⟩ := queueAt_of_lt indexed.length_eq lt
    obtain ⟨answer, asks⟩ := asks_sequence hd found timestamps p
    exact ⟨queue, family, answer, hq, hf, asks⟩
  refine ⟨indexed, fun index timestamps => ⟨fun le => ?_, ?_⟩, asked⟩
  · exact ⟨announced index p,
      sequence_of_error hd (queueAt_of_le indexed.length_eq le) timestamps p, rfl⟩
  · rintro ⟨p', failed, same⟩
    refine Nat.not_lt.1 fun lt => ?_
    -- A batch would have been asked for.
    obtain ⟨_, _, _, -, -, asks⟩ := asked index timestamps lt
    have said := asks.said
    rw [Attempt.after_of_error failed, same] at said
    simp at said

end Manager

/-! ## Runs -/

namespace Session

open Manager

/-- **Queue indices are safe.** Whatever was done, a manager that has a device has one queue for each of
its families, which the driver gave for this family and the number of its earlier entries. A sequence
at an index is refused without a call if there are not as many queues, and only then; otherwise the
driver is asked for a batch of the family at the index, and the sequence has this family and the queue
at the index. -/
theorem queue_indexing (driver : d.State) (os : List Operation) {name : String}
    {m : Manager d.transcribed} {device : Ownership d.Device}
    (hm : (steps os (start ⟨driver, []⟩ : Session d.transcribed)).managers.lookup name = some m)
    (hd : m.device = some device) :
    Serves m device.handle (steps os (start ⟨driver, []⟩ : Session d.transcribed)).pool := by
  have all : (steps os (start ⟨driver, []⟩ : Session d.transcribed)).AllHaveQueues :=
    hasQueues_steps (named_start _) nofun os
  exact serves_of_hasQueues hd (all name m hm)

/-- A manager with two queues of one family and one of another. -/
def threeQueues : List Operation := [.createManager "m" {} { families := [2, 0, 2] }]

/-- A driver with one adapter. -/
def serving : InMemory.driver.State :=
  ({ offer := { adapters := [⟨InMemory.plainProperties none 1, [], []⟩] } } : InMemory.State)

theorem queue_indexing_threeQueues :
    let s := steps threeQueues (start ⟨serving, []⟩ : Session InMemory.driver.transcribed)
    ∃ m device, s.managers.lookup "m" = some m ∧ m.device = some device ∧
      m.families = [2, 0, 2] ∧ m.queues.length = 3 ∧ Serves m device.handle s.pool := by
  intro s
  obtain ⟨m, device, hm, hd, families, queues⟩ : ∃ m device, s.managers.lookup "m" = some m ∧
      m.device = some device ∧ m.families = [2, 0, 2] ∧ m.queues.length = 3 :=
    ⟨_, _, rfl, rfl, rfl, rfl⟩
  exact ⟨m, device, hm, hd, families, queues, queue_indexing serving threeQueues hm hd⟩

end Session

end GpuCompute
