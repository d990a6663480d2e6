import GpuCompute.Proofs.Closing
import GpuCompute.Proofs.Requests

/-!
# Managers on a borrowed device

A manager that borrows its device destroys neither the device nor what others made on it, but when it is
torn down it releases the device, which is then not alive for anybody. What this means for the other
managers of the device is stated by `Session.borrower_teardown`: they and their resources stay as they
are, and they go on to ask the driver for what they asked before, but nothing that is on the device is
passed to the driver again, also not by the manager that owns the device.
-/

namespace GpuCompute

open Trace Recorder

variable {d : Driver} {life : d.Lifetimes}

/-! ## What a teardown leaves alone -/

namespace Pool

variable {p p' p'' : Pool d} {l l' : List ResourceId} {r : ResourceId}

/-- Some resources may be destroyed; holders and other resources stay as they are. -/
structure Frame (l : List ResourceId) (p p' : Pool d) : Prop where
  held : p'.held = p.held
  keeps : p'.keeps = p.keeps
  slots : ∀ r ∉ l, p'.slot? r = p.slot? r
  length : p'.tensors.length = p.tensors.length
  tensors : ∀ i, .tensor i ∉ l → p'.tensors[i]? = p.tensors[i]?

namespace Frame

theorem of_withEnv (l : List ResourceId) (e : Env d.State) (p : Pool d) : p.Frame l (p.withEnv e) :=
  ⟨rfl, rfl, fun _ _ => rfl, rfl, fun _ _ => rfl⟩

theorem trans (h : p.Frame l p') (h' : p'.Frame l p'') : p.Frame l p'' :=
  ⟨h'.held.trans h.held, h'.keeps.trans h.keeps, fun r hr => (h'.slots r hr).trans (h.slots r hr),
    h'.length.trans h.length, fun i hi => (h'.tensors i hi).trans (h.tensors i hi)⟩

theorem isHeld (h : p.Frame l p') : p'.isHeld = p.isHeld := isHeld_congr h.held h.keeps

theorem destroy (hr : r ∈ l) (p : Pool d) : p.Frame l (p.destroy r) := by
  have empties := empties_destroy r p
  have tensors : (p.destroy r).tensors.length = p.tensors.length ∧
      ∀ i, .tensor i ≠ r → (p.destroy r).tensors[i]? = p.tensors[i]? := by
    cases r with
    | tensor j =>
      cases hj : p.tensors[j]? with
      | none =>
        have same : p.destroy (.tensor j) = p := by simp [Pool.destroy, destroyTensor, hj]
        rw [same]
        exact ⟨rfl, fun _ _ => rfl⟩
      | some t =>
        change (destroyTensor j p).tensors.length = _ ∧ ∀ i, _ → (destroyTensor j p).tensors[i]? = _
        rw [destroyTensor_of_some hj]
        refine ⟨List.length_set, fun i hi => List.getElem?_set_ne ?_⟩
        rintro rfl
        exact hi rfl
    | algorithm j =>
      change (destroyAlgorithm j p).tensors.length = _ ∧ ∀ i, _ → (destroyAlgorithm j p).tensors[i]? = _
      unfold destroyAlgorithm
      cases p.algorithms[j]? <;> exact ⟨rfl, fun _ _ => rfl⟩
    | sequence j =>
      change (destroySequence j p).tensors.length = _ ∧ ∀ i, _ → (destroySequence j p).tensors[i]? = _
      unfold destroySequence
      cases p.sequences[j]? <;> exact ⟨rfl, fun _ _ => rfl⟩
  refine ⟨empties.held, empties.keeps, fun r' hr' => empties.others r' ?_, tensors.1, fun i hi =>
    tensors.2 i ?_⟩ <;> rintro rfl
  · exact hr' hr
  · exact hi hr

theorem destroyEach (h : ∀ r ∈ l', r ∈ l) (p : Pool d) : p.Frame l (p.destroyEach l') := by
  induction l' generalizing p with
  | nil => exact of_withEnv l p.env p
  | cons r l' ih =>
    exact (destroy (h r List.mem_cons_self) p).trans
      (ih (fun r' hr' => h r' (List.mem_cons_of_mem _ hr')) _)

theorem destroyRegistered (kind : String) {identify : Nat → ResourceId} {registry : Registry Nat}
    (h : ∀ r ∈ registry.entries.map identify, r ∈ l) (p : Pool d) :
    p.Frame l (Manager.destroyRegistered kind identify registry p) := by
  obtain ⟨record, heq⟩ := destroyRegistered_eq kind identify registry p
  rw [heq]
  exact (destroyEach (fun r hr => h r (List.mem_filter.1 hr).1) p).trans (of_withEnv l _ _)

/-- Tearing a manager down destroys at most what it tracks. -/
theorem destroyManager {m : Manager d} (h : ∀ kind, ∀ r ∈ m.tracked kind, r ∈ l) (p : Pool d) :
    p.Frame l (m.destroy p).2 := by
  have tracked (p : Pool d) : p.Frame l (m.destroyTracked p) :=
    ((destroyRegistered "sequences" (h .batch) p).trans
      (destroyRegistered "algorithms" (h .pipeline) _)).trans
      (destroyRegistered "tensors" (h .buffer) _)
  cases hd : m.device with
  | none =>
    unfold Manager.destroy
    rw [hd]
    exact of_withEnv l _ p
  | some device =>
    rw [(Session.destroy_of_device hd p).2.2]
    refine trans ?_ (of_withEnv l _ _)
    unfold Session.cleared
    split
    · exact (of_withEnv l _ p).trans (tracked _)
    · exact of_withEnv l _ p

end Frame

theorem On.of_grows {device : d.Device} (h : p.On device l) (hp : p.Grows p') : p'.On device l := by
  intro r hr
  obtain ⟨slot, hs, on⟩ := h r hr
  obtain ⟨slot', hs', same, -⟩ := hp r slot hs
  exact ⟨slot', hs', same.trans on⟩

end Pool

/-! ## Teardown after a device has ended -/

namespace Manager

variable {m : Manager d.recorded} {p q : Pool d.recorded} {mine : List ResourceId}
  {device : Ownership d.recorded.Device}

/-- What is left on a device that has ended is given up without calls. -/
theorem driver_destroyTracked_of_ended (account : p.Accounted life) (h : m.Roster p mine)
    (hd : m.device = some device) (ended : Ended p.env.driver.trace device.handle.id) :
    (m.destroyTracked p).env.driver = p.env.driver := by
  have one (kind : String) (identify : Nat → ResourceId) (registry : Registry Nat)
      (on : p.On device.handle (registry.entries.map identify)) {q : Pool d.recorded}
      (destroys : p.Destroys q) (same : q.env.driver = p.env.driver) :
      p.Destroys (destroyRegistered kind identify registry q) ∧
        (destroyRegistered kind identify registry q).env.driver = p.env.driver := by
    refine ⟨destroys.trans (Session.destroys_registered kind identify registry q).1, ?_⟩
    obtain ⟨record, heq⟩ := Pool.destroyRegistered_eq kind identify registry q
    rw [heq, ← same]
    have on := (on.of_grows (.of_destroys destroys)).sublist
      (List.filter_sublist : (List.filter q.isHeld _).Sublist _)
    exact Pool.driver_destroyEach_of_ended (account.of_destroys destroys) on (same.symm ▸ ended)
  obtain ⟨destroys₁, same₁⟩ := one "sequences" .sequence m.sequences (h.on_tracked hd .batch) (.refl p) rfl
  obtain ⟨destroys₂, same₂⟩ :=
    one "algorithms" .algorithm m.algorithms (h.on_tracked hd .pipeline) destroys₁ same₁
  exact (one "tensors" .tensor m.tensors (h.on_tracked hd .buffer) destroys₂ same₂).2

/-- A manager whose device has ended only lets go of its device and its instance. -/
theorem trace_destroy_of_ended (account : p.Accounted life) (h : m.Roster p mine)
    (hd : m.device = some device) (ended : Ended p.env.driver.trace device.handle.id)
    {inst : Ownership d.recorded.Instance} (hi : m.inst = some inst) :
    (m.destroy p).2.env.driver.trace = p.env.driver.trace ++ farewells device inst m.callbacks := by
  rw [(Session.destroy_of_device hd p).2.2, Pool.env_withEnv, trace_shut_of_inst hi]
  congr 2
  unfold Session.cleared
  split
  · have started : (p.onEnv (.write
        { level := .debug, message := "manager destroy started" })).Accounted life :=
      account.of_idles (.refl _) rfl
    exact driver_destroyTracked_of_ended started (h.of_grows (.of_eq rfl)) hd ended
  · rfl

/-- The calls by which a manager is torn down that borrows its device and its instance. -/
theorem trace_destroy_of_borrowed (account : p.Accounted life) (h : m.Roster p mine)
    {x : d.recorded.Device} (hd : m.device = some (.borrowed x)) (hx : x ∈ p.env.driver.devices)
    {inst : d.recorded.Instance} (hi : m.inst = some (.borrowed inst)) :
    (m.destroy p).2.env.driver.trace = p.env.driver.trace ++
      (if m.config.manageResources ∧ d.recorded.isAlive x p.env.driver then
        p.destructions x.id (remains p mine) else []) ++ [⟨.releaseDevice x.id, true⟩] := by
  have none : m.callbacks = none := by
    obtain ⟨inst', hi', callbacks⟩ := h.equipped (by simp [hd])
    cases hi.symm.trans hi'
    simpa [Ownership.isOwned] using callbacks
  have alive := account.sane.alive x hx
  by_cases ended : Ended p.env.driver.trace x.id
  · rw [trace_destroy_of_ended account h hd ended hi, none, if_neg fun h => alive.1 h.2 ended,
      List.append_nil]
    rfl
  · rw [trace_destroy account h hd ended hi, teardown, none, List.append_assoc]
    simp only [alive.2 ended, and_true]
    rfl

end Manager

namespace Session

open Manager

/-! ## Two managers -/

section Apart

variable {s s' : Session d} {o : Operation} {name : String} {m : Manager d}
  {mine mine' : List ResourceId}

/-- Only an operation that asks the manager for a resource adds to what it has made. -/
theorem asks_of_createdAfter {r : ResourceId} (h : createdAfter name o s mine = mine ++ [r]) :
    ∃ holder, asks? o = some (name, holder) := by
  unfold createdAfter at h
  split at h
  · split at h <;> simp at h
  · next _ holder _ ha =>
    split at h
    · next hn => exact ⟨holder, hn ▸ ha⟩
    · simp at h
  · simp at h

/-- A manager is new after an operation, or it was there before and has made at most one resource. -/
theorem Fares.cases {mine' : List ResourceId} (h : Fares name s s' mine m mine') :
    mine' = [] ∨ (s.managers.lookup name).isSome ∧
      (mine' = mine ∨ ∃ r, s.pool.slot? r = none ∧ mine' = mine ++ [r]) := by
  cases h with
  | comes new => exact .inl rfl
  | makes hm _ fresh => exact .inr ⟨by simp [hm], .inr ⟨_, fresh, rfl⟩⟩
  | stays hm | prunes hm | closes hm => exact .inr ⟨by simp [hm], .inl rfl⟩

/-- What is made now was not made before. -/
theorem Enrolled.not_mem (h : Enrolled name s mine) (hm : (s.managers.lookup name).isSome)
    {r : ResourceId} (fresh : s.pool.slot? r = none) : r ∉ mine := by
  obtain ⟨m, hm⟩ := Option.isSome_iff_exists.1 hm
  intro hr
  obtain ⟨slot, hs, -⟩ := (h.roster hm).placed r hr
  rw [fresh] at hs
  cases hs

/-- Two managers have made nothing in common. -/
def Apart (n₁ n₂ : String) (s : Session d) (mine₁ mine₂ : List ResourceId) : Prop :=
  (s.managers.lookup n₁).isSome → (s.managers.lookup n₂).isSome → mine₁.Disjoint mine₂

variable {n₁ n₂ : String} {mine₁ mine₂ : List ResourceId}

theorem Apart.step (h : Apart n₁ n₂ s mine₁ mine₂) (hne : n₁ ≠ n₂) (h₁ : Enrolled n₁ s mine₁)
    (h₂ : Enrolled n₂ s mine₂) (o : Operation) : Apart n₁ n₂ ((Session.step o).after s)
      (createdAfter n₁ o s mine₁) (createdAfter n₂ o s mine₂) := by
  intro open₁ open₂
  obtain ⟨m₁, hm₁⟩ := Option.isSome_iff_exists.1 open₁
  obtain ⟨m₂, hm₂⟩ := Option.isSome_iff_exists.1 open₂
  rcases (fares_step o s mine₁ hm₁).cases with none₁ | ⟨old₁, more₁⟩
  · rw [none₁]
    exact List.disjoint_nil_left _
  rcases (fares_step o s mine₂ hm₂).cases with none₂ | ⟨old₂, more₂⟩
  · rw [none₂]
    exact List.disjoint_nil_right _
  have before := h old₁ old₂
  rcases more₁ with same₁ | ⟨r₁, fresh₁, more₁⟩ <;> rcases more₂ with same₂ | ⟨r₂, fresh₂, more₂⟩
  · rw [same₁, same₂]
    exact before
  · rw [same₁, more₂, List.disjoint_append_right, List.disjoint_singleton]
    exact ⟨before, h₁.not_mem old₁ fresh₂⟩
  · rw [more₁, same₂, List.disjoint_append_left, List.singleton_disjoint]
    exact ⟨before, h₂.not_mem old₂ fresh₁⟩
  · obtain ⟨_, ha₁⟩ := asks_of_createdAfter more₁
    obtain ⟨_, ha₂⟩ := asks_of_createdAfter more₂
    rw [ha₁] at ha₂
    cases ha₂
    exact absurd rfl hne

theorem apart_from (h : Apart n₁ n₂ s mine₁ mine₂) (hne : n₁ ≠ n₂) (h₁ : Enrolled n₁ s mine₁)
    (h₂ : Enrolled n₂ s mine₂) (os : List Operation) :
    Apart n₁ n₂ (steps os s) (createdFrom n₁ os s mine₁) (createdFrom n₂ os s mine₂) := by
  induction os generalizing s mine₁ mine₂ with
  | nil => exact h
  | cons o os ih => exact ih (h.step hne h₁ h₂ o) (h₁.step o) (h₂.step o)

/-- Managers under two names have made nothing in common. -/
theorem apart_steps (hne : n₁ ≠ n₂) (driver : d.State) (os : List Operation) :
    Apart n₁ n₂ (steps os (start driver)) (created n₁ os (start driver))
      (created n₂ os (start driver)) :=
  apart_from (fun _ _ => List.disjoint_nil_left _) hne (enrolled_start n₁ driver)
    (enrolled_start n₂ driver) os

end Apart

/-! ## Traces only grow -/

section Growth

variable {P : Permit d.recorded} {s s' s'' : Session d.recorded} {l : List (Manager d.recorded)}

/-- Calls were added to the trace, and no device is forgotten. -/
structure Extends (s s' : Session d.recorded) : Prop where
  trace : ∃ T, s'.trace = s.trace ++ T
  devices : ∀ x ∈ s.pool.env.driver.devices, x ∈ s'.pool.env.driver.devices

theorem Extends.of_eq (h : s'.pool.env.driver = s.pool.env.driver) : Extends s s' :=
  ⟨⟨[], by rw [List.append_nil, Session.trace, h]⟩, fun _ hx => h ▸ hx⟩

theorem Extends.trans (h : Extends s s') (h' : Extends s' s'') : Extends s s'' := by
  obtain ⟨T, hT⟩ := h.trace
  obtain ⟨T', hT'⟩ := h'.trace
  exact ⟨⟨T ++ T', by rw [hT', hT, List.append_assoc]⟩, fun x hx => h'.devices x (h.devices x hx)⟩

theorem Extends.of_spares (h : s.pool.env.driver.Spares life s'.pool.env.driver) : Extends s s' := by
  obtain ⟨T, hT, -⟩ := h.trace
  exact ⟨⟨T, hT⟩, h.devices⟩

theorem extends_move (account : s.Accounted life) (h : Move P s l s') : Extends s s' := by
  have idled {e : Env d.recorded.State} (h : d.recorded.Idled s.pool.env e) :
      s.pool.env.driver.Spares life e.driver := (idles_idled h).spares
  cases h with
  | turns turn => exact .of_spares (idled (idled_turn turn))
  | creates made =>
    obtain ⟨idles, -⟩ : s.pool.env.driver.Idles life _ ∧ _ := idles_creates made
    exact .of_spares idles.spares
  | borrows hi hx may made => exact .of_spares (idled (.of_asked made.asked))
  | @makes n name m m' l₁ l₂ device order r p hm hd may made =>
    obtain ⟨T₁, T₂, x, hT, -⟩ := made.trace_append life
    have devices : ∀ x ∈ s.pool.env.driver.devices, x ∈ p.env.driver.devices :=
      Pool.devices_makes life made
    exact ⟨⟨_, hT⟩, devices⟩
  | destroys r =>
    exact ⟨(Pool.Destroys.of_destroy r s.pool).trace_append,
      fun x hx => (Pool.devices_destroy r s.pool).symm ▸ hx⟩
  | @closes n m m' l₁ l₂ device hm hd =>
    have known := account.managers (hm ▸ List.mem_append_right _ List.mem_cons_self) hd
    have spares : s.pool.env.driver.Spares life (m.shut device s.pool.env).driver :=
      spares_shut known
    exact .of_spares spares
  | lendsInstance may made => exact .of_spares (idled (.of_ok (.createInstance _ _) made))
  | lendsDevice hi may made =>
    obtain ⟨idles, -⟩ : s.pool.env.driver.Idles life _ ∧ _ := idles_createDevice made
    exact .of_spares idles.spares
  | endsInstance | releasesDevice | endsDevice => exact ⟨⟨_, rfl⟩, fun _ hx => hx⟩
  | _ => exact .of_eq rfl

theorem extends_moves (account : s.Accounted life) (h : Moves P s l s') : Extends s s' := by
  induction h with
  | nil => exact .of_eq rfl
  | cons h _ ih => exact (extends_move account h).trans (ih (account.of_move h))

/-- The account is kept by each run, whose calls are added to the trace. -/
theorem onward_steps (account : s.Accounted life) (named : s.Named) {os : List Operation}
    (hplain : ∀ c, .call c ∈ os → plain c) :
    (steps os s).Accounted life ∧ (steps os s).Named ∧ Extends s (steps os s) := by
  have obs := observesAll_lending (d := d.recorded) (fun _ => True)
    (fun c hc => ⟨hplain c hc, trivial⟩) s
  obtain ⟨moves, named⟩ := reaches_steps named obs
  exact ⟨account.of_moves moves, named, extends_moves account moves⟩

end Growth

/-! ## Requests of other managers -/

section Requests

variable {s s' : Session d} {o : Operation} {n holder : String} {l : List ResourceId}

theorem guards_congr {find? find?' : Nat → Option (Tensor d)} {tensors : List Nat}
    (h : ∀ i ∈ tensors, find?' i = find? i) (position : Nat) :
    Algorithm.guards find?' position tensors = Algorithm.guards find? position tensors := by
  induction tensors generalizing position with
  | nil => rfl
  | cons i tensors ih =>
    unfold Algorithm.guards
    rw [h i List.mem_cons_self, ih (fun j hj => h j (List.mem_cons_of_mem _ hj))]

theorem bindings_congr {find? find?' : Nat → Option (Tensor d)} {tensors : List Nat}
    (h : ∀ i ∈ tensors, find?' i = find? i) (guards : List (Option d.Buffer)) :
    Algorithm.bindings find?' guards tensors = Algorithm.bindings find? guards tensors := by
  refine List.filterMap_congr fun entry hentry => ?_
  simp only [h entry.2 (List.of_mem_zip hentry).2]

theorem algorithmRequest_congr {p p' : Pool d} {tensors : List Nat}
    (h : ∀ i ∈ tensors, p'.tensors[i]? = p.tensors[i]?) (m : Manager d) (code : List UInt32)
    (workgroup : Extent) (pushConstants : List UInt8) :
    m.algorithmRequest p' tensors code workgroup pushConstants =
      m.algorithmRequest p tensors code workgroup pushConstants := by
  unfold algorithmRequest Algorithm.request
  simp only [guards_congr h, bindings_congr h]

theorem defaultRequest_congr {p p' : Pool d} {tensors : List Nat}
    (h : ∀ i ∈ tensors, p'.tensors[i]? = p.tensors[i]?) (m : Manager d) (code : List UInt32) :
    m.defaultRequest p' tensors code = m.defaultRequest p tensors code := by
  have leading : leadingCount p' tensors = leadingCount p tensors := by
    cases tensors with
    | nil => rfl
    | cons i tensors => simp only [leadingCount, List.head?_cons, Option.bind_some,
        h i List.mem_cons_self]
  unfold defaultRequest
  simp only [leading, algorithmRequest_congr h]

theorem tensorNumbers_congr (frame : s.pool.Frame l s'.pool) (names : List String) :
    s'.tensorNumbers names = s.tensorNumbers names := by
  have number (name : String) : (s'.tensor? name).map (·.1) = (s.tensor? name).map (·.1) := by
    have some (p : Pool d) (i : Nat) : (p.tensors[i]?.map fun t => (i, t)).map (·.1) =
        if i < p.tensors.length then some i else none := by
      by_cases hi : i < p.tensors.length
      · simp [hi]
      · simp [hi]
    unfold tensor? Pool.find?
    rw [frame.held]
    cases s.pool.held.lookup name with
    | none => rfl
    | some r =>
      cases r with
      | tensor i =>
        dsimp only
        rw [some, some, frame.length]
      | algorithm i | sequence i => rfl
  induction names with
  | nil => rfl
  | cons name names ih =>
    have number := number name
    unfold tensorNumbers
    rw [ih]
    cases h : s.tensor? name <;> cases h' : s'.tensor? name <;> simp only [h, h', Option.map_some,
      Option.map_none, reduceCtorEq, Option.some.injEq] at number ⊢
    rw [number]

/-- A manager asks for the same, unless it is to bind what may have been destroyed. -/
theorem request?_congr (hm : s'.managers.lookup n = s.managers.lookup n)
    (frame : s.pool.Frame l s'.pool) (ha : asks? o = some (n, holder))
    (spared : ∀ n names numbers, binding? o = some (n, names) → s.tensorNumbers names = .ok numbers →
      ∀ i ∈ numbers, .tensor i ∉ l) : s'.request? o = s.request? o := by
  cases o with
  | tensor | tensorOfBytes | sequence =>
    cases ha
    simp only [request?, hm]
  | algorithm | algorithmWith =>
    cases ha
    simp only [request?, hm, tensorNumbers_congr frame]
    cases hnumbers : s.tensorNumbers _ with
    | error tensor => rfl
    | ok numbers =>
      have same (i) (hi : i ∈ numbers) := frame.tensors i (spared _ _ _ rfl hnumbers i hi)
      simp only [Except.toOption, Option.bind_some, defaultRequest_congr same,
        algorithmRequest_congr same]
  | _ => cases ha

/-- What a manager does not know is said before it is asked for anything. -/
theorem step_of_unknown {m : Manager d} (hm : s.managers.lookup n = some m)
    (ha : asks? o = some (n, holder)) (h : s.request? o = none) : ∃ n names tensor,
      binding? o = some (n, names) ∧ s.tensorNumbers names = .error tensor ∧
      step o s = .ok (.unknown tensor) s := by
  cases o with
  | tensor | tensorOfBytes | sequence =>
    cases ha
    simp [request?, hm] at h
  | algorithm n name names code | algorithmWith n name names code workgroup pushConstants =>
    cases ha
    cases hnumbers : s.tensorNumbers names with
    | error tensor =>
      refine ⟨n, names, tensor, rfl, hnumbers, ?_⟩
      change addAlgorithm _ _ names _ s = _
      unfold addAlgorithm
      rw [Attempt.get_bind, hnumbers]
      rfl
    | ok numbers => simp [request?, hm, hnumbers, Except.toOption] at h
  | _ => cases ha

end Requests

section Alike

variable {s s' : Session d.recorded} {o : Operation} {n holder : String} {l : List ResourceId}

/-- An operation passes a request to the driver, and succeeds if the driver does. -/
def Asks (o : Operation) (s : Session d.recorded) (request : Request) : Prop :=
  ∃ succeeded T, ((step o).after s).trace = s.trace ++ ⟨request, succeeded⟩ :: T ∧ Discards T ∧
    (succeeded = true → ((step o).outcome s).1 = .ok .created)

/-- An operation does the same in two sessions, up to what the driver makes of it: it gives the same
answer without a call, or it passes the same request to the driver. -/
inductive Alike (o : Operation) (s s' : Session d.recorded) : Prop
  | answers (same : ((step o).outcome s').1 = ((step o).outcome s).1)
    (quiet : ((step o).after s).trace = s.trace) (quiet' : ((step o).after s').trace = s'.trace)
  | asks {request : Request} (h : Asks o s request) (h' : Asks o s' request)

theorem asks_of_request {device : d.recorded.Device} {order : Order d.recorded}
    (h : s.request? o = some (.ok (device, order))) : Asks o s (.create device.id order.creation) := by
  rcases step_of_request h with ⟨s', T, hstep, discards, trace⟩ | ⟨error, s', hstep, trace⟩
  · refine ⟨true, T, Attempt.after_of_ok hstep ▸ trace, discards, fun _ => ?_⟩
    unfold Attempt.outcome
    rw [hstep]
  · exact ⟨false, [], Attempt.after_of_error hstep ▸ trace, nofun, nofun⟩

theorem alike_of_frame {m : Manager d.recorded} (hm : s.managers.lookup n = some m)
    (hm' : s'.managers.lookup n = some m) (frame : s.pool.Frame l s'.pool)
    (ha : asks? o = some (n, holder))
    (spared : ∀ n names numbers, binding? o = some (n, names) → s.tensorNumbers names = .ok numbers →
      ∀ i ∈ numbers, .tensor i ∉ l) : Alike o s s' := by
  have same := request?_congr (hm'.trans hm.symm) frame ha spared
  have answers (answer : Except Error (Reply d.recorded)) {s₁ s₁' : Session d.recorded}
      (h : (step o).outcome s = (answer, s₁)) (h' : (step o).outcome s' = (answer, s₁'))
      (quiet : s₁.trace = s.trace) (quiet' : s₁'.trace = s'.trace) : Alike o s s' := by
    refine .answers ?_ ?_ ?_
    · rw [h, h']
    · rwa [Attempt.after, h]
    · rwa [Attempt.after, h']
  cases hr : s.request? o with
  | none =>
    obtain ⟨_, names, tensor, hb, hnumbers, hstep⟩ := step_of_unknown hm ha hr
    obtain ⟨_, names', tensor', hb', hnumbers', hstep'⟩ := step_of_unknown hm' ha (same.trans hr)
    cases hb.symm.trans hb'
    rw [tensorNumbers_congr frame, hnumbers] at hnumbers'
    cases hnumbers'
    refine answers (.ok (.unknown tensor)) ?_ ?_ rfl rfl
    · rw [Attempt.outcome, hstep]
    · rw [Attempt.outcome, hstep']
  | some v =>
    cases v with
    | error error =>
      obtain ⟨s₁, hstep, quiet⟩ := step_of_refused hr
      obtain ⟨s₁', hstep', quiet'⟩ := step_of_refused (same.trans hr)
      refine answers (.error error) ?_ ?_ (congrArg (·.trace) quiet)
        (congrArg (·.trace) quiet')
      · rw [Attempt.outcome, hstep]
      · rw [Attempt.outcome, hstep']
    | ok asked => exact .asks (asks_of_request hr) (asks_of_request (same.trans hr))

end Alike

/-! ## Runs -/

theorem lookup_teardown {s : Session d} {name other : String} {o : Operation} (hne : other ≠ name)
    (ho : o = .destroyManager name ∨ o = .dropManager name) :
    ((step o).after s).managers.lookup other = s.managers.lookup other := by
  rcases ho with rfl | rfl
  · unfold step
    rw [after_withManager]
    cases s.managers.lookup name with
    | none => rfl
    | some m => exact lookup_update_of_ne hne _ _
  · rw [managers_step_dropManager]
    exact lookup_without_of_ne hne _

/-- When a manager is torn down whose device has ended, no resource is passed to the driver. -/
theorem teardown_of_ended {s : Session d.recorded} (account : s.Accounted life) {name : String}
    {mine : List ResourceId} (enrolled : Enrolled name s mine) {m : Manager d.recorded}
    (hm : s.managers.lookup name = some m) {device : Ownership d.recorded.Device}
    (hd : m.device = some device) (ended : Ended s.trace device.handle.id) :
    ∃ inst, m.inst = some inst ∧ ∀ o, o = .destroyManager name ∨ o = .dropManager name →
      ((step o).after s).trace = s.trace ++ farewells device inst m.callbacks := by
  have roster := enrolled.roster hm
  obtain ⟨inst, hi, -⟩ := roster.equipped (by simp [hd])
  refine ⟨inst, hi, fun o ho => ?_⟩
  rw [trace, trace_teardown hm (by simp [hd]) ho]
  exact trace_destroy_of_ended account.pool roster hd ended hi

/-- **A manager that borrows its device ends it for all.** After any run, a manager that borrows device
and instance is destroyed or dropped. The calls are those that destroy what is left of what it has made,
if it manages resources and the device is alive, and one that releases the device. Any other manager stays
as it is, and so do its resources and their holders; and it goes on to ask the driver for the same, as
long as it is not given tensors of the one that was torn down. But from then on the device is not alive:
a manager of this device that is torn down later, be it the owner, passes none of its resources to the
driver. -/
theorem borrower_teardown (life : d.Lifetimes) {inner : d.State} (sound : life.Sound inner)
    {ops : List Operation} (hplain : ∀ c, .call c ∈ ops → plain c) :
    let s := recordedRun inner ops
    let mine name := created name ops (recordedStart inner)
    ∀ name m device inst, s.managers.lookup name = some m → m.device = some (.borrowed device) →
      m.inst = some (.borrowed inst) →
    ∀ o, o = .destroyManager name ∨ o = .dropManager name →
    let s' := (step o).after s
    s'.trace = s.trace ++ (if m.config.manageResources ∧ d.recorded.isAlive device s.pool.env.driver
        then s.pool.destructions device.id (remains s.pool (mine name)) else []) ++
      [⟨.releaseDevice device.id, true⟩] ∧
    (∀ other owner, other ≠ name → s.managers.lookup other = some owner →
      s'.managers.lookup other = some owner ∧
      (∀ r ∈ mine other, s'.pool.slot? r = s.pool.slot? r ∧ s'.pool.isHeld r = s.pool.isHeld r) ∧
      ∀ o' holder, asks? o' = some (other, holder) →
        (∀ n names numbers, binding? o' = some (n, names) → s.tensorNumbers names = .ok numbers →
          ∀ i ∈ numbers, .tensor i ∉ mine name) → Alike o' s s') ∧
    ∀ later, (∀ c, .call c ∈ later → plain c) →
      let s'' := steps later s'
      d.recorded.isAlive device s''.pool.env.driver = false ∧
      ∀ other owner held, s''.managers.lookup other = some owner → owner.device = some held →
        held.handle = device → ∃ inst, owner.inst = some inst ∧
          ∀ o', o' = .destroyManager other ∨ o' = .dropManager other →
            ((step o').after s'').trace = s''.trace ++ farewells held inst owner.callbacks := by
  intro s mine name m device inst hm hd hi o ho s'
  have account : s.Accounted life := accounted_recordedRun sound hplain
  have enrolled (name : String) : Enrolled name s (mine name) := enrolled_steps name _ ops
  have roster := (enrolled name).roster hm
  have known : device ∈ s.pool.env.driver.devices := account.managers (mem_of_lookup hm) hd
  have pool : s'.pool = (m.destroy s.pool).2 := trace_teardown hm (by simp [hd]) ho
  have calls := trace_destroy_of_borrowed account.pool roster hd known hi
  rw [← pool] at calls
  refine ⟨calls, fun other owner hne howner => ?_, fun later hlater => ?_⟩
  · have frame : s.pool.Frame (mine name) s'.pool := by
      rw [pool]
      exact .destroyManager (fun kind r hr => (roster.listed kind).subset hr) s.pool
    have same : s'.managers.lookup other = some owner := (lookup_teardown hne ho).trans howner
    have apart : Apart other name s (mine other) (mine name) := apart_steps hne _ ops
    have others (r) (hr : r ∈ mine other) : r ∉ mine name :=
      fun hr' => apart (by simp [howner]) (by simp [hm]) hr hr'
    exact ⟨same, fun r hr => ⟨frame.slots r (others r hr), congrFun frame.isHeld r⟩,
      fun o' holder ha spared => alike_of_frame howner same frame ha spared⟩
  · have quiet : ∀ c, .call c ∈ [o] → plain c := by
      obtain rfl | rfl := ho <;> exact fun c hc => by cases List.mem_singleton.1 hc
    obtain ⟨account', named', extends'⟩ : s'.Accounted life ∧ s'.Named ∧ Extends s s' :=
      onward_steps account (enrolled name).named quiet
    intro s''
    obtain ⟨account'', -, extends''⟩ : s''.Accounted life ∧ s''.Named ∧ Extends s' s'' :=
      onward_steps account' named' hlater
    have ended : Ended s''.trace device.id := by
      obtain ⟨T, hT⟩ := extends''.trace
      rw [hT, Session.trace, calls]
      exact .inl (List.mem_append_left _ (List.mem_append_right _ List.mem_cons_self))
    refine ⟨Bool.eq_false_iff.2 fun alive => ?_, fun other owner held howner hheld same => ?_⟩
    · have known'' := extends''.devices _ (extends'.devices _ known)
      exact (account''.pool.sane.alive device known'').1 alive ended
    · have enrolled'' := enrolled_from (enrolled_from (enrolled other) [o]) later
      exact teardown_of_ended account'' enrolled'' howner hheld (same ▸ ended)

/-- A manager lends its device to another one, and each of them makes a tensor. -/
def lent : List Operation :=
  [.createManager "owner" {} {}, .tensorOfBytes "owner" "own" [1, 2, 3, 4] 1 4 .int,
    .keepHandles "owner" "kept", .borrow "borrower" "kept" "kept" 1 [0] {},
    .tensorOfBytes "borrower" "other" [1, 2, 3, 4] 1 4 .int]

theorem borrower_teardown_lent :
    let s := recordedRun computing lent
    let s' := (step (.destroyManager "borrower")).after s
    s'.trace = s.trace ++ [⟨.destroy 6 .buffer 10, true⟩, ⟨.releaseDevice 6, true⟩] ∧
      Alike (.sequence "owner" "sequence" 0 0) s s' ∧
      ((step (.dropManager "owner")).after s').trace = s'.trace ++
        [⟨.releaseDevice 6, true⟩, ⟨.destroyDevice 6, true⟩, ⟨.destroyInstance 1, true⟩] := by
  intro s s'
  have sound : InMemory.lifetimes.Sound computing := nofun
  have hplain : ∀ c, .call c ∈ lent → plain c := by
    intro c hc
    simp [lent] at hc
  have hm : s.managers.lookup "borrower" = some _ := rfl
  have howner : s.managers.lookup "owner" = some _ := rfl
  obtain ⟨calls, others, after⟩ := borrower_teardown InMemory.lifetimes sound hplain "borrower" _ _ _
    hm rfl rfl (.destroyManager "borrower") (.inl rfl)
  obtain ⟨same, -, alike⟩ := others "owner" _ (by decide) howner
  obtain ⟨inst, hi, late⟩ := (after [] nofun).2 "owner" _ _ same rfl rfl
  cases hi
  exact ⟨calls, alike (.sequence "owner" "sequence" 0 0) "sequence" rfl nofun,
    late (.dropManager "owner") (.inr rfl)⟩

end Session

end GpuCompute
