import GpuCompute.Proofs.Vulkan.Loose
import GpuCompute.Vulkan.Session

/-!
# Runs on the Vulkan driver

A session that is in order stays so under each operation of a careful caller (`InOrder.step`), and so
in each run. Hence all handles that appear in calls of the API may be used at that time, whichever
calls fail (`no_use_after_destroy`).
-/

namespace GpuCompute.Vulkan

open Api Session

variable {M : MemoryLibrary} {s : Session (driverOn M)} {e : Env (driverOn M).State}

/-! ## Operations -/

/-- The names of the instance and the device that an operation lends to a manager. -/
def lent? : Operation → Option (String × String)
  | .common (.borrow _ inst device ..) | .borrowRaw _ inst device .. => some (inst, device)
  | _ => none

/-- What a caller observes with an operation. What managers borrow may be used when it is lent and
outlives them, algorithms bind tensors on the device of their manager, and the calls that the caller
makes by itself use what may be used. -/
structure Careful (o : Operation) (s : Session (driverOn M)) : Prop where
  binds : ∀ {c n names m numbers} {x : Ownership Device}, o = .common c →
    binding? c = some (n, names) → s.managers.lookup n = some m → m.device = some x →
    s.tensorNumbers names = .ok numbers → ∀ i ∈ numbers, ∀ slot,
      s.pool.slot? (.tensor i) = some slot → slot.device = x.handle
  lends : ∀ {inst device i x}, lent? o = some (inst, device) → s.instances.lookup inst = some i →
    s.devices.lookup device = some x →
      Live (trace s) (.inst i) ∧ Live (trace s) (.device (Device.handle x))
  stays : ∀ x ∈ ((step o).after s).managers, Lent (trace ((step o).after s)) x.2
  calls : ∀ {c}, o = .common (.call c) → MayCall s c

theorem after_common (o : GpuCompute.Operation) (s : Session (driverOn M)) :
    (step (.common o)).after s = (Session.step o).after s := Attempt.after_map _ _ _

/-- A manager with settings from an environment is made like any other. -/
theorem after_createFromEnvironment (n : String) (environment : Environment) (selection : Selection)
    (s : Session (driverOn M)) : (step (.createFromEnvironment n environment selection)).after s =
      (Session.step (.createManager n (.ofEnvironment environment) selection)).after s :=
  Attempt.after_map _ _ _

theorem after_borrowRaw (n inst device : String) (adapter : AdapterHandle) (families : List UInt32)
    (config : Config) (s : Session (driverOn M)) :
    (step (.borrowRaw n inst device adapter families config)).after s =
      (withInstance inst fun i => withDevice device fun x => Session.addManager (d := driverOn M) n
        (borrowRaw config i adapter (Device.handle x) families)).after s := Attempt.after_map _ _ _

theorem after_fire (c : Diagnostics.CallbackCall) (s : Session (driverOn M)) :
    (step (.fire c)).after s = s.withEnv ((fire (M := M) c).after s.pool.env) :=
  after_run (d := driverOn M) _ s

/-- A device that cannot be wrapped is not borrowed. -/
theorem borrowRaw_error {config : Config} {i device : Nat} {adapter : AdapterHandle}
    {families : List UInt32} {error : Error} {e e' : Env State}
    (h : borrowRaw (M := M) config i adapter device families e = .error error e') :
    wrapDevice M i adapter device e = .error error e' := by
  rcases Attempt.bind_eq_error.1 h with failed | ⟨x, e₁, -, failed⟩
  · exact failed
  · exact absurd failed (Manager.borrow_ne_error (d := driverOn M))

/-- A callback is called by the API and does not call it. -/
theorem driver_fire (c : Diagnostics.CallbackCall) (e : Env State) :
    ((fire (M := M) c).after e).driver = e.driver := by
  unfold fire
  rw [Attempt.after_get_bind]
  cases e.driver.api.callback? c.mechanism <;> rfl

namespace InOrder

/-- Moves, and names that are different again. -/
theorem of_reaches [M.Lawful] {s' : Session (driverOn M)} {l : List (Manager (driverOn M))}
    (h : InOrder s)
    (reaches : Reaches careful s l s') : InOrder s' :=
  ⟨h.safe.of_moves reaches.moves, reaches.named⟩

/-- The API changes its failure script. -/
theorem withScript [M.Lawful] (h : InOrder s) (rules : Rules) :
    InOrder (s.onEnv fun e : Env State => e.onDriver (State.onApi (.withScript rules))) := by
  have good := h.safe.stocked.good
  have after : ((State.api s.pool.env.driver).withScript rules).Good := ⟨good.fine, good.old⟩
  refine ⟨h.safe.withEnv_of_goes_nil ⟨good, after, Nat.le_refl _, fun h _ => h⟩
    ⟨fun _ => trivial, fun _ h => h, fun _ _ h => h⟩, h.named.managers, h.named.held⟩

/-- A manager is made, or cannot be made; the one that had its name before is dropped. -/
theorem addManager [M.Lawful] (h : InOrder s) {name : String}
    {make : Act (driverOn M).State (Manager (driverOn M))}
    (ok : ∀ m e, make s.pool.env = .ok m e →
      Safe { s.withEnv e with managers := s.managers ++ [(name, m)] })
    (error : ∀ error e, make s.pool.env = .error error e → Safe (s.withEnv e))
    (stay : ∀ x ∈ ((Session.addManager name make).after s).managers,
      Lent (trace ((Session.addManager name make).after s)) x.2) :
    InOrder ((Session.addManager name make).after s) := by
  rw [after_addManager] at stay ⊢
  cases hmake : make s.pool.env with
  | error error' e => exact ⟨error error' e hmake, h.named.managers, h.named.held⟩
  | ok m e =>
    rw [hmake] at stay
    have named : (s.withEnv e).Named := ⟨h.named.managers, h.named.held⟩
    exact ⟨(ok m e hmake).of_moves (moves_storeManager (P := careful) named.managers stay),
      named_storeManager named name m⟩

/-- A manager is made on handles of the API, which are wrapped for it. -/
theorem safe_borrowRaw [M.Lawful] (h : Safe s) {name : String} {config : Config} {i device : Nat}
    {adapter : AdapterHandle} {families : List UInt32} {m : Manager (driverOn M)} {e : Env State}
    (hi : Live (trace s) (.inst i)) (hdevice : Live (trace s) (.device device))
    (made : borrowRaw config i adapter device families s.pool.env = .ok m e) :
    Safe { s.withEnv e with managers := s.managers ++ [(name, m)] } := by
  obtain ⟨x, e₁, wrapped, borrowed⟩ := Attempt.bind_eq_ok.1 made
  have goes : Goes [] s.pool.env e₁ := goes_wrapped wrapped h.stocked.good hi
  obtain ⟨served, new⟩ := served_wrapDevice wrapped
  obtain ⟨-, known, -, others⟩ := known_opened served new
  have quiet : Safe (s.withEnv e₁) := h.withEnv_of_goes_nil goes ⟨fun _ => trivial,
    fun _ known => (others _ known).1, fun _ known alive => (others _ known).2.symm.trans alive⟩
  have handle : Device.handle x = device := congrArg Device.handle (wrapDevice_ok wrapped).1
  exact quiet.of_borrows known (goes.live hi) (handle ▸ goes.live hdevice)
    (Manager.borrow_ok (d := driverOn M) borrowed)

/-- When the device cannot be wrapped, the adapter was asked at most. -/
theorem safe_unwrapped [M.Lawful] (h : Safe s) {i device : Nat} {adapter : AdapterHandle}
    {error : Error}
    {e : Env State} (hi : Live (trace s) (.inst i))
    (failed : wrapDevice M i adapter device s.pool.env = .error error e) : Safe (s.withEnv e) := by
  have goes : Goes [] s.pool.env e :=
    Attempt.after_of_error failed ▸ goes_wrapDevice adapter device h.stocked.good hi
  obtain ⟨a, -, rfl⟩ := wrapDevice_error failed
  exact h.withEnv_of_goes_nil goes ⟨fun _ => trivial, fun _ known => known, fun _ _ alive => alive⟩

/-- Only the log changes. -/
theorem of_driver_eq [M.Lawful] (h : InOrder s) {e : Env (driverOn M).State}
    (same : e.driver = s.pool.env.driver) :
    InOrder (s.withEnv e) := by
  have goes : Goes [] s.pool.env e := by
    unfold Goes
    rw [same]
    exact .refl h.safe.stocked.good
  exact ⟨h.safe.withEnv_of_goes_nil goes (.of_eq same), h.named.managers, h.named.held⟩

/-- What is observed of an operation of every session. -/
theorem observes_of_careful {o : GpuCompute.Operation} (h : Careful (.common o) s)
    (hplain : ∀ c, o = .call c → plain c) : Observes careful o s where
  binds ho hm hd hnumbers := h.binds rfl ho hm hd hnumbers
  offers := by
    rintro n inst device adapter families config i x rfl hi hx
    exact h.lends rfl hi hx
  stays := by
    have stays := h.stays
    rwa [after_common] at stays
  lends c hc := ⟨hplain c hc, h.calls (congrArg Operation.common hc)⟩

/-- **Each operation of a careful caller keeps a session in order.** -/
theorem step [M.Lawful] (h : InOrder s) {o : Operation} (hc : Careful o s) :
    InOrder ((Vulkan.step o).after s) := by
  have stays := hc.stays
  cases o with
  | common o =>
    rw [after_common] at stays ⊢
    by_cases own : ∃ c, o = .call c ∧ plain c = false
    · obtain ⟨c, rfl, hplain⟩ := own
      exact h.of_call hplain (hc.calls rfl) stays
    · refine h.of_reaches (reaches_step h.named (observes_of_careful hc fun c ho => ?_))
      exact Bool.of_not_eq_false fun hplain => own ⟨c, ho, hplain⟩
  | setScript rules => exact h.withScript rules
  | createFromEnvironment m environment selection =>
    rw [after_createFromEnvironment] at stays ⊢
    exact h.of_reaches (reaches_step h.named ⟨nofun, nofun, stays, nofun⟩)
  | borrowRaw m inst device adapter families config =>
    rw [after_borrowRaw, after_withInstance] at stays
    rw [after_borrowRaw, after_withInstance]
    cases hi : s.instances.lookup inst with
    | none => exact h
    | some i =>
      rw [hi] at stays
      dsimp only at stays ⊢
      rw [after_withDevice] at stays ⊢
      cases hx : s.devices.lookup device with
      | none => exact h
      | some x =>
        rw [hx] at stays
        obtain ⟨liveInst, liveDevice⟩ := hc.lends rfl hi hx
        refine h.addManager (fun m e made => ?_) (fun error e failed => ?_) stays
        · exact safe_borrowRaw h.safe liveInst liveDevice made
        · exact safe_unwrapped h.safe liveInst (borrowRaw_error failed)
  | fire c =>
    rw [after_fire]
    exact h.of_driver_eq (driver_fire c s.pool.env)
  | describeObject name => exact h
  | describeDriver => exact h

end InOrder

/-! ## Runs -/

/-- The session after operations, whatever they answer. -/
def run (ops : List Operation) (s : Session (driverOn M)) : Session (driverOn M) :=
  ops.foldl (fun s o => (step o).after s) s

theorem run_cons (o : Operation) (ops : List Operation) (s : Session (driverOn M)) :
    run (o :: ops) s = run ops ((step o).after s) := rfl

/-- A caller is careful with each operation of a run. -/
def CarefulAll : List Operation → Session (driverOn M) → Prop
  | [], _ => True
  | o :: os, s => Careful o s ∧ CarefulAll os ((step o).after s)

theorem inOrder_start (host : Host) (rules : Rules) : InOrder (start (M := M) host rules) := by
  have good : (State.api (start (M := M) host rules).pool.env.driver).Good :=
    ⟨.nil, fun _ he => absurd he List.not_mem_nil⟩
  have stocked : Stocked (start (M := M) host rules).pool :=
    ⟨good, fun h => absurd h slot?_start, fun h => absurd h slot?_start, fun h => absurd h slot?_start⟩
  have staffed : Staffed (start (M := M) host rules).pool.env (start (M := M) host rules).managers :=
    ⟨good, fun hx => absurd hx managers_start, .nil, fun hx => absurd hx managers_start⟩
  exact ⟨⟨stocked, staffed, fun _ hx => absurd hx List.not_mem_nil, fun h => absurd h slot?_start⟩,
    named_start _⟩

theorem InOrder.run [M.Lawful] {ops : List Operation} (h : InOrder s) (careful : CarefulAll ops s) :
    InOrder (run ops s) := by
  induction ops generalizing s with
  | nil => exact h
  | cons o os ih => exact ih (h.step careful.1) careful.2

theorem Fine.ends_once {before : List Event} {event : Event} (h : Fine before event) :
    ∀ t ∈ event.request.ends, ∀ earlier ∈ before, t ∉ earlier.request.ends := by
  intro t ht
  obtain ⟨rests, stands⟩ := (h t (uses_of_ends ht)).stands
  exact stands.lasts

/-- **Handles are only used while they may be used.** In a run of a careful caller, whichever calls of
the API fail, every handle that appears in a call was handed out before and was not ended, and neither
was what it rests on: its device, the pool it was taken from, the instance. In particular nothing is
ended twice. A pipeline that comes along with an error code was handed out, too. -/
theorem no_use_after_destroy (M : MemoryLibrary) [M.Lawful] (host : Host) (rules : Rules)
    (ops : List Operation) (careful : CarefulAll ops (start (M := M) host rules)) :
    Always Fine (trace (run ops (start (M := M) host rules))) ∧
    Always (fun before event => ∀ t ∈ event.request.ends, ∀ earlier ∈ before,
      t ∉ earlier.request.ends) (trace (run ops (start (M := M) host rules))) := by
  have fine := ((inOrder_start host rules).run careful).safe.stocked.good.fine
  exact ⟨fine, fine.mono fun _ _ h => h.ends_once⟩

/-- A caller lends a device to a manager and destroys it after the manager, while a tensor is still held
that is let go of at the end. -/
def lending : List Operation :=
  [.common (.call (.createInstance "instance" ⟨"vkrt", 1, 1, [], [], false⟩)),
    .common (.call (.createDevice "device" "instance" 1 ⟨[], [], []⟩)),
    .common (.borrow "manager" "instance" "device" 1 [0] {}),
    .common (.tensorOfBytes "manager" "tensor" [1, 2, 3, 4] 1 4 .int),
    .common (.destroyManager "manager"),
    .common (.call (.destroyDevice "device")),
    .common (.drop "tensor")]

/-- Names are looked through for zero characters, which does not compute; what comes of it does. -/
theorem after_createInstance :
    (step (.common (.call (.createInstance "instance" ⟨"vkrt", 1, 1, [], [], false⟩)))).after
      (start (M := .own) {} []) = { (start (M := .own) {} []).withEnv
        ((withApi (make (.createInstance ⟨"vkrt", 1, 1, [], [], none⟩))).after
          (start (M := .own) {} []).pool.env) with instances := [("instance", (1 : Nat))] } := by
  have noZero : "vkrt".contains '\x00' = false := by simp [String.contains_char_eq]
  have made : createInstance ⟨"vkrt", 1, 1, [], [], false⟩ (start (M := .own) {} []).pool.env =
      withApi (make (.createInstance ⟨"vkrt", 1, 1, [], [], none⟩)) (start (M := .own) {} []).pool.env := by
    unfold createInstance
    dsimp only
    rw [noZero]
    rfl
  rw [after_common]
  exact Attempt.after_bind_of_ok (run_ok made)

theorem lent_of_stands {tr : List Event} {m : Manager (driverOn M)} {i : Nat} {x : Device}
    (hi : Stands tr (.inst i) []) (hx : Stands tr (.device x.handle) [.inst i])
    (inst : m.inst = some (.borrowed i)) (device : m.device = some (.borrowed x)) : Lent tr m := by
  refine ⟨fun j hj => ?_, fun y hy => ?_⟩
  · cases inst.symm.trans hj
    exact .of_stands_nil hi
  · cases device.symm.trans hy
    exact live_of_stands hx (.of_stands_nil hi)

theorem careful_lending : CarefulAll lending (start (M := .own) {} []) := by
  refine ⟨⟨nofun, nofun, ?_, ?_⟩, ?_⟩
  · rw [after_createInstance]
    nofun
  · rintro c ⟨⟩
    trivial
  rw [after_createInstance]
  refine ⟨⟨nofun, nofun, nofun, ?_⟩, ⟨nofun, ?_, ?_, nofun⟩, ⟨nofun, nofun, ?_, nofun⟩,
    ⟨nofun, nofun, ?_, nofun⟩, ⟨nofun, nofun, ?_, ?_⟩, ⟨nofun, nofun, ?_, nofun⟩, trivial⟩
  · rintro c ⟨⟩ i ⟨⟩
    exact .of_stands_nil (by decide +kernel)
  · rintro inst device i x ⟨⟩ ⟨⟩ ⟨⟩
    exact ⟨.of_stands_nil (by decide +kernel),
      live_of_stands (p := .inst 1) (by decide +kernel) (.of_stands_nil (by decide +kernel))⟩
  -- While the manager is there, the instance and the device stand.
  · intro x hx
    cases List.mem_singleton.1 hx
    exact lent_of_stands (i := 1) (x := ⟨2, 0⟩) (by decide +kernel) (by decide +kernel) rfl rfl
  · intro x hx
    cases List.mem_singleton.1 hx
    exact lent_of_stands (i := 1) (x := ⟨2, 0⟩) (by decide +kernel) (by decide +kernel) rfl rfl
  -- Afterwards it borrows nothing.
  · intro x hx
    cases List.mem_singleton.1 hx
    exact ⟨nofun, nofun⟩
  · intro x hx
    cases List.mem_singleton.1 hx
    exact ⟨nofun, nofun⟩
  · rintro c ⟨⟩
    refine ⟨?_, ?_⟩
    · rintro x ⟨⟩
      exact live_of_stands (p := .inst 1) (by decide +kernel) (.of_stands_nil (by decide +kernel))
    · rintro x ⟨⟩
      exact ⟨by decide +kernel, fun stored => nomatch role_of_stored stored⟩
  · intro x hx
    cases List.mem_singleton.1 hx
    exact ⟨nofun, nofun⟩

theorem no_use_after_destroy_lending :
    CarefulAll lending (start (M := .own) {} []) ∧
      Always Fine (trace (run lending (start (M := .own) {} []))) :=
  ⟨careful_lending, (no_use_after_destroy .own {} [] lending careful_lending).1⟩

end GpuCompute.Vulkan
