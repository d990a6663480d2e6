import GpuCompute.Proofs.Vulkan.Belongings

/-!
# Careful callers

What a caller has to observe so that handles of the API are only used while they may be used: a manager
binds only tensors on its own device, and what is borrowed, asked or ended by the caller may still be
used, belongs to no manager, and outlives the managers that borrow it (`careful`). Sessions of such
callers are safe (`Safe`): all calls so far were fine, what is in slots and what managers own stands,
and a device that is alive and has resources belongs to a manager. Each move keeps this (`Safe.of_move`).
-/

namespace GpuCompute.Vulkan

open Api

variable {M : MemoryLibrary} [M.Lawful] {gone : List Thing} {s s' : Session (driverOn M)}
  {e : Env (driverOn M).State}
  {l : List (Manager (driverOn M))}

/-- The calls of the API in a session. -/
abbrev trace (s : Session (driverOn M)) : List Event := (State.api s.pool.env.driver).trace

/-- Nobody but the caller has a thing: it belongs to no manager and is no part of a resource. -/
def Loose (s : Session (driverOn M)) (t : Thing) : Prop := t ∉ owned s.managers ∧ ¬ Stored s.pool t

/-- A kept instance may be used. -/
abbrev MayUse (s : Session (driverOn M)) (inst : String) : Prop :=
  ∀ i, s.instances.lookup inst = some i → Live (trace s) (.inst i)

/-- A kept device may be used. -/
abbrev MayLoad (s : Session (driverOn M)) (device : String) : Prop :=
  ∀ x, s.devices.lookup device = some x → Live (trace s) (.device (Device.handle x))

/-- What a caller made by itself is still there, and nobody else has it. -/
abbrev MayEnd (s : Session (driverOn M)) (ps : List Part) : Prop :=
  ∀ p ∈ ps, Stands (trace s) p.thing p.rests ∧ Loose s p.thing

/-- What a caller observes when it calls the driver by itself: it uses what may be used, and ends what
it made and nobody else has. -/
def MayCall (s : Session (driverOn M)) : DriverCall → Prop
  | .createInstance .. | .probeDevice _ => True
  | .createDevice _ inst .. | .survey inst _ | .registerCallbacks _ inst => MayUse s inst
  | .destroyInstance inst => MayUse s inst ∧
    ∀ i, s.instances.lookup inst = some i → Loose s (.inst i)
  | .releaseDevice device | .createBuffer _ device .. | .createBatch _ device .. => MayLoad s device
  | .destroyDevice device => MayLoad s device ∧
    ∀ x, s.devices.lookup device = some x → Loose s (.device (Device.handle x))
  | .unregisterCallbacks inst callbacks => MayUse s inst ∧
    ∀ i c, s.instances.lookup inst = some i → s.callbacks.lookup callbacks = some c →
      MayEnd s (Callbacks.parts i c)
  | .createPipeline _ device what => MayLoad s device ∧
    ∀ b ∈ what.bindings, ∀ buffer, s.buffers.lookup b.buffer = some buffer →
      Live (trace s) (.object .buffer (Buffer.handle buffer))
  | .destroyBuffer device buffer => MayLoad s device ∧
    ∀ x b, s.devices.lookup device = some x → s.buffers.lookup buffer = some b →
      MayEnd s (parts (Device.handle x) (.buffer b))
  | .destroyPipeline device pipeline => MayLoad s device ∧
    ∀ x p, s.devices.lookup device = some x → s.pipelines.lookup pipeline = some p →
      MayEnd s (parts (Device.handle x) (.pipeline p))
  | .destroyBatch device batch => MayLoad s device ∧
    ∀ x b, s.devices.lookup device = some x → s.batches.lookup batch = some b →
      MayEnd s (parts (Device.handle x) (.batch b))

/-- What a caller observes. -/
def careful : Permit (driverOn M) where
  binds s x tensors := ∀ i ∈ tensors, ∀ slot, s.pool.slot? (.tensor i) = some slot → slot.device = x
  offers s i x := Live (trace s) (.inst i) ∧ Live (trace s) (.device (Device.handle x))
  stays e m := Lent (State.api e.driver).trace m
  lends s c := MayCall s c

/-- All calls so far were fine, and what is in use may be used. -/
structure Safe (s : Session (driverOn M)) : Prop where
  stocked : Stocked s.pool
  staffed : Staffed s.pool.env s.managers
  kept : ∀ x ∈ s.devices, Device.Known x.2 s.pool.env.driver
  manned : ∀ {r slot}, s.pool.slot? r = some slot →
    (driverOn M).isAlive slot.device s.pool.env.driver = true →
      ∃ x ∈ s.managers, ∃ o : Ownership Device, x.2.device = some o ∧ o.handle = slot.device

namespace Safe

/-! ## Turns -/

omit [M.Lawful] in
theorem live_inst (h : Safe s) {i : (driverOn M).Instance} (may : s.MayAsk careful i) :
    Live (trace s) (.inst i) := by
  rcases may with ⟨x, hx, o, ho, rfl⟩ | ⟨inst, adapter, hi, may⟩
  · exact (h.staffed.custody hx).live_inst ho
  · exact may i hi

omit [M.Lawful] in
/-- What may be ordered binds buffers that may be used. -/
theorem live_buffers (h : Safe s) {device : Device} {order : Order (driverOn M)}
    (hdevice : Live (trace s) (.device device.handle)) (may : s.MayOrder careful device order) :
    ∀ b ∈ order.binds, Live (trace s) (.object .buffer (Buffer.handle b)) := by
  intro b hb
  rcases may with nothing | ⟨tensors, only, binds⟩
  · rw [nothing] at hb
    cases hb
  · obtain ⟨i, hi, slot, hslot, hobject⟩ := only b hb
    obtain ⟨x, object⟩ := slot
    cases hobject
    have own : x = device := binds i hi _ hslot
    rw [own] at hslot
    have stands : Stands (trace s) (.object .buffer (Buffer.handle b)) [.device device.handle] :=
      h.stocked.stands hslot List.mem_cons_self
    exact live_of_stands stands hdevice

theorem goes_turn (h : Safe s) (turn : Turn careful s e) : Goes [] s.pool.env e := by
  have good := h.stocked.good
  cases turn with
  | asks asked may => exact goes_asked asked good (fun i hi => h.live_inst (may i hi)) fun _ h => h.elim
  | fails failed => exact goes_fails failed good
  | @refuses x device order error e₁ e hx hd may asked failed =>
    have first : Goes [] s.pool.env e₁ := goes_asked asked good (fun _ h => h.elim) fun _ h => h.elim
    have live := (h.staffed.custody hx).live_device hd
    have known : Device.Known device.handle e₁.driver :=
      (Driver.Lifetimes.Ages.of_idled (.of_asked asked) : lifetimes.Ages s.pool.env e₁).known trivial
        (h.staffed.known hx hd)
    exact first.then_ ((makes_make (e := e₁) order first.after (first.live live) known
      fun b hb => first.live (h.live_buffers live may b hb)).error failed)
  | refusesInstance may failed => exact (makes_createInstance (e := s.pool.env) _ good).error failed
  | refusesDevice hi may failed =>
    exact (makes_createDevice (e := s.pool.env) _ _ good (may _ hi)).error failed

/-! ## Moves -/

/-- What is to be shown of a move. -/
theorem of_changes (h : Safe s) (stocked : Stocked s'.pool) (staffed : Staffed s'.pool.env s'.managers)
    (ages : lifetimes.Ages s.pool.env s'.pool.env)
    (kept : ∀ x ∈ s'.devices, Device.Known x.2 s'.pool.env.driver ∨ x ∈ s.devices)
    (slots : ∀ {r slot}, s'.pool.slot? r = some slot →
      (∃ slot', s.pool.slot? r = some slot' ∧ slot'.device = slot.device) ∨
      ∃ x ∈ s'.managers, ∃ o : Ownership Device, x.2.device = some o ∧ o.handle = slot.device)
    (crew : ∀ x ∈ s.managers, ∀ o : Ownership Device, x.2.device = some o →
      (driverOn M).isAlive o.handle s'.pool.env.driver = true →
        ∃ x' ∈ s'.managers, x'.2.device = some o) : Safe s' := by
  refine ⟨stocked, staffed, fun x hx => ?_, fun {r slot} hslot alive => ?_⟩
  · rcases kept x hx with known | hx
    · exact known
    · exact ages.known trivial (h.kept x hx)
  · rcases slots hslot with ⟨slot', hslot', same⟩ | manned
    · have known : Device.Known slot.device s.pool.env.driver := same ▸ h.stocked.known hslot'
      have before := ages.dead trivial known alive
      obtain ⟨x, hx, o, ho, heq⟩ := h.manned hslot' (same ▸ before)
      have heq := heq.trans same
      obtain ⟨x', hx', ho'⟩ := crew x hx o ho (heq ▸ alive)
      exact ⟨x', hx', o, ho', heq⟩
    · exact manned

/-- Only the environment changes. -/
theorem withEnv (h : Safe s) (goes : Goes gone s.pool.env e) (loose : ∀ t ∈ gone, Loose s t)
    (lent : ∀ x ∈ s.managers, Lent (State.api e.driver).trace x.2)
    (ages : lifetimes.Ages s.pool.env e) : Safe (s.withEnv e) := by
  have stocked : Stocked (s.pool.withEnv e) := h.stocked.of_goes goes (fun t ht => (loose t ht).2) rfl ages
  exact h.of_changes stocked (h.staffed.of_goes goes (fun t ht => (loose t ht).1) lent ages) ages
    (fun _ => .inr) (fun hslot => .inl ⟨_, hslot, rfl⟩) fun x hx _ ho _ => ⟨x, hx, ho⟩

/-- Only the environment changes, and nothing is ended. -/
theorem withEnv_of_goes_nil (h : Safe s) (goes : Goes [] s.pool.env e)
    (ages : lifetimes.Ages s.pool.env e) :
    Safe (s.withEnv e) :=
  h.withEnv goes nofun (fun _ hx =>
    ⟨fun i hi => goes.live ((h.staffed.custody hx).lent.inst i hi),
      fun x ho => goes.live ((h.staffed.custody hx).lent.device x ho)⟩) ages

/-- Slots stay as they are, and managers change what they track or go that have no device. -/
theorem of_slots_eq (h : Safe s) {p : Pool (driverOn M)} {managers : List (String × Manager (driverOn M))}
    (slots : p.slot? = s.pool.slot?) (env : p.env = s.pool.env) (staffed : Staffed p.env managers)
    (crew : ∀ x ∈ s.managers, ∀ o : Ownership Device, x.2.device = some o →
      ∃ x' ∈ managers, x'.2.device = some o) : Safe { s with pool := p, managers := managers } := by
  have ages : lifetimes.Ages s.pool.env p.env := .of_eq (congrArg (·.driver) env)
  have goes : Goes [] s.pool.env p.env := by
    rw [env]
    exact .refl h.stocked.good
  exact h.of_changes (h.stocked.of_goes goes nofun slots ages) staffed ages (fun _ => .inr)
    (fun hslot => .inl ⟨_, slots ▸ hslot, rfl⟩) fun x hx o ho _ => crew x hx o ho

/-- A manager is made. -/
theorem of_addManager (h : Safe s) {name : String} {m : Manager (driverOn M)}
    (yields : Yields (estate m) (State.api s.pool.env.driver) (State.api e.driver))
    (custody : Custody (State.api e.driver).trace m) (ages : lifetimes.Ages s.pool.env e)
    (known : ∀ o : Ownership Device, m.device = some o → o.handle.Known e.driver) :
    Safe { s.withEnv e with managers := s.managers ++ [(name, m)] } := by
  have stocked : Stocked (s.pool.withEnv e) := h.stocked.of_goes yields.goes nofun rfl ages
  exact h.of_changes stocked (h.staffed.of_addManager yields custody ages known) ages (fun _ => .inr)
    (fun hslot => .inl ⟨_, hslot, rfl⟩) fun x hx _ ho _ => ⟨x, List.mem_append_left _ hx, ho⟩

/-- Nothing of a manager that borrows is its own. -/
theorem of_borrows (h : Safe s) {name : String} {m : Manager (driverOn M)} {config : Config}
    {i : (driverOn M).Instance} {x : (driverOn M).Device} (known : Device.Known x s.pool.env.driver)
    (hi : Live (trace s) (.inst i)) (hx : Live (trace s) (.device (Device.handle x)))
    (made : m.Borrows config i x s.pool.env e) :
    Safe { s.withEnv e with managers := s.managers ++ [(name, m)] } := by
  have goes : Goes [] s.pool.env e := by
    refine goes_asked made.asked h.stocked.good (fun _ h => h.elim) ?_
    rintro _ rfl
    exact hx
  have ages : lifetimes.Ages s.pool.env e := .of_idled (.of_asked made.asked)
  have lent : Lent (State.api e.driver).trace m := by
    refine ⟨fun j hj => ?_, fun y hy => ?_⟩
    · cases made.inst.symm.trans hj
      exact goes.live hi
    · cases made.device.symm.trans hy
      exact goes.live hx
  refine h.of_addManager ?_ (.borrows i x made.inst made.device made.callbacks lent) ages fun o ho => ?_
  · unfold estate
    rw [made.inst]
    exact .nil goes
  · cases made.device.symm.trans ho
    exact ages.known trivial known

omit [M.Lawful] in
/-- A manager that is in a list with others. -/
theorem mem_managers {n : String} {m : Manager (driverOn M)}
    {l₁ l₂ : List (String × Manager (driverOn M))}
    (hm : s.managers = l₁ ++ (n, m) :: l₂) : (n, m) ∈ s.managers :=
  hm ▸ List.mem_append_right _ List.mem_cons_self

omit [M.Lawful] in
/-- The managers after one of them has changed. -/
theorem crew_replace {n : String} {m m' : Manager (driverOn M)}
    {l₁ l₂ : List (String × Manager (driverOn M))}
    (hm : s.managers = l₁ ++ (n, m) :: l₂) (like : m.Like m') :
    ∀ x ∈ s.managers, ∀ o : Ownership Device, x.2.device = some o →
      ∃ x' ∈ l₁ ++ (n, m') :: l₂, x'.2.device = some o := by
  intro x hx o ho
  rw [hm] at hx
  obtain rfl | hx := Session.mem_replace (a := (n, m')) hx
  · exact ⟨(n, m'), List.mem_append_right _ List.mem_cons_self, like.device.trans ho⟩
  · exact ⟨x, hx, ho⟩

/-- A manager makes a resource. -/
theorem of_makes (h : Safe s) {n name : String} {m m' : Manager (driverOn M)}
    {l₁ l₂ : List (String × Manager (driverOn M))} {device : Ownership (driverOn M).Device}
    {order : Order (driverOn M)} {r : ResourceId} {p : Pool (driverOn M)}
    (hm : s.managers = l₁ ++ (n, m) :: l₂) (hd : m.device = some device)
    (may : s.MayOrder careful device.handle order) (made : s.pool.Makes device.handle order r p)
    (like : m.Like m') : Safe { s with
      pool := p.withHeld (s.pool.held ++ [(name, r)]), managers := l₁ ++ (n, m') :: l₂ } := by
  have mem := mem_managers hm
  have live := (h.staffed.custody mem).live_device hd
  have known := h.staffed.known mem hd
  obtain ⟨object, adds, yields, ages⟩ :=
    h.stocked.goes_makes live known (h.live_buffers live may) made
  have stocked := h.stocked.of_adds adds ages known yields
  have held : Stocked (p.withHeld (s.pool.held ++ [(name, r)])) :=
    stocked.of_goes (.refl stocked.good) nofun rfl (.of_eq rfl)
  have staffed : Staffed p.env (l₁ ++ (n, m) :: l₂) :=
    hm ▸ h.staffed.of_goes_objects yields.goes nofun ages
  refine h.of_changes held (staffed.of_like like) ages (fun _ => .inr) (fun {r' slot} hslot => ?_)
    fun x hx o ho _ => crew_replace hm like x hx o ho
  have hslot : p.slot? r' = some slot := hslot
  by_cases heq : r' = r
  · rw [heq, adds.slot, Option.some.injEq] at hslot
    exact .inr ⟨(n, m'), List.mem_append_right _ List.mem_cons_self, device,
      like.device.trans hd, congrArg (·.device) hslot⟩
  · exact .inl ⟨slot, adds.others r' heq ▸ hslot, rfl⟩

/-- A resource is destroyed. -/
theorem of_destroy (h : Safe s) (r : ResourceId) : Safe (s.onPool (.destroy r)) := by
  have live : ∀ slot, s.pool.slot? r = some slot →
      (driverOn M).isAlive slot.device s.pool.env.driver = true →
        Live (trace s) (.device (Device.handle slot.device)) := by
    intro slot hslot alive
    obtain ⟨x, hx, o, ho, heq⟩ := h.manned hslot alive
    exact heq ▸ (h.staffed.custody hx).live_device ho
  obtain ⟨gone, goes, hgone⟩ := h.stocked.goes_destroy r live
  have ages := Stocked.ages_destroy r s.pool
  have empties := Pool.empties_destroy r s.pool
  refine h.of_changes (h.stocked.of_destroy r live)
    (h.staffed.of_goes_objects goes (fun t ht => ?_) ages) ages
    (fun _ => .inr) (fun {r' slot} hslot => .inl ?_) fun x hx _ ho _ => ⟨x, hx, ho⟩
  · obtain ⟨x, object, part, -, hpart, rfl⟩ := hgone t ht
    exact role_of_parts hpart
  · have hslot : (s.pool.destroy r).slot? r' = some slot := hslot
    by_cases heq : r' = r
    · rw [heq, empties.slot] at hslot
      obtain ⟨slot', hslot', rfl⟩ := Option.map_eq_some_iff.1 hslot
      exact ⟨slot', heq ▸ hslot', rfl⟩
    · exact ⟨slot, empties.others r' heq ▸ hslot, rfl⟩

/-- A manager is torn down. -/
theorem of_shut (h : Safe s) {n : String} {m m' : Manager (driverOn M)}
    {l₁ l₂ : List (String × Manager (driverOn M))} {device : Ownership (driverOn M).Device}
    (hm : s.managers = l₁ ++ (n, m) :: l₂) (hd : m.device = some device) (closed : m'.device = none)
    (left : m'.inst = none)
    (stay : ∀ x ∈ l₁ ++ l₂, careful.stays (m.shut device s.pool.env) x.2) :
    Safe { s.withEnv (m.shut device s.pool.env) with managers := l₁ ++ (n, m') :: l₂ } := by
  have mem := mem_managers hm
  have known : Device.Known device.handle s.pool.env.driver := h.staffed.known mem hd
  have goes : Goes ((estate m).map (·.thing)) s.pool.env (m.shut device s.pool.env) :=
    goes_shut (h.staffed.custody mem) hd h.stocked.good known
  obtain ⟨ages, dead⟩ : lifetimes.Ages s.pool.env (m.shut device s.pool.env) ∧ _ :=
    Driver.Lifetimes.Ages.of_shut m trivial known
  have stocked : Stocked (s.pool.withEnv (m.shut device s.pool.env)) := by
    refine h.stocked.of_goes goes (fun t ht stored => ?_) rfl ages
    obtain ⟨p, hp, rfl⟩ := List.mem_map.1 ht
    exact role_of_estate hp (role_of_stored stored)
  have staffed : Staffed s.pool.env (l₁ ++ (n, m) :: l₂) := hm ▸ h.staffed
  refine h.of_changes stocked (staffed.of_closes goes stay ages left closed) ages (fun _ => .inr)
    (fun hslot => .inl ⟨_, hslot, rfl⟩) fun x hx o ho alive => ?_
  rw [hm] at hx
  obtain rfl | hx := Session.mem_replace (a := (n, m')) hx
  · cases hd.symm.trans ho
    exact absurd (dead.symm.trans alive) nofun
  · exact ⟨x, hx, ho⟩

/-- The caller destroys a device that no manager owns. -/
theorem of_destroyDevice (h : Safe s) {device : String} {x : (driverOn M).Device}
    (hx : s.devices.lookup device = some x) (may : careful.lends s (.destroyDevice device))
    (stay : ∀ y ∈ s.managers, careful.stays ((driverOn M).destroyDevice x s.pool.env) y.2) :
    Safe (s.withEnv ((driverOn M).destroyDevice x s.pool.env)) := by
  have known : Device.Known x s.pool.env.driver := h.kept _ (Session.mem_of_lookup hx)
  have goes : Goes [.device (Device.handle x)] s.pool.env ((driverOn M).destroyDevice x s.pool.env) :=
    goes_destroyDevice (e := s.pool.env) h.stocked.good (may.1 x hx) known
  obtain ⟨ages, -⟩ : lifetimes.Ages s.pool.env ((driverOn M).destroyDevice x s.pool.env) ∧ _ :=
    Driver.Lifetimes.Ages.of_ends (.destroy s.pool.env) trivial known
  refine h.withEnv goes (fun t ht => ?_) stay ages
  rw [List.mem_singleton.1 ht]
  exact may.2 x hx

/-- The caller destroys an instance that no manager owns. -/
theorem of_destroyInstance (h : Safe s) {inst : String} {i : (driverOn M).Instance}
    (hi : s.instances.lookup inst = some i) (may : careful.lends s (.destroyInstance inst))
    (stay : ∀ y ∈ s.managers, careful.stays ((driverOn M).destroyInstance i s.pool.env) y.2) :
    Safe (s.withEnv ((driverOn M).destroyInstance i s.pool.env)) := by
  have goes : Goes [.inst i] s.pool.env ((driverOn M).destroyInstance i s.pool.env) :=
    goes_destroyInstance (e := s.pool.env) h.stocked.good (may.1 i hi)
  have ages : lifetimes.Ages s.pool.env ((driverOn M).destroyInstance i s.pool.env) :=
    .of_idled (.of_idles (.destroyInstance i s.pool.env))
  refine h.withEnv goes (fun t ht => ?_) stay ages
  rw [List.mem_singleton.1 ht]
  exact may.2 i hi

/-- The caller releases a device. -/
theorem of_releaseDevice (h : Safe s) {device : String} {x : (driverOn M).Device}
    (hx : s.devices.lookup device = some x) (may : careful.lends s (.releaseDevice device)) :
    Safe (s.withEnv ((driverOn M).releaseDevice x s.pool.env)) := by
  have known : Device.Known x s.pool.env.driver := h.kept _ (Session.mem_of_lookup hx)
  have goes : Goes [] s.pool.env ((driverOn M).releaseDevice x s.pool.env) :=
    goes_releaseDevice (e := s.pool.env) h.stocked.good (may x hx) known
  obtain ⟨ages, -⟩ : lifetimes.Ages s.pool.env ((driverOn M).releaseDevice x s.pool.env) ∧ _ :=
    Driver.Lifetimes.Ages.of_ends (.release s.pool.env) trivial known
  exact h.withEnv_of_goes_nil goes ages

/-- Instances and devices are kept. -/
theorem of_keepHandles (h : Safe s) {instances : List (String × (driverOn M).Instance)}
    {devices : List (String × (driverOn M).Device)}
    (known : ∀ x ∈ devices, Device.Known x.2 s.pool.env.driver ∨ x ∈ s.devices) :
    Safe { s with instances := instances, devices := devices } :=
  h.of_changes h.stocked h.staffed (.of_eq rfl) known (fun hslot => .inl ⟨_, hslot, rfl⟩)
    fun x hx _ ho _ => ⟨x, hx, ho⟩

/-- The caller makes a device. -/
theorem of_createDevice (h : Safe s) {name inst : String} {i : (driverOn M).Instance}
    {adapter : AdapterHandle} {what : DeviceDescriptor} {x : (driverOn M).Device}
    (hi : s.instances.lookup inst = some i)
    (may : careful.lends s (.createDevice name inst adapter what))
    (made : (driverOn M).createDevice i adapter what s.pool.env = .ok x e) :
    Safe { s.withEnv e with devices := Session.store name x s.devices } := by
  have yields : Yields [⟨.device (Device.handle x), [.inst i]⟩] (State.api s.pool.env.driver)
      (State.api e.driver) :=
    (makes_createDevice (e := s.pool.env) adapter what h.stocked.good (may i hi)).ok made
  have rest := h.withEnv_of_goes_nil yields.goes (.of_created made)
  obtain ⟨-, -, known, -⟩ := lifetimes.created made trivial
  refine rest.of_keepHandles fun y hy => ?_
  rcases Session.mem_of_mem_store hy with heq | hy
  · exact .inl (heq ▸ known)
  · exact .inr hy

/-- **Each move of a careful caller keeps a session safe.** -/
theorem of_move (h : Safe s) (hm : Move careful s l s') : Safe s' := by
  cases hm with
  | turns turn => exact h.withEnv_of_goes_nil (h.goes_turn turn) (.of_idled (Session.idled_turn turn))
  | creates made =>
    obtain ⟨yields, custody⟩ := yields_creates made h.stocked.good
    obtain ⟨ages, known⟩ : lifetimes.Ages s.pool.env _ ∧ _ :=
      Driver.Lifetimes.Ages.of_creates made
    obtain ⟨x, hx, known⟩ := known trivial
    refine h.of_addManager yields custody ages fun o ho => ?_
    cases hx.symm.trans ho
    exact known
  | borrows hi hx may made =>
    exact h.of_borrows (h.kept _ (Session.mem_of_lookup hx)) may.1 may.2 made
  | @keeps name x hx =>
    refine h.of_keepHandles fun y hy => ?_
    cases ho : x.2.device with
    | none =>
      rw [ho] at hy
      exact .inr hy
    | some o =>
      rw [ho] at hy
      refine (Session.mem_of_mem_store hy).imp_left fun heq => ?_
      rw [heq]
      exact h.staffed.known hx ho
  | makes hm hd may made like old new => exact h.of_makes hm hd may made like
  | destroys r => exact h.of_destroy r
  | reholds kept =>
    exact h.of_slots_eq rfl rfl h.staffed fun x hx _ ho => ⟨x, hx, ho⟩
  | edits ht buffer =>
    exact h.of_slots_eq (Pool.slot?_set ht buffer) rfl h.staffed fun x hx _ ho => ⟨x, hx, ho⟩
  | prunes hm like useful =>
    exact h.of_slots_eq rfl rfl ((hm ▸ h.staffed : Staffed _ _).of_like like) (crew_replace hm like)
  | closes hm hd closed left gone stay => exact h.of_shut hm hd closed left stay
  | @forgets n m l₁ l₂ hm closed =>
    refine h.of_slots_eq rfl rfl (hm ▸ h.staffed : Staffed _ _).of_remove fun x hx o ho => ?_
    rw [hm] at hx
    rcases Session.mem_around hx with rfl | hx
    · cases closed.symm.trans ho
    · exact ⟨x, hx, ho⟩
  | @lendsInstance name what i e may made =>
    have yields : Yields [⟨.inst i, []⟩] (State.api s.pool.env.driver) (State.api e.driver) :=
      (makes_createInstance (e := s.pool.env) what h.stocked.good).ok made
    have ages : lifetimes.Ages s.pool.env e := .of_idled (.of_ok (.createInstance _ _) made)
    exact (h.withEnv_of_goes_nil yields.goes ages).of_keepHandles fun _ => .inr
  | lendsDevice hi may made => exact h.of_createDevice hi may made
  | endsInstance hi may stay => exact h.of_destroyInstance hi may stay
  | releasesDevice hx may stay => exact h.of_releaseDevice hx may
  | endsDevice hx may stay => exact h.of_destroyDevice hx may stay

theorem of_moves (h : Safe s) (hm : Moves careful s l s') : Safe s' :=
  hm.induct (I := fun _ s => Safe s) (fun _ _ _ _ hm h => h.of_move hm) (k := []) h

end Safe

end GpuCompute.Vulkan
