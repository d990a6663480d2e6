import GpuCompute.Proofs.Accounts
import GpuCompute.Proofs.InMemory.Lifetimes
import GpuCompute.Proofs.Steps

/-!
# Objects are destroyed at most once

In a session on a recorded driver that knows which devices are alive, the account of objects is kept by
each move (`Session.Accounted.of_move`), and so by each run. It follows that whatever the managers and the
holders of resources do, and in whatever order, an object is destroyed at most once, on its own device
and before this has ended; and what is let go of later makes no call (`Session.disposal`).
-/

namespace GpuCompute

open Trace Recorder

variable {d : Driver} {life : d.Lifetimes}

namespace Pool

variable {p p' : Pool d.recorded} {r : ResourceId}

theorem devices_destroy (r : ResourceId) (p : Pool d.recorded) :
    (p.destroy r).env.driver.devices = p.env.driver.devices := by
  rcases driver_destroy r p with ⟨same, -⟩ | ⟨s, x, -, -, -, hdriver⟩
  · rw [same]
  · rw [hdriver, unmake_eq]
    rfl

theorem devices_makes (life : d.Lifetimes) {device : d.recorded.Device} {order : Order d.recorded}
    (h : p.Makes device order r p') : ∀ x ∈ p.env.driver.devices, x ∈ p'.env.driver.devices := by
  obtain ⟨e₁, x, e₂, asked, made, again, -⟩ := h
  obtain ⟨-, -, inner, -, rfl⟩ := make_ok made
  have first : p.env.driver.Idles life e₁.driver := idles_asked asked
  have last : Recorder.Idles life _ p'.env.driver := idles_asked again
  exact fun y hy => last.devices y (first.devices y hy)

end Pool

namespace Session

variable {P : Permit d.recorded} {s s' : Session d.recorded} {l : List (Manager d.recorded)}

/-- What a session knows about objects and devices agrees with the trace. -/
structure Accounted (life : d.Lifetimes) (s : Session d.recorded) : Prop where
  pool : s.pool.Accounted life
  managers : ∀ {x o}, x ∈ s.managers → x.2.device = some o →
    o.handle ∈ s.pool.env.driver.devices
  kept : ∀ {x}, x ∈ s.devices → x.2 ∈ s.pool.env.driver.devices

namespace Accounted

/-- A pool that is accounted for, and devices that were handed out before or are on the list now. -/
theorem of_changes (h : s.Accounted life) (pool : s'.pool.Accounted life)
    (devices : ∀ x ∈ s.pool.env.driver.devices, x ∈ s'.pool.env.driver.devices)
    (managers : ∀ x ∈ s'.managers, ∀ o, x.2.device = some o →
      o.handle ∈ s'.pool.env.driver.devices ∨ ∃ y ∈ s.managers, y.2.device = some o)
    (kept : ∀ x ∈ s'.devices, x.2 ∈ s'.pool.env.driver.devices ∨ x ∈ s.devices) :
    s'.Accounted life := by
  refine ⟨pool, fun hx ho => ?_, fun hx => ?_⟩
  · rcases managers _ hx _ ho with h' | ⟨y, hy, ho⟩
    · exact h'
    · exact devices _ (h.managers hy ho)
  · rcases kept _ hx with h' | hx
    · exact h'
    · exact devices _ (h.kept hx)

/-- Calls that leave objects alone, with the managers and the kept devices that there were. -/
theorem withEnv_of_spares (h : s.Accounted life) {e : Env d.recorded.State}
    (hs : s.pool.env.driver.Spares life e.driver) : (s.withEnv e).Accounted life :=
  h.of_changes (h.pool.of_spares hs rfl) hs.devices (fun x hx _ ho => .inr ⟨x, hx, ho⟩) fun _ => .inr

/-- **Each move keeps the account.** -/
theorem of_move (h : s.Accounted life) (hm : Move P s l s') : s'.Accounted life := by
  cases hm with
  | turns turn => exact h.withEnv_of_spares (idles_idled (idled_turn turn)).spares
  | creates made =>
    obtain ⟨idles, o, ho, hmem⟩ : s.pool.env.driver.Idles life _ ∧ _ := idles_creates made
    refine h.of_changes (h.pool.of_idles idles rfl) idles.devices ?_ fun _ => .inr
    intro x hx o' ho'
    rcases List.mem_append.1 hx with hx | hx
    · exact .inr ⟨x, hx, ho'⟩
    · rw [List.mem_singleton.1 hx, ho] at ho'
      cases ho'
      exact .inl hmem
  | borrows hi hx may made =>
    have idles : s.pool.env.driver.Idles life _ := idles_asked made.asked
    refine h.of_changes (h.pool.of_idles idles rfl) idles.devices ?_ fun _ => .inr
    intro y hy o ho
    rcases List.mem_append.1 hy with hy | hy
    · exact .inr ⟨y, hy, ho⟩
    · rw [List.mem_singleton.1 hy, made.device] at ho
      cases ho
      exact .inl (idles.devices _ (h.kept (mem_of_lookup hx)))
  | @keeps name x hx =>
    refine h.of_changes h.pool (fun _ => id) (fun x hx o ho => .inr ⟨x, hx, ho⟩) fun y hy => ?_
    cases ho : x.2.device with
    | none =>
      rw [ho] at hy
      exact .inr hy
    | some o =>
      rw [ho] at hy
      refine (mem_of_mem_store hy).imp_left fun heq => ?_
      rw [heq]
      exact h.managers hx ho
  | @makes n name m m' l₁ l₂ device order r p hm hd may made like old new =>
    have known : device.handle ∈ s.pool.env.driver.devices :=
      h.managers (hm ▸ List.mem_append_right _ List.mem_cons_self) hd
    have pool : p.Accounted life := h.pool.of_makes known made
    have devices := Pool.devices_makes life made
    refine h.of_changes (pool.of_idles (.refl _) rfl) devices ?_ fun _ => .inr
    intro x hx o ho
    obtain rfl | hx := mem_replace (a := (n, m)) hx
    · rw [like.device] at ho
      exact .inr ⟨(n, m), hm ▸ List.mem_append_right _ List.mem_cons_self, ho⟩
    · exact .inr ⟨x, hm ▸ hx, ho⟩
  | destroys r =>
    refine h.of_changes (h.pool.of_destroy r) ?_ (fun x hx o ho => .inr ⟨x, hx, ho⟩) fun _ => .inr
    exact fun x hx => (Pool.devices_destroy r s.pool).symm ▸ hx
  | reholds hkept =>
    exact h.of_changes (h.pool.of_idles (.refl _) rfl) (fun _ => id) (fun x hx o ho => .inr ⟨x, hx, ho⟩)
      fun _ => .inr
  | edits ht buffer =>
    exact h.of_changes (h.pool.of_idles (.refl _) (Pool.slot?_set ht buffer)) (fun _ => id)
      (fun x hx o ho => .inr ⟨x, hx, ho⟩) fun _ => .inr
  | @prunes n m m' l₁ l₂ hm like useful =>
    refine h.of_changes h.pool (fun _ => id) ?_ fun _ => .inr
    intro x hx o ho
    obtain rfl | hx := mem_replace (a := (n, m)) hx
    · rw [like.device] at ho
      exact .inr ⟨(n, m), hm ▸ List.mem_append_right _ List.mem_cons_self, ho⟩
    · exact .inr ⟨x, hm ▸ hx, ho⟩
  | @closes n m m' l₁ l₂ device hm hd closed left gone stay =>
    have known : device.handle ∈ s.pool.env.driver.devices :=
      h.managers (hm ▸ List.mem_append_right _ List.mem_cons_self) hd
    have shut : s.pool.env.driver.Spares life (m.shut device s.pool.env).driver := spares_shut known
    refine h.of_changes (h.pool.of_spares shut rfl) shut.devices ?_ fun _ => .inr
    intro x hx o ho
    obtain rfl | hx := mem_replace (a := (n, m)) hx
    · rw [closed] at ho
      cases ho
    · exact .inr ⟨x, hm ▸ hx, ho⟩
  | @forgets n m l₁ l₂ hm closed =>
    exact h.of_changes h.pool (fun _ => id) (fun x hx o ho => .inr ⟨x, hm ▸ mem_of_around hx, ho⟩)
      fun _ => .inr
  | lendsInstance may made =>
    have idles : s.pool.env.driver.Idles life _ :=
      idles_idled (.of_ok (.createInstance _ _) made)
    exact h.of_changes (h.pool.of_idles idles rfl) idles.devices (fun x hx o ho => .inr ⟨x, hx, ho⟩)
      fun _ => .inr
  | lendsDevice hi may made =>
    obtain ⟨idles, hmem⟩ : s.pool.env.driver.Idles life _ ∧ _ := idles_createDevice made
    refine h.of_changes (h.pool.of_idles idles rfl) idles.devices (fun x hx o ho => .inr ⟨x, hx, ho⟩) ?_
    intro y hy
    refine (mem_of_mem_store hy).imp_left fun heq => ?_
    rw [heq]
    exact hmem
  | endsInstance hi may stay =>
    exact h.withEnv_of_spares (idles_idled (.of_idles (.destroyInstance _ _))).spares
  | releasesDevice hx may stay =>
    exact h.withEnv_of_spares (spares_releaseDevice (h.kept (mem_of_lookup hx)))
  | endsDevice hx may stay =>
    exact h.withEnv_of_spares (spares_destroyDevice (h.kept (mem_of_lookup hx)))

theorem of_moves (h : s.Accounted life) (hm : Moves P s l s') : s'.Accounted life :=
  hm.induct (I := fun _ s => s.Accounted life) (fun _ _ _ _ hm h => h.of_move hm) (k := []) h

end Accounted

/-! ## Runs -/

/-- A new session on a recorded driver. -/
abbrev recordedStart (inner : d.State) : Session d.recorded := start ({ inner } : Recorder d)

theorem accounted_start {inner : d.State} (sound : life.Sound inner) :
    (recordedStart inner).Accounted life := by
  exact ⟨⟨sane_start sound, Always.nil, fun hs => absurd hs slot?_start, fun hs => absurd hs slot?_start,
    fun hs => absurd hs slot?_start, fun hs => absurd hs slot?_start⟩, fun hx => absurd hx managers_start,
    fun hx => absurd hx List.not_mem_nil⟩

/-- The session on a recorded driver after operations. -/
def recordedRun (inner : d.State) (ops : List Operation) : Session d.recorded :=
  steps ops (recordedStart inner)

/-- The calls that were made of the recorded driver of a session. -/
abbrev trace (s : Session d.recorded) : Trace := s.pool.env.driver.trace

/-- The account is kept in each run in which no objects are made or destroyed apart from resources. -/
theorem accounted_recordedRun {inner : d.State} (sound : life.Sound inner) {ops : List Operation}
    (hplain : ∀ c, .call c ∈ ops → plain c) : (recordedRun inner ops).Accounted life := by
  have obs := observesAll_lending (d := d.recorded) (fun _ => True)
    (fun c hc => ⟨hplain c hc, trivial⟩) (recordedStart inner)
  exact (accounted_start sound).of_moves (reaches_steps (named_start _) obs).moves

theorem withResource_apply {s : Session d} {name : String} {r : ResourceId}
    (hname : s.pool.find? name = some r) (act : ResourceId → Attempt (Session d) (Reply d)) :
    withResource name act s = act r s := by
  unfold withResource
  rw [Attempt.get_bind, hname]

theorem step_destroy {s : Session d} {name : String} {r : ResourceId}
    (hname : s.pool.find? name = some r) : step (.destroy name) s =
      .ok (.isInit ((s.pool.destroy r).isInit r)) (s.onPool (.destroy r)) :=
  withResource_apply hname _

theorem step_drop {s : Session d} {name : String} {r : ResourceId}
    (hname : s.pool.find? name = some r) :
    step (.drop name) s = .ok .dropped (s.onPool (.drop name)) :=
  withResource_apply hname _

/-- **No object is destroyed twice, on another device than its own, or after its device has ended.**
Whatever managers and holders do, and whatever fails, each call that destroys an object is lawful. Once
the device of a resource was released or destroyed, to destroy the resource makes no call, and neither
does letting go of it, apart from tensors that it binds on other devices; afterwards it is gone. -/
theorem disposal (life : d.Lifetimes) {inner : d.State} (sound : life.Sound inner)
    {ops : List Operation} (hplain : ∀ c, .call c ∈ ops → plain c) :
    let s := recordedRun inner ops
    Always Lawful s.trace ∧
    ∀ name r slot, s.pool.find? name = some r → s.pool.slot? r = some slot →
      Ended s.trace slot.device.id →
      (∃ s', step (.destroy name) s = .ok (.isInit false) s' ∧
        s'.pool.env.driver = s.pool.env.driver ∧ s'.pool.isInit r = false) ∧
      ∃ s', step (.drop name) s = .ok .dropped s' ∧
        (s'.pool.isHeld r = false → s'.pool.isInit r = false) ∧
        ∃ T, s'.trace = s.trace ++ T ∧
          ∀ event ∈ T, ∃ t, s.pool.keeps t r ∧ s.pool.Calls (.tensor t) event := by
  intro s
  have account : s.Accounted life := accounted_recordedRun sound hplain
  refine ⟨account.pool.lawful, fun name r slot hname hslot ended => ⟨?_, ?_⟩⟩
  · have gone := Pool.isInit_destroy r s.pool
    refine ⟨s.onPool (.destroy r), ?_, account.pool.driver_destroy_of_ended hslot ended, gone⟩
    rw [step_destroy hname, gone]
  · refine ⟨s.onPool (.drop name), step_drop hname, ?_⟩
    have hdrop : s.pool.drop name = (s.pool.withHeld (without name s.pool.held)).reap r := by
      unfold Pool.drop
      rw [hname]
      rfl
    obtain ⟨q, hq, hdestroys, hgone⟩ := Pool.reap_cases r (without name s.pool.held) s.pool
    have rest : (s.pool.withHeld (without name s.pool.held)).Accounted life :=
      account.pool.of_idles (.refl _) rfl
    refine ⟨fun lost => ?_, ?_⟩
    · change (s.pool.drop name).isHeld r = false at lost
      change (s.pool.drop name).isInit r = false
      rw [hdrop, hq] at lost ⊢
      rw [Pool.isInit_withHeld]
      rw [hdestroys.isHeld_withHeld] at lost
      exact hgone lost r (.inl rfl) lost
    · change ∃ T, (s.pool.drop name).env.driver.trace = _ ∧ _
      rw [hdrop]
      exact rest.trace_reap_of_ended hslot ended

/-- A device is released while a tensor on it is still held. -/
def releasedEarly : List Operation :=
  [.call (.createInstance "instance" ⟨"vkrt", 1, 1, [], [], false⟩),
    .call (.createDevice "device" "instance" 1 ⟨[], [], []⟩),
    .borrow "manager" "instance" "device" 1 [0] {},
    .tensorOfBytes "manager" "tensor" [1, 2, 3, 4] 1 4 .int,
    .call (.releaseDevice "device")]

theorem disposal_releasedEarly :
    let s : Session InMemory.driver.recorded :=
      recordedRun ({ offer := {} } : InMemory.State) releasedEarly
    Always Lawful s.trace ∧ Made s.trace .buffer 1 3 ∧ Ended s.trace 1 ∧
      ∃ s', step (.destroy "tensor") s = .ok (.isInit false) s' ∧
        s'.pool.env.driver = s.pool.env.driver := by
  intro s
  have sound : InMemory.lifetimes.Sound ({ offer := {} } : InMemory.State) := nofun
  have hplain : ∀ c, .call c ∈ releasedEarly → plain c := by
    intro c hc
    simp only [releasedEarly, List.mem_cons, List.not_mem_nil, Operation.call.injEq, reduceCtorEq,
      or_false, false_or] at hc
    obtain rfl | rfl | rfl := hc <;> rfl
  have ended : Ended s.trace 1 := .inl (List.mem_of_getElem? (i := 4) rfl)
  obtain ⟨lawful, after⟩ := disposal InMemory.lifetimes sound hplain
  obtain ⟨⟨s', hstep, hdriver, -⟩, -⟩ := after "tensor" (.tensor 0) _ rfl rfl ended
  exact ⟨lawful, ⟨.buffer 4 0x33, rfl, rfl⟩, ended, s', hstep, hdriver⟩

end Session

end GpuCompute
