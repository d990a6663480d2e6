import GpuCompute.Proofs.Steps
import GpuCompute.Proofs.Vulkan.Safety

/-!
# Calls that a caller makes by itself

Besides managers and their resources, a session has calls of the driver by which the caller makes
callbacks, buffers, pipelines and command batches of its own. They keep a session safe when the caller
ends only what it made and nobody else has (`InOrder.of_call`).
-/

namespace GpuCompute.Vulkan

open Api Session

variable {M : MemoryLibrary} [M.Lawful] {α : Type} {s s' : Session (driverOn M)}

/-- A session is safe, and the names in it are different. -/
structure InOrder (s : Session (driverOn M)) : Prop where
  safe : Safe s
  named : s.Named

/-- Only what the caller has besides devices is different. -/
structure Aside (s s' : Session (driverOn M)) : Prop where
  pool : s'.pool = s.pool
  managers : s'.managers = s.managers
  devices : s'.devices = s.devices

namespace InOrder

omit [M.Lawful] in
theorem of_aside (h : InOrder s) (same : Aside s s') : InOrder s' := by
  obtain ⟨⟨stocked, staffed, kept, manned⟩, names, held⟩ := h
  rw [← same.pool] at stocked held
  rw [← same.pool, ← same.managers] at staffed manned
  rw [← same.pool, ← same.devices] at kept
  rw [← same.managers] at names
  exact ⟨⟨stocked, staffed, kept, manned⟩, names, held⟩

/-- Something is made for the caller, or cannot be made. -/
theorem addObject (h : InOrder s) {make : Act (driverOn M).State α}
    {put : α → Session (driverOn M) → Session (driverOn M)}
    (put_aside : ∀ a s, Aside s (put a s))
    (goes : Goes [] s.pool.env (make.after s.pool.env))
    (ages : lifetimes.Ages s.pool.env (make.after s.pool.env)) :
    InOrder ((Session.addObject make put).after s) := by
  have quiet : InOrder (s.withEnv (make.after s.pool.env)) :=
    ⟨h.safe.withEnv_of_goes_nil goes ages, h.named.managers, h.named.held⟩
  unfold Session.addObject
  cases hmake : make s.pool.env with
  | ok a e =>
    rw [Attempt.after_bind_of_ok (run_ok hmake), Attempt.after_modify_bind, Attempt.after_pure]
    rw [Attempt.after_of_ok hmake] at quiet
    exact quiet.of_aside (put_aside a _)
  | error error e =>
    rw [Attempt.after_bind_of_error (run_error hmake)]
    rwa [Attempt.after_of_error hmake] at quiet

/-- Something of the caller is ended, if there is such a thing. -/
theorem takeObject (h : InOrder s) {name : String}
    {entries : Session (driverOn M) → List (String × α)}
    {put : List (String × α) → Session (driverOn M) → Session (driverOn M)}
    {consume : α → Env (driverOn M).State → Env (driverOn M).State}
    (put_aside : ∀ l s, Aside s (put l s))
    (ends : ∀ a, (entries s).lookup name = some a → ∃ gone,
      Goes gone s.pool.env (consume a s.pool.env) ∧ (∀ t ∈ gone, Loose s t) ∧
        lifetimes.Ages s.pool.env (consume a s.pool.env))
    (stay : ∀ x ∈ ((Session.takeObject name entries put consume).after s).managers,
      Lent (trace ((Session.takeObject name entries put consume).after s)) x.2) :
    InOrder ((Session.takeObject name entries put consume).after s) := by
  unfold Session.takeObject at stay ⊢
  rw [Attempt.after_get_bind] at stay ⊢
  cases ha : (entries s).lookup name with
  | none => exact h
  | some a =>
    rw [ha] at stay
    obtain ⟨gone, goes, loose, ages⟩ := ends a ha
    let taken := put (without name (entries s)) s
    have same : Aside (s.withEnv (consume a s.pool.env)) (taken.onEnv (consume a)) :=
      ⟨congrArg (Pool.onEnv (consume a)) (put_aside _ s).pool, (put_aside _ s).managers,
        (put_aside _ s).devices⟩
    have lent : ∀ x ∈ s.managers,
        Lent (State.api (consume a s.pool.env).driver).trace x.2 := by
      intro x hx
      have lent : Lent (trace (taken.onEnv (consume a))) x.2 :=
        stay x (same.managers ▸ hx)
      unfold trace at lent
      rwa [same.pool] at lent
    have rest : InOrder (s.withEnv (consume a s.pool.env)) :=
      ⟨h.safe.withEnv goes loose lent ages, h.named.managers, h.named.held⟩
    exact rest.of_aside same

/-- An object is made for the caller, on a device that it keeps. -/
theorem addObject_of_make (h : InOrder s) {device : String} {x : (driverOn M).Device}
    (order : Order (driverOn M))
    {act : Act (driverOn M).State α} {put : α → Session (driverOn M) → Session (driverOn M)}
    (hx : s.devices.lookup device = some x) (may : MayLoad s device)
    (buffers : ∀ b ∈ order.binds, Live (trace s) (.object .buffer (Buffer.handle b)))
    (same : ((driverOn M).make x order).after s.pool.env = act.after s.pool.env)
    (put_aside : ∀ a s, Aside s (put a s)) :
    InOrder ((Session.addObject act put).after s) := by
  have known : Device.Known x s.pool.env.driver := h.safe.kept _ (mem_of_lookup hx)
  have made : Makes (parts (Device.handle x)) s.pool.env ((driverOn M).make x order) s.pool.env :=
    makes_make (e := s.pool.env) order h.safe.stocked.good (may x hx) known buffers
  have goes := made.goes
  have ages : lifetimes.Ages s.pool.env (((driverOn M).make x order).after s.pool.env) :=
    .of_passes (.make x order s.pool.env)
  rw [same] at ages
  exact h.addObject put_aside (same ▸ goes) ages

/-- An object of the caller is destroyed, on a device that it keeps. -/
theorem takeObject_of_unmake (h : InOrder s) {device name : String} (kind : α → Object (driverOn M))
    {entries : Session (driverOn M) → List (String × α)}
    {put : List (String × α) → Session (driverOn M) → Session (driverOn M)}
    (put_aside : ∀ l s, Aside s (put l s)) (may : MayLoad s device)
    (ends : ∀ x a, s.devices.lookup device = some x → (entries s).lookup name = some a →
      MayEnd s (parts (Device.handle x) (kind a)))
    (stay : ∀ x ∈ ((withDevice device fun x => Session.takeObject name entries put fun a =>
      (driverOn M).unmake x (kind a)).after s).managers, Lent (trace ((withDevice device fun x =>
        Session.takeObject name entries put fun a => (driverOn M).unmake x (kind a)).after s)) x.2) :
    InOrder ((withDevice device fun x => Session.takeObject name entries put fun a =>
      (driverOn M).unmake x (kind a)).after s) := by
  rw [after_withDevice] at stay ⊢
  cases hx : s.devices.lookup device with
  | none => exact h
  | some x =>
    rw [hx] at stay
    refine h.takeObject put_aside (fun a ha => ?_) stay
    have known : Device.Known x s.pool.env.driver := h.safe.kept _ (mem_of_lookup hx)
    refine ⟨_, goes_unmake (e := s.pool.env) (x := x) h.safe.stocked.good (may x hx) known
      fun p hp => (ends x a hx ha p hp).1, fun t ht => ?_, .of_passes (.unmake x (kind a) s.pool.env)⟩
    obtain ⟨p, hp, rfl⟩ := List.mem_map.1 ht
    exact (ends x a hx ha p hp).2

end InOrder

omit [M.Lawful] in
/-- The buffers that are bound are those of the names. -/
theorem mem_looseBindings {bs : List (Binding String)} {bindings : List (Binding (driverOn M).Buffer)}
    (h : s.looseBindings bs = .ok bindings) :
    ∀ b ∈ bindings, ∃ b' ∈ bs, s.buffers.lookup b'.buffer = some b.buffer := by
  induction bs generalizing bindings with
  | nil =>
    cases h
    nofun
  | cons b bs ih =>
    unfold Session.looseBindings at h
    cases hb : s.buffers.lookup b.buffer with
    | none =>
      rw [hb] at h
      cases h
    | some buffer =>
      rw [hb] at h
      cases hbs : s.looseBindings bs with
      | error name =>
        rw [hbs] at h
        cases h
      | ok rest =>
        rw [hbs] at h
        cases h
        intro c hc
        rcases List.mem_cons.1 hc with rfl | hc
        · exact ⟨b, List.mem_cons_self, hb⟩
        · obtain ⟨c', hc', heq⟩ := ih hbs c hc
          exact ⟨c', List.mem_cons_of_mem _ hc', heq⟩

/-- **Calls that a caller makes by itself for its own objects keep a session safe.** -/
theorem InOrder.of_call (h : InOrder s) {c : DriverCall} (hc : plain c = false) (may : MayCall s c)
    (stay : ∀ x ∈ ((Session.call c).after s).managers,
      Lent (trace ((Session.call c).after s)) x.2) : InOrder ((Session.call c).after s) := by
  have good := h.safe.stocked.good
  cases c with
  | registerCallbacks name inst =>
    refine after_withInstance_induct h fun i hi => ?_
    have made := makes_registerCallbacks (e := s.pool.env) good (may i hi)
    exact h.addObject (fun _ _ => ⟨rfl, rfl, rfl⟩) made.goes
      (.of_idled (.of_idles (.registerCallbacks i s.pool.env)))
  | unregisterCallbacks inst name =>
    unfold Session.call at stay ⊢
    rw [after_withInstance] at stay ⊢
    cases hi : s.instances.lookup inst with
    | none => exact h
    | some i =>
      rw [hi] at stay
      refine h.takeObject (fun _ _ => ⟨rfl, rfl, rfl⟩) (fun c hc => ?_) stay
      have ends := may.2 i c hi hc
      refine ⟨_, goes_unregisterCallbacks (e := s.pool.env) good (may.1 i hi)
        fun p hp => (ends p hp).1, fun t ht => ?_,
        .of_idled (.of_idles (.unregisterCallbacks i c s.pool.env))⟩
      obtain ⟨p, hp, rfl⟩ := List.mem_map.1 ht
      exact (ends p hp).2
  | createBuffer name device size usage =>
    exact after_withDevice_induct h fun x hx =>
      h.addObject_of_make (.buffer size usage) hx may nofun (Attempt.after_map _ _ _)
        fun _ _ => ⟨rfl, rfl, rfl⟩
  | createBatch name device family timestamps =>
    exact after_withDevice_induct h fun x hx =>
      h.addObject_of_make (.batch family timestamps) hx may nofun (Attempt.after_map _ _ _)
        fun _ _ => ⟨rfl, rfl, rfl⟩
  | createPipeline name device what =>
    refine after_withDevice_induct h fun x hx => ?_
    rw [Attempt.after_get_bind]
    cases hb : s.looseBindings what.bindings with
    | error buffer => exact h
    | ok bindings =>
      refine h.addObject_of_make (.pipeline { what with bindings }) hx may.1 (fun b hb' => ?_)
        (Attempt.after_map _ _ _) fun _ _ => ⟨rfl, rfl, rfl⟩
      obtain ⟨binding, hbinding, rfl⟩ := List.mem_map.1 hb'
      obtain ⟨named, hnamed, heq⟩ := mem_looseBindings hb binding hbinding
      exact may.2 named hnamed _ heq
  | destroyBuffer device buffer =>
    exact h.takeObject_of_unmake .buffer (fun _ _ => ⟨rfl, rfl, rfl⟩) may.1 may.2 stay
  | destroyPipeline device pipeline =>
    exact h.takeObject_of_unmake .pipeline (fun _ _ => ⟨rfl, rfl, rfl⟩) may.1 may.2 stay
  | destroyBatch device batch =>
    exact h.takeObject_of_unmake .batch (fun _ _ => ⟨rfl, rfl, rfl⟩) may.1 may.2 stay
  | createInstance | destroyInstance | createDevice | releaseDevice | destroyDevice | probeDevice
  | survey => cases hc

end GpuCompute.Vulkan
