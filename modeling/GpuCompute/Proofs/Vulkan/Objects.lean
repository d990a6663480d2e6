import GpuCompute.Proofs.Vulkan.Building
import GpuCompute.Proofs.Vulkan.Chains
import GpuCompute.Proofs.Vulkan.Lifetimes

/-!
# Objects of Vulkan devices

The calls of the driver that make and destroy buffers, pipelines and command batches. What the
allocator does for a buffer only uses the device (`Api.Works`). When the device and the bound buffers
may be used, an object is made of parts that stand afterwards, or nothing is left of it
(`makes_make`); when its parts stand, they are all that its destruction ends (`goes_unmake`).
-/

namespace GpuCompute.Vulkan

variable {α β : Type} {request : Request} {a a' a'' : Api} {e e' : Env State} {x : Device}
  {error : Error} {M : MemoryLibrary} [M.Lawful]

/-! ## Calls that only use a device -/

/-- Calls that only use a device: they are fine when it may be used, and end nothing. -/
def Api.Works (device : Nat) (a a' : Api) : Prop :=
  a.Good → Live a.trace (.device device) → Goes [] a a'

namespace Api

variable {device : Nat}

theorem Works.refl (a : Api) : Works device a a := fun good _ => .refl good

theorem Works.trans (a a' a'' : Api) (h : Works device a a') (h' : Works device a' a'') :
    Works device a a'' := fun good live =>
  have goes := h good live
  goes.then_ (h' goes.after (goes.live live))

theorem works_of_adds {outcome : Outcome} (h : Adds request outcome a a')
    (uses : request.uses = [.device device]) (ends : request.ends = []) : Works device a a' := by
  intro good live
  have goes := goes_of_adds h good fun t ht => by
    rw [uses] at ht
    exact List.mem_singleton.1 ht ▸ live
  rwa [ends] at goes

theorem works_of_calls (h : Calls (Request.OfMemory device) a a') : Works device a a' := by
  refine h.induct (R := Works device) (.refl a) fun {a₁ a₂ request outcome} works hr adds => ?_
  simp only [Request.OfMemory, List.mem_cons, List.not_mem_nil, or_false] at hr
  obtain rfl | rfl | rfl | rfl := hr <;>
    exact .trans _ _ _ works (works_of_adds adds rfl rfl)

end Api

open Api

/-! ## Making and ending, in an environment -/

/-- The calls between two environments are fine and have ended nothing that stood before, apart from
some things. -/
abbrev Goes (gone : List Thing) (e e' : Env State) : Prop :=
  Api.Goes gone e.driver.api e'.driver.api

/-- What comes of an action that goes on from `e`, counted from `e₀`: it makes something, or nothing is
left of it. -/
structure Makes (parts : α → List Part) (e₀ : Env State) (act : Act State α) (e : Env State) :
    Prop where
  ok : ∀ {x e'}, act e = .ok x e' → Yields (parts x) e₀.driver.api e'.driver.api
  error : ∀ {error e'}, act e = .error error e' → Goes [] e₀ e'

namespace Makes

variable {e₀ : Env State} {parts : α → List Part} {ps : List Part}

theorem pure {x : α} (h : Yields (parts x) e₀.driver.api e.driver.api) :
    Makes parts e₀ (Pure.pure x) e :=
  ⟨fun heq => by cases heq; exact h, fun heq => by cases heq⟩

theorem throw {error : Error} (h : Goes [] e₀ e) :
    Makes parts e₀ (MonadExcept.throw error : Act State α) e :=
  ⟨fun heq => (by cases heq), fun heq => by cases heq; exact h⟩

theorem goes {act : Act State α} (h : Makes parts e₀ act e) : Goes [] e₀ (act.after e) := by
  cases hact : act e with
  | ok x e' => exact Attempt.after_of_ok hact ▸ (h.ok hact).goes
  | error error e' => exact Attempt.after_of_error hact ▸ h.error hact

theorem of_get {f : Env State → Act State α} (h : Makes parts e₀ (f e) e) :
    Makes parts e₀ (MonadState.get >>= f) e := ⟨h.ok, h.error⟩

theorem withApi {act : Attempt Api α} (h : Builds parts e.driver.api act e.driver.api) :
    Makes parts e (withApi act) e where
  ok hact := by
    obtain ⟨api, hapi, rfl⟩ := withApi_eq_ok.1 hact
    exact h.ok hapi
  error hact := by
    obtain ⟨api, hapi, rfl⟩ := withApi_eq_error.1 hact
    exact h.error hapi

theorem map {f : α → β} {parts : β → List Part} {act : Act State α}
    (h : Makes (fun a => parts (f a)) e₀ act e) : Makes parts e₀ (f <$> act) e where
  ok hact := by
    obtain ⟨a, ha, rfl⟩ := Attempt.map_eq_ok.1 hact
    exact h.ok ha
  error hact := h.error (Attempt.map_eq_error.1 hact)

/-- The first call makes something. -/
theorem make (thing : Nat → Thing) {rest : Nat → Act State α} (good : e.driver.api.Good)
    (live : ∀ t ∈ request.uses, Live e.driver.api.trace t)
    (product : ∀ id, request.product? id = some (thing id))
    (next : ∀ id e₁, Serves e e₁ →
      Yields [⟨thing id, request.parents⟩] e.driver.api e₁.driver.api →
      Makes parts e (rest id) e₁) :
    Makes parts e (Vulkan.withApi (Api.make request) >>= rest) e := by
  have first := builds_make request thing good live product
  have made {id : Nat} {e₁ : Env State} (h : Vulkan.withApi (Api.make request) e = .ok id e₁) :
      Makes parts e (rest id) e₁ := by
    obtain ⟨api, hapi, rfl⟩ := withApi_eq_ok.1 h
    exact next id _ rfl (first.ok hapi)
  refine ⟨fun h => ?_, fun h => ?_⟩
  · obtain ⟨id, e₁, h₁, h⟩ := Attempt.bind_eq_ok.1 h
    exact (made h₁).ok h
  · rcases Attempt.bind_eq_error.1 h with failed | ⟨id, e₁, h₁, h⟩
    · obtain ⟨api, hapi, rfl⟩ := withApi_eq_error.1 failed
      exact first.error hapi
    · exact (made h₁).error h

/-- A call that makes and ends nothing. -/
theorem call (request : Request) {rest : Act State α} (acc : Yields ps e₀.driver.api e.driver.api)
    (live : ∀ t ∈ request.uses, Live e.driver.api.trace t) (ends : request.ends = [])
    (next : Goes [] e (Vulkan.call request e) →
      Yields ps e₀.driver.api (Vulkan.call request e).driver.api →
      Makes parts e₀ rest (Vulkan.call request e)) :
    Makes parts e₀ (modify (Vulkan.call request) >>= fun _ => rest) e := by
  have goes : Goes [] e (Vulkan.call request e) := ends ▸ goes_call request acc.goes.after live
  have made := next goes (acc.then_ goes)
  exact ⟨made.ok, made.error⟩

/-- A stage that makes and ends nothing; when it fails, what was made before it is ended again. -/
theorem stage {act : Act State β} {undo : Env State → Env State} {rest : β → Act State α}
    (acc : Yields ps e₀.driver.api e.driver.api) (goes : Goes [] e (act.after e))
    (undone : Yields ps e₀.driver.api (act.after e).driver.api →
      ∃ gone, Goes gone (act.after e) (undo (act.after e)) ∧ ∀ t ∈ gone, ∃ p ∈ ps, p.thing = t)
    (next : ∀ b, Yields ps e₀.driver.api (act.after e).driver.api →
      Makes parts e₀ (rest b) (act.after e)) :
    Makes parts e₀ (Attempt.undoing undo act >>= rest) e := by
  have yields := acc.then_ goes
  refine ⟨fun h => ?_, fun h => ?_⟩
  · obtain ⟨b, e₁, h₁, h⟩ := Attempt.bind_eq_ok.1 h
    exact (next b yields).ok (Attempt.after_of_ok (Attempt.undoing_eq_ok.1 h₁) ▸ h)
  · rcases Attempt.bind_eq_error.1 h with h₁ | ⟨b, e₁, h₁, h⟩
    · obtain ⟨e₁, failed, rfl⟩ := Attempt.undoing_eq_error.1 h₁
      obtain ⟨gone, hundo, hgone⟩ := undone yields
      rw [Attempt.after_of_error failed] at hundo yields
      exact yields.goes_undone hundo hgone
    · exact (next b yields).error (Attempt.after_of_ok (Attempt.undoing_eq_ok.1 h₁) ▸ h)

end Makes

/-- A call that may fail, and makes and ends nothing. -/
theorem goes_invoke (request : Request) (good : e.driver.api.Good)
    (live : ∀ t ∈ request.uses, Live e.driver.api.trace t) (ends : request.ends = []) :
    Goes [] e ((withApi (invoke request)).after e) := by
  cases h : withApi (invoke request) e with
  | ok _ e' =>
    obtain ⟨api, hapi, rfl⟩ := withApi_eq_ok.1 h
    exact Attempt.after_of_ok h ▸ ends ▸ goes_of_adds (check_ok hapi) good live
  | error error e' =>
    obtain ⟨api, hapi, rfl⟩ := withApi_eq_error.1 h
    obtain ⟨code, adds⟩ := check_error hapi
    exact Attempt.after_of_error h ▸ ends ▸ goes_of_adds adds good live

/-! ## Buffers -/

theorem goes_allocate (r : Requirements) (good : e.driver.api.Good)
    (hdevice : Live e.driver.api.trace (.device x.handle)) (known : x.Known e.driver) :
    Goes [] e ((allocate M x r).after e) := by
  unfold Attempt.after Attempt.outcome allocate
  cases ha : e.driver.allocator? x with
  | none => exact .refl good
  | some a =>
    have works : Works x.handle e.driver.api ((M.allocate r a).after e.driver.api) :=
      known.device_allocator ha ▸ works_of_calls (MemoryLibrary.Lawful.calls_allocate r a e.driver.api)
    dsimp only
    cases h : withApi (M.allocate r a) e with
    | error error e' =>
      obtain ⟨api, hapi, rfl⟩ := withApi_eq_error.1 h
      exact Attempt.after_of_error hapi ▸ works good hdevice
    | ok allocated e' =>
      obtain ⟨api, hapi, rfl⟩ := withApi_eq_ok.1 h
      exact Attempt.after_of_ok hapi ▸ works good hdevice

/-- An object of a device is destroyed. -/
theorem goes_destroy {kind : ObjectKind} {object : Nat} (good : e.driver.api.Good)
    (hdevice : Live e.driver.api.trace (.device x.handle))
    (stands : Stands e.driver.api.trace (.object kind object) [.device x.handle]) :
    Goes [.object kind object] e (call (.destroy x.handle kind object) e) := by
  refine goes_call (.destroy x.handle kind object) good fun t ht => ?_
  rcases List.mem_cons.1 ht with rfl | ht
  · exact hdevice
  · rw [List.mem_singleton.1 ht]
    exact .mk stands (by simpa using hdevice)

theorem goes_giveUpBuffer {b : Buffer} (good : e.driver.api.Good)
    (hdevice : Live e.driver.api.trace (.device x.handle)) (known : x.Known e.driver)
    (stands : Stands e.driver.api.trace (.object .buffer b.handle) [.device x.handle]) :
    Goes [.object .buffer b.handle] e (giveUpBuffer M x b e).2 := by
  have first := goes_destroy good hdevice stands
  have device := first.live_of_role (by simp [Thing.role]) hdevice (by simp [Thing.role])
  unfold giveUpBuffer
  dsimp only
  generalize hcalled : call (.destroy x.handle .buffer b.handle) e = called at first device
  have known : x.Known called.driver := hcalled ▸ known
  cases hfree : free M x b.allocation called.driver with
  | error fault => exact first
  | ok s =>
    refine first.then_ ?_
    unfold free at hfree
    cases ha : called.driver.allocator? x with
    | none =>
      rw [ha] at hfree
      cases hfree
      exact .refl first.after
    | some m =>
      rw [ha] at hfree
      cases hf : M.free b.allocation m called.driver.api with
      | error fault => simp [hf, bind, Except.bind] at hfree
      | ok freed =>
        obtain ⟨m', api⟩ := freed
        simp only [hf, bind, Except.bind, pure, Except.pure, Except.ok.injEq] at hfree
        rw [← hfree]
        have works : Works x.handle called.driver.api api := known.device_allocator ha ▸
          works_of_calls ((MemoryLibrary.Lawful.calls_free hf).mono fun _ => Request.Frees.ofMemory)
        exact works first.after device

theorem goes_discardBuffer {b : Buffer} (good : e.driver.api.Good)
    (hdevice : Live e.driver.api.trace (.device x.handle)) (known : x.Known e.driver)
    (stands : Stands e.driver.api.trace (.object .buffer b.handle) [.device x.handle]) :
    Goes [.object .buffer b.handle] e (discardBuffer M x b e) := by
  rw [Goes, driver_discardBuffer]
  exact goes_giveUpBuffer good hdevice known stands

/-- The part of a buffer on a device. -/
def Buffer.parts (device : Nat) (b : Buffer) : List Part :=
  [⟨.object .buffer b.handle, [.device device]⟩]

theorem known_of_serves (known : x.Known e.driver) (serves : Serves e e') : x.Known e'.driver := by
  unfold Device.Known at known ⊢
  rwa [show e'.driver.served = e.driver.served from serves]

/-- A buffer that was made is destroyed again when there is no memory for it, and also when it cannot
be bound to its memory. -/
theorem makes_createBuffer (size : UInt64) (usage : UInt32) (good : e.driver.api.Good)
    (hdevice : Live e.driver.api.trace (.device x.handle)) (known : x.Known e.driver) :
    Makes (Buffer.parts x.handle) e (createBuffer M x size usage) e := by
  unfold createBuffer
  refine .of_get ?_
  dsimp only
  split
  · exact .throw (.refl good)
  refine .make (.object .buffer) good (by simpa [Request.uses, Creation.uses] using hdevice)
    (fun _ => rfl) fun handle e₁ serves₁ made => ?_
  have device₁ := made.goes.live hdevice
  have buffer₁ : Live e₁.driver.api.trace (.object .buffer handle) :=
    made.live List.mem_cons_self (by simpa [Request.parents, Creation.pool?] using device₁)
  refine .call (.bufferRequirements x.handle handle) made ?_ rfl fun goes₂ made₂ => .of_get ?_
  · simp only [Request.uses, List.mem_cons, List.not_mem_nil, or_false]
    rintro t (rfl | rfl)
    · exact device₁
    · exact buffer₁
  have device₂ := goes₂.live device₁
  have known₂ : x.Known (call (.bufferRequirements x.handle handle) e₁).driver :=
    known_of_serves known serves₁
  generalize call (.bufferRequirements x.handle handle) e₁ = e₂ at made₂ device₂ known₂ ⊢
  generalize (State.api e₂.driver).host.memory.requirements (max size 1) = r
  have goes₃ := goes_allocate (M := M) r made₂.goes.after device₂ known₂
  have device₃ := goes₃.live device₂
  have known₃ := known_of_serves known₂ (serves_allocate (M := M) x r e₂)
  refine .stage made₂ goes₃ (fun made₃ => ?_) fun allocation made₃ => ?_
  · exact ⟨_, goes_destroy made₃.goes.after device₃ (made₃.made _ List.mem_cons_self).1, by simp⟩
  generalize (allocate M x r).after e₂ = e₃ at made₃ device₃ known₃ ⊢
  have goes₄ := goes_invoke (.bindBuffer x.handle handle) made₃.goes.after
    (by simpa [Request.uses] using ⟨device₃, made₃.live_object device₃ List.mem_cons_self⟩) rfl
  refine .stage made₃ goes₄ (fun made₄ => ?_) fun _ made₄ => .pure made₄
  have known₄ := known_of_serves known₃ (serves_withApi (invoke (.bindBuffer x.handle handle)) e₃)
  exact ⟨_, goes_giveUpBuffer made₄.goes.after (goes₄.live device₃) known₄
    (made₄.made _ List.mem_cons_self).1, by simp⟩

/-! ## All objects -/

theorem makes_createPipeline {what : PipelineDescriptor Buffer} (good : e.driver.api.Good)
    (hdevice : Live e.driver.api.trace (.device x.handle))
    (buffers : ∀ b ∈ what.bindings, Live e.driver.api.trace (.object .buffer b.buffer.handle)) :
    Makes (Pipeline.parts x.handle) e (createPipeline x what) e := by
  have made := Makes.withApi (builds_pipeline
    { what with bindings := what.bindings.map fun b => { b with buffer := b.buffer.handle } }
    good hdevice fun b hb => by
      obtain ⟨b', hb', rfl⟩ := List.mem_map.1 hb
      exact buffers b' hb')
  refine ⟨fun h => ?_, fun h => ?_⟩
  · obtain ⟨p, e₁, h₁, h⟩ := Attempt.bind_eq_ok.1 h
    cases h
    have yields := made.ok h₁
    exact yields
  · rcases Attempt.bind_eq_error.1 h with h₁ | ⟨p, e₁, -, h⟩
    · exact made.error h₁
    · cases h

/-- The parts of an object of a device. -/
def parts (device : Nat) : Object (driverOn M) → List Part
  | .buffer b => Buffer.parts device b
  | .pipeline p => Pipeline.parts device p
  | .batch b => CommandBatch.parts device b

omit [M.Lawful] in
theorem role_of_parts {device : Nat} {object : Object (driverOn M)} {p : Part}
    (hp : p ∈ parts device object) : p.thing.role = .object := by
  cases object with
  | buffer b =>
    rw [List.mem_singleton.1 hp]
    rfl
  | pipeline b =>
    simp only [parts, Pipeline.parts, List.mem_cons, List.not_mem_nil, or_false] at hp
    obtain rfl | rfl | rfl | rfl | rfl | rfl := hp <;> rfl
  | batch b =>
    rcases List.mem_append.1 hp with hp | hp
    · simp only [List.mem_cons, List.not_mem_nil, or_false] at hp
      obtain rfl | rfl | rfl := hp <;> rfl
    · obtain ⟨q, -, rfl⟩ := Option.map_eq_some_iff.1 (Option.mem_toList.1 hp)
      rfl

/-- **An object is made of parts that stand afterwards, or nothing is left of it.** -/
theorem makes_make (order : Order (driverOn M)) (good : e.driver.api.Good)
    (hdevice : Live e.driver.api.trace (.device x.handle)) (known : x.Known e.driver)
    (buffers : ∀ b ∈ order.binds, Live e.driver.api.trace (.object .buffer (Buffer.handle b))) :
    Makes (parts x.handle) e ((driverOn M).make x order) e := by
  cases order with
  | buffer size usage => exact .map (makes_createBuffer size usage good hdevice known)
  | pipeline what =>
    exact .map (makes_createPipeline good hdevice fun b hb =>
      buffers _ (List.mem_map.2 ⟨b, hb, rfl⟩))
  | batch family timestamps => exact .map (.withApi (builds_commandBatch good hdevice))

/-- **What the destruction of an object ends are its parts.** -/
theorem goes_unmake {object : Object (driverOn M)} (good : e.driver.api.Good)
    (hdevice : Live e.driver.api.trace (.device x.handle)) (known : x.Known e.driver)
    (stands : ∀ p ∈ parts x.handle object, Stands e.driver.api.trace p.thing p.rests) :
    Goes ((parts x.handle object).map (·.thing)) e ((driverOn M).unmake x object e) := by
  have skip {act : Env State → Env State} {skipped : String} {gone : List Thing}
      (h : Goes gone e (act e)) : Goes gone e (ifAlive x skipped act e) := by
    unfold ifAlive
    split
    · exact h
    · exact (Api.Goes.refl good).mono (by simp)
  cases object with
  | buffer b => exact skip (goes_discardBuffer good hdevice known (stands _ List.mem_cons_self))
  | pipeline p => exact skip (goes_destroyPipeline good hdevice stands)
  | batch b => exact skip (goes_destroyCommandBatch good hdevice stands)

end GpuCompute.Vulkan
