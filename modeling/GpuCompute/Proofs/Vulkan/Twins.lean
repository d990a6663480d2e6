import GpuCompute.Proofs.Indifference
import GpuCompute.Proofs.Vulkan.Obliviousness
import GpuCompute.Proofs.Vulkan.Runs

/-!
# How waiting ends is not noticed

That the driver cannot wait for a device is only logged. So it makes no difference to it whether calls of
this kind fail: two environments that differ in nothing else are twins (`Twin`), and the driver cannot
tell them apart (`respects_twin`). Two runs with failure scripts that differ in such calls only make the
same calls of the API and answer in the same way (`related_run`).
-/

namespace GpuCompute.Vulkan

open Attempt (Alike)

variable {α : Type} {M : MemoryLibrary} {request : Request} {a a' : Api} {e e' : Env State}
  {x : Device}

/-! ## Twins -/

/-- The name of calls that wait for devices. -/
def waiting : String := "vkDeviceWaitIdle"

theorem name_ne_waiting (h : request.waitsFor? = none) : request.name ≠ waiting := by
  cases request with
  | waitIdle => cases h
  | create _ what => cases what <;> simp [Request.name, Creation.name, waiting]
  | destroy _ kind => cases kind <;> simp [Request.name, ObjectKind.destroyName, waiting]
  | _ => simp [Request.name, waiting]

/-- The same call, which has ended in the same way unless it waits for a device. -/
structure Event.Twin (event event' : Event) : Prop where
  request : event'.request = event.request
  outcome : event.request.waitsFor? = none → event'.outcome = event.outcome

/-- Rules that are the same for all calls but those that wait for devices. -/
def TwinRules (rules rules' : Rules) : Prop :=
  ∀ name ≠ waiting, rules'.lookup name = rules.lookup name

namespace Api

/-- The same, but for how calls end, and have ended, that wait for devices. -/
structure Twin (a a' : Api) : Prop where
  host : a'.host = a.host
  rules : TwinRules a.script.rules a'.script.rules
  made : a'.script.made = a.script.made
  issued : a'.issued = a.issued
  trace : List.Forall₂ Event.Twin a.trace a'.trace

namespace Twin

theorem note (h : a.Twin a') {outcome outcome' : Outcome}
    (same : request.waitsFor? = none → outcome' = outcome) :
    (a.note request outcome).Twin (a'.note request outcome') :=
  { h with trace := List.rel_append h.trace (.cons ⟨rfl, same⟩ .nil) }

theorem call (h : a.Twin a') (request : Request) : (a.call request).Twin (a'.call request) :=
  h.note fun _ => rfl

theorem withIssued (h : a.Twin a') (issued : Nat) : { a with issued }.Twin { a' with issued } :=
  { h with issued := rfl }

theorem next_eq (h : a.Twin a') : a'.next = a.next := congrArg Nat.succ h.issued

theorem consult (h : a.Twin a') (request : Request) :
    (a.consult request).2.Twin (a'.consult request).2 :=
  { h with made := congrArg (request.name :: ·) h.made }

/-- Unless the call waits, the script decides in the same way. -/
theorem consult_eq (h : a.Twin a') (hr : request.waitsFor? = none) : ∃ failure b b',
    a.consult request = (failure, b) ∧ a'.consult request = (failure, b') ∧ b.Twin b' := by
  refine ⟨_, _, (a'.consult request).2, rfl, Prod.ext ?_ rfl, h.consult request⟩
  have rules := h.rules _ (name_ne_waiting hr)
  unfold Api.consult Script.ask Script.failureAt
  dsimp only
  rw [rules, h.made]

end Twin

theorem twin_check (hr : request.waitsFor? = none) (fault : ResultCode → Error) :
    Alike Twin Eq (check request fault) (check request fault) := by
  intro a a' h
  obtain ⟨failure, b, b', hb, hb', twin⟩ := h.consult_eq hr
  unfold check
  rw [hb, hb']
  cases failure with
  | none => exact .ok rfl (twin.note fun _ => rfl)
  | some f => exact .error (twin.note fun _ => rfl)

theorem twin_make (hr : request.waitsFor? = none) : Alike Twin Eq (make request) (make request) := by
  intro a a' h
  obtain ⟨failure, b, b', hb, hb', twin⟩ := h.consult_eq hr
  unfold make
  rw [hb, hb']
  cases failure with
  | none =>
    dsimp only
    rw [twin.next_eq]
    exact .ok rfl ((twin.note fun _ => rfl).withIssued _)
  | some f => exact .error (twin.note fun _ => rfl)

theorem twin_makePipeline (device : Nat) (what : Creation) :
    Alike Twin Eq (makePipeline device what) (makePipeline device what) := by
  intro a a' h
  have makes : (Request.create device what).waitsFor? = none := rfl
  obtain ⟨failure, b, b', hb, hb', twin⟩ := h.consult_eq makes
  unfold makePipeline
  dsimp only
  rw [hb, hb']
  cases failure with
  | none =>
    dsimp only
    rw [twin.next_eq]
    exact .ok rfl ((twin.note fun _ => rfl).withIssued _)
  | some f =>
    dsimp only
    rw [twin.next_eq]
    split
    · exact .error (((twin.note fun _ => rfl).withIssued _).call _)
    · exact .error (twin.note fun _ => rfl)

/-- However waiting ends. -/
theorem Twin.invoke_waitIdle (h : a.Twin a') (device : Nat) :
    ((invoke (.waitIdle device)).after a).Twin ((invoke (.waitIdle device)).after a') := by
  have waited (a : Api) : ∃ outcome, (invoke (.waitIdle device)).after a =
      (a.consult (.waitIdle device)).2.note (.waitIdle device) outcome := by
    unfold Attempt.after Attempt.outcome invoke check
    obtain ⟨_ | f, b⟩ := a.consult (.waitIdle device) <;> exact ⟨_, rfl⟩
  obtain ⟨outcome, heq⟩ := waited a
  obtain ⟨outcome', heq'⟩ := waited a'
  rw [heq, heq']
  exact (h.consult _).note nofun

end Api

open Api

/-! ## Memory -/

theorem twin_mapBlock (device : Nat) :
    Alike Api.Twin Eq (MemoryPool.mapBlock device) (MemoryPool.mapBlock device) :=
  (twin_check rfl _).bind_same fun _ => .undoing (twin_check rfl _) fun _ _ h => h.call _

theorem Api.Twin.unmapBlock (h : a.Twin a') (device : Nat) :
    (MemoryPool.unmapBlock device a).Twin (MemoryPool.unmapBlock device a') :=
  (h.call _).call _

theorem twin_allocatePool (device size alignment : Nat) (p : MemoryPool) :
    Alike Api.Twin Eq (p.allocate device size alignment) (p.allocate device size alignment) := by
  unfold MemoryPool.allocate
  refine .ite ((twin_mapBlock device).bind_same fun _ => .pure rfl) ?_
  cases p.place? size alignment with
  | some placed => exact .pure rfl
  | none => exact (twin_mapBlock device).bind_same fun _ => .pure rfl

theorem twin_allocateIn (type : Nat) (r : Requirements) (m : Allocator) :
    Alike Api.Twin Eq (m.allocateIn type r) (m.allocateIn type r) := by
  unfold Allocator.allocateIn
  cases m.pools[type]? with
  | none => exact .throw _
  | some pool => exact (twin_allocatePool _ _ _ pool).bind_same fun _ => .pure rfl

theorem twin_allocate (r : Requirements) (m : Allocator) :
    Alike Api.Twin Eq (m.allocate r) (m.allocate r) := by
  unfold Allocator.allocate
  refine .ite (.throw _) ?_
  cases (m.findType? preferredFlags r).or (m.findType? requiredFlags r) with
  | none => exact .throw _
  | some type =>
    refine .otherwise (.ite (.throw _) (twin_allocateIn type r m)) ?_
    cases m.findType? requiredFlags r with
    | none => exact .throw _
    | some type => exact twin_allocateIn type r m

/-- Memory is given back in both, or cannot be given back for the same reason. -/
inductive Freed {β : Type} : Except FreeFault (β × Api) → Except FreeFault (β × Api) → Prop
  | ok (b : β) {a a' : Api} (h : a.Twin a') : Freed (.ok (b, a)) (.ok (b, a'))
  | error (fault : FreeFault) : Freed (.error fault) (.error fault)

theorem freed_pool (h : a.Twin a') (device block chunk : Nat) (p : MemoryPool) :
    Freed (p.free device block chunk a) (p.free device block chunk a') := by
  unfold MemoryPool.free
  cases p.blocks[block]?.join with
  | none => exact .error _
  | some b =>
    cases hb : b.giveBack chunk with
    | error fault =>
      simp only [hb, bind, Except.bind]
      exact .error fault
    | ok b =>
      simp only [hb, bind, Except.bind, pure, Except.pure]
      split
      · exact .ok _ (h.unmapBlock device)
      · exact .ok _ h

theorem freed_allocator (h : a.Twin a') (allocation : Allocation) (m : Allocator) :
    Freed (m.free allocation a) (m.free allocation a') := by
  unfold Allocator.free
  cases m.pools[allocation.pool]? with
  | none => exact .error _
  | some pool =>
    have freed := freed_pool h m.device allocation.block allocation.chunk pool
    simp only [bind, Except.bind, pure, Except.pure]
    generalize pool.free m.device allocation.block allocation.chunk a = r,
      pool.free m.device allocation.block allocation.chunk a' = r' at freed
    cases freed with
    | ok p h => exact .ok _ h
    | error fault => exact .error fault

theorem Api.Twin.close (h : a.Twin a') (m : Allocator) : (m.close a).Twin (m.close a') := by
  unfold Allocator.close
  generalize List.range m.blockCount = blocks
  induction blocks generalizing a a' with
  | nil => exact h
  | cons _ blocks ih => exact ih (h.unmapBlock m.device)

theorem twin_forDevice (inst : Nat) (adapter : AdapterHandle) (device : Nat) :
    Alike Api.Twin Eq (Allocator.forDevice inst adapter device)
      (Allocator.forDevice inst adapter device) := by
  have asks (request : Request) : Alike Api.Twin Eq (modify (Api.call request) : Attempt Api Unit)
      (modify (Api.call request)) := .change fun _ _ h => h.call request
  refine .ite (.bind_same (.throw _) fun _ => ?_) ?_ <;>
    exact (asks _).bind_same fun _ => (asks _).bind_same fun _ => .get_bind fun a a' h => by
      rw [h.host]
      exact .ok rfl h

/-- A library that manages memory does not notice how calls end that wait for devices, of which it makes
none. -/
class MemoryLibrary.Unaware (M : MemoryLibrary) : Prop where
  newAllocator : ∀ inst adapter device,
    Alike Api.Twin Eq (M.newAllocator inst adapter device) (M.newAllocator inst adapter device)
  allocate : ∀ r m, Alike Api.Twin Eq (M.allocate r m) (M.allocate r m)
  free : ∀ {a a' : Api}, a.Twin a' → ∀ allocation m,
    Freed (M.free allocation m a) (M.free allocation m a')
  close : ∀ {a a' : Api}, a.Twin a' → ∀ m, (M.close m a).Twin (M.close m a')

instance : MemoryLibrary.own.Unaware where
  newAllocator := twin_forDevice
  allocate := twin_allocate
  free := freed_allocator
  close := Api.Twin.close

/-! ## Objects -/

theorem twin_createPipeline (device : Nat) (what : PipelineDescriptor Nat) :
    Alike Api.Twin Eq (Pipeline.create device what) (Pipeline.create device what) := by
  have made (what : Creation) : Alike Api.Twin Eq (make (.create device what))
      (make (.create device what)) := twin_make rfl
  have undo (request : Request) (a a' : Api) (h : a.Twin a') := h.call request
  rw [Pipeline.create_eq]
  unfold Pipeline.staged
  refine (made _).bind_same fun shaderModule => .undoing ?_ (undo _)
  refine (made _).bind_same fun setLayout => .undoing ?_ (undo _)
  refine (made _).bind_same fun pool => .undoing ?_ (undo _)
  refine (made _).bind_same fun set => (Alike.change (undo _)).bind_same fun _ => ?_
  refine (made _).bind_same fun layout => .undoing ?_ (undo _)
  exact (twin_makePipeline device _).bind_same fun _ => .pure rfl

theorem Api.Twin.destroyObject (h : a.Twin a') (device : Nat) (kind : ObjectKind) (object : Nat) :
    (a.destroyObject device kind object).Twin (a'.destroyObject device kind object) := by
  unfold Api.destroyObject
  split
  · exact h
  · exact h.call _

theorem Api.Twin.destroyPipeline (h : a.Twin a') (device : Nat) (p : Pipeline) :
    (p.destroy device a).Twin (p.destroy device a') := by
  unfold Pipeline.destroy
  generalize p.objects = objects
  induction objects generalizing a a' with
  | nil => exact h
  | cons object _ ih => exact ih (h.destroyObject device object.1 object.2)

theorem twin_createBatch (device : Nat) (family timestamps : UInt32) :
    Alike Api.Twin Eq (CommandBatch.create device family timestamps)
      (CommandBatch.create device family timestamps) := by
  have made (what : Creation) : Alike Api.Twin Eq (make (.create device what))
      (make (.create device what)) := twin_make rfl
  have undo (request : Request) (a a' : Api) (h : a.Twin a') := h.call request
  rw [CommandBatch.create_eq]
  unfold CommandBatch.staged
  refine (made _).bind_same fun pool => .undoing ?_ (undo _)
  refine (made _).bind_same fun buffer => .undoing ?_ (undo _)
  refine (made _).bind_same fun fence => .undoing ?_ (undo _)
  refine .bind_same ?_ fun queries => .pure rfl
  exact .ite (.pure rfl) ((made _).bind_same fun _ => .pure rfl)

theorem Api.Twin.destroyBatch (h : a.Twin a') (device : Nat) (b : CommandBatch) :
    (b.destroy device a).Twin (b.destroy device a') := by
  have pool {a a' : Api} (h : a.Twin a') :
      (if b.pool = 0 then a
        else (if b.buffer = 0 then a else a.call (.freeCommandBuffers device b.pool [b.buffer])).call
          (.destroy device .commandPool b.pool)).Twin
      (if b.pool = 0 then a'
        else (if b.buffer = 0 then a' else a'.call (.freeCommandBuffers device b.pool [b.buffer])).call
          (.destroy device .commandPool b.pool)) := by
    split
    · exact h
    · refine Api.Twin.call ?_ _
      split
      · exact h
      · exact h.call _
  unfold CommandBatch.destroy
  cases b.timestampPool with
  | none => exact pool (h.destroyObject device .fence b.fence)
  | some queries => exact pool ((h.call _).destroyObject device .fence b.fence)

/-! ## The driver -/

/-- Environments that differ at most in how calls end, and have ended, that wait for devices, and in the
log. -/
structure Twin (e e' : Env State) : Prop where
  api : e.driver.api.Twin e'.driver.api
  allocators : e'.driver.allocators = e.driver.allocators

namespace Twin

theorem withApi (h : Twin e e') {b b' : Api} (hb : b.Twin b') :
    Twin (e.onDriver fun s => { s with api := b }) (e'.onDriver fun s => { s with api := b' }) :=
  ⟨hb, h.allocators⟩

theorem onApi (h : Twin e e') {f : Api → Api} (hf : ∀ a a', a.Twin a' → (f a).Twin (f a')) :
    Twin (e.onDriver (.onApi f)) (e'.onDriver (.onApi f)) := ⟨hf _ _ h.api, h.allocators⟩

theorem allocator?_eq (h : Twin e e') (x : Device) :
    e'.driver.allocator? x = e.driver.allocator? x := by
  rw [State.allocator?, State.allocator?, h.allocators]

theorem isAlive (h : Twin e e') (x : Device) : e'.driver.isAlive x = e.driver.isAlive x :=
  congrArg Option.isSome (h.allocator?_eq x)

theorem setAllocator (h : Twin e e') (x : Device) (m : Option Allocator) :
    Twin (e.onDriver (.setAllocator x m)) (e'.onDriver (.setAllocator x m)) :=
  ⟨h.api, congrArg (List.set · x.allocator m) h.allocators⟩

end Twin

theorem twin_withApi {act : Attempt Api α} (h : Alike Api.Twin Eq act act) :
    Act.Respects Twin (withApi act) :=
  h.within (fun _ _ twin => twin.api) fun _ _ twin _ _ api => twin.withApi api

theorem twin_call (request : Request) : Env.Respects Twin (call request) :=
  fun _ _ twin => twin.onApi fun _ _ api => api.call request

theorem twin_query (hr : request.waitsFor? = none) (answer : Host → α) :
    Act.Respects Twin (query request answer) :=
  (twin_withApi (twin_check hr _)).bind_same fun _ => .get_bind fun e e' twin => by
    rw [twin.api.host]
    exact .ok rfl twin

theorem twin_look (request : Request) (answer : Host → α) :
    Act.Respects Twin (Attempt.ofState (look request answer)) :=
  .ofState (fun _ _ twin => congrArg answer twin.api.host.symm) (twin_call request)

/-! ### Instances and devices -/

theorem twin_createInstance (what : InstanceDescriptor) :
    Act.Respects Twin (createInstance what) := by
  refine .ite (.bind_same (.throw _) fun _ => ?_) ?_ <;>
    exact .bind_same (.ofExcept _) fun _ => .bind_same (.ofExcept _) fun _ =>
      twin_withApi (twin_make rfl)

theorem twin_registerCallbacks (inst : Nat) : Act.Respects Twin (registerCallbacks inst) :=
  twin_withApi <| (twin_make rfl).bind_same fun _ =>
    .undoing ((twin_make rfl).bind_same fun _ => .pure rfl) fun _ _ h => h.call _

theorem twin_wrapDevice [M.Unaware] (inst : Nat) (adapter : AdapterHandle) (handle : Nat) :
    Act.Respects Twin (wrapDevice M inst adapter handle) := by
  refine (twin_withApi (MemoryLibrary.Unaware.newAllocator inst adapter handle)).bind_same fun m => ?_
  intro e e' twin
  have value := congrArg (fun l => Device.mk handle l.length) twin.allocators
  refine .ok value.symm ⟨twin.api, ?_⟩
  simp only [Env.driver_onDriver, State.addAllocator, twin.allocators]

theorem twin_createDevice [M.Unaware] (inst : Nat) (adapter : AdapterHandle)
    (what : DeviceDescriptor) :
    Act.Respects Twin (createDevice M inst adapter what) :=
  .bind_same (.ofExcept _) fun _ => .bind_same (.ofExcept _) fun _ =>
    (twin_withApi (twin_make rfl)).bind_same fun handle =>
      .undoing (twin_wrapDevice inst adapter handle) (twin_call _)

/-- Whether waiting fails is only logged. -/
theorem twin_waitIdle (x : Device) : Env.Respects Twin (waitIdle x) := by
  intro e e' twin
  have waits := twin.api.invoke_waitIdle x.handle
  constructor <;> rw [driver_waitIdle, driver_waitIdle, driver_after_withApi, driver_after_withApi]
  · exact waits
  · exact twin.allocators

theorem twin_releaseDevice [M.Unaware] (x : Device) : Env.Respects Twin (releaseDevice M x) := by
  intro e e' twin
  have waited := twin_waitIdle x _ _ twin
  unfold releaseDevice
  rw [twin.isAlive]
  split
  · generalize waitIdle x e = e, waitIdle x e' = e' at waited
    unfold Env.onDriver closeAllocator
    rw [waited.allocator?_eq]
    cases e.driver.allocator? x with
    | none => exact waited
    | some m =>
      exact ⟨MemoryLibrary.Unaware.close waited.api m,
        congrArg (List.set · _ none) waited.allocators⟩
  · exact twin

theorem twin_destroyDevice [M.Unaware] (x : Device) : Env.Respects Twin (destroyDevice M x) :=
  fun _ _ twin => twin_call _ _ _ (twin_releaseDevice x _ _ twin)

/-! ### Buffers -/

theorem twin_allocateFor [M.Unaware] (x : Device) (r : Requirements) :
    Act.Respects Twin (allocate M x r) := by
  intro e e' twin
  unfold allocate
  rw [twin.allocator?_eq]
  cases e.driver.allocator? x with
  | none => exact .error twin
  | some m =>
    have ends := twin_withApi (MemoryLibrary.Unaware.allocate (M := M) r m) _ _ twin
    dsimp only
    generalize withApi (M.allocate r m) e = r, withApi (M.allocate r m) e' = r' at ends
    cases ends with
    | ok value twin =>
      subst value
      exact .ok rfl (twin.setAllocator x _)
    | error twin => exact .error twin

theorem twin_giveUpBuffer [M.Unaware] (x : Device) (b : Buffer) :
    Env.Respects Twin fun e => (giveUpBuffer M x b e).2 := by
  intro e e' twin
  have called := twin_call (.destroy x.handle .buffer b.handle) _ _ twin
  unfold giveUpBuffer
  dsimp only
  generalize call (.destroy x.handle .buffer b.handle) e = e,
    call (.destroy x.handle .buffer b.handle) e' = e' at called
  unfold free
  rw [called.allocator?_eq]
  cases e.driver.allocator? x with
  | none => exact called
  | some m =>
    have freed := MemoryLibrary.Unaware.free (M := M) called.api b.allocation m
    simp only [bind, Except.bind, pure, Except.pure]
    generalize M.free b.allocation m e.driver.api = r,
      M.free b.allocation m e'.driver.api = r' at freed
    cases freed with
    | ok m api => exact ⟨api, congrArg (List.set · _ (some m)) called.allocators⟩
    | error fault => exact ⟨called.api, called.allocators⟩

theorem twin_discardBuffer [M.Unaware] (x : Device) (b : Buffer) :
    Env.Respects Twin (discardBuffer M x b) := by
  intro e e' twin
  have givenUp := twin_giveUpBuffer (M := M) x b e e' twin
  constructor <;> rw [driver_discardBuffer, driver_discardBuffer]
  · exact givenUp.api
  · exact givenUp.allocators

theorem twin_createBuffer [M.Unaware] (x : Device) (size : UInt64) (usage : UInt32) :
    Act.Respects Twin (createBuffer M x size usage) := by
  refine .get_bind fun e e' twin => ?_
  rw [twin.isAlive]
  refine Alike.ite (.bind_same (.throw _) fun _ => ?_) ?_ e e' twin <;>
  · refine (twin_withApi (twin_make rfl)).bind_same fun handle =>
      .bind_same (.change (twin_call _)) fun _ => .get_bind fun e e' twin => ?_
    rw [twin.api.host]
    refine Alike.bind_same (.undoing (twin_allocateFor x _) (twin_call _)) (fun allocation => ?_)
      e e' twin
    exact .bind_same (.undoing (twin_withApi (twin_check rfl _)) (twin_giveUpBuffer x _)) fun _ =>
      .pure rfl

theorem twin_ifAlive (x : Device) (skipped : String) {act : Env State → Env State}
    (h : Env.Respects Twin act) : Env.Respects Twin (ifAlive x skipped act) := by
  intro e e' twin
  unfold ifAlive
  rw [twin.isAlive]
  split
  · exact h e e' twin
  · exact ⟨twin.api, twin.allocators⟩

/-- **The driver does not notice how waiting ends.** -/
theorem respects_twin [M.Unaware] : (driverOn M).Respects Twin where
  write _ _ _ twin := ⟨twin.api, twin.allocators⟩
  isAlive x _ _ twin := twin.isAlive x
  instanceExtensions := twin_query rfl fun h => nameTexts h.instanceExtensions
  instanceLayers := twin_query rfl fun h => nameTexts h.instanceLayers
  createInstance := twin_createInstance
  registerCallbacks := twin_registerCallbacks
  unregisterCallbacks _ _ _ _ twin := twin_call _ _ _ (twin_call _ _ _ twin)
  destroyInstance _ := twin_call _
  adapters _ := twin_query rfl _
  properties _ _ := twin_look _ _
  queueFamilies _ _ := twin_look _ _
  deviceExtensions _ adapter := twin_query rfl fun h => nameTexts (h.adapter adapter).extensions
  createDevice := twin_createDevice
  queue _ _ _ := .ofState (fun _ _ _ => rfl) (twin_call _)
  releaseDevice := twin_releaseDevice
  destroyDevice := twin_destroyDevice
  createBuffer := twin_createBuffer
  destroyBuffer x b := twin_ifAlive x _ (twin_discardBuffer x b)
  createPipeline _ _ := (twin_withApi (twin_createPipeline _ _)).bind_same fun _ =>
    .bind_same (.change fun _ _ twin => ⟨twin.api, twin.allocators⟩) fun _ => .pure rfl
  destroyPipeline x p := twin_ifAlive x _ fun _ _ twin => twin.onApi fun _ _ h => h.destroyPipeline _ p
  createBatch _ family timestamps := twin_withApi (twin_createBatch _ family timestamps)
  destroyBatch x b := twin_ifAlive x _ fun _ _ twin => twin.onApi fun _ _ h => h.destroyBatch _ b

/-! ## Callbacks -/

/-- Which callback was registered last does not depend on how waiting ended. -/
theorem Api.Twin.callback?_eq (h : a.Twin a') (mechanism : Diagnostics.Mechanism) :
    a'.callback? mechanism = a.callback? mechanism := by
  unfold Api.callback?
  have trace := h.trace
  generalize a.trace = tr, a'.trace = tr' at trace
  generalize (none : Option Nat) = last
  induction trace generalizing last with
  | nil => rfl
  | @cons event event' tr tr' twin _ ih =>
    obtain ⟨request, outcome⟩ := event
    obtain ⟨request', outcome'⟩ := event'
    obtain ⟨rfl, same⟩ := twin
    rw [List.foldl_cons, List.foldl_cons, ih]
    cases hr : request'.waitsFor? with
    | none =>
      cases same hr
      rfl
    | some device =>
      cases request' with
      | waitIdle => cases mechanism <;> rfl
      | _ => cases hr

theorem twin_fire (c : Diagnostics.CallbackCall) : Act.Respects Twin (fire (M := M) c) := by
  refine .get_bind fun e e' twin => ?_
  rw [twin.api.callback?_eq]
  cases e.driver.api.callback? c.mechanism with
  | none => exact .ok rfl twin
  | some _ => exact .ok rfl ⟨twin.api, twin.allocators⟩

/-! ## Runs -/

open Session (Related)

variable {s t : Session (driverOn M)} {o o' : Operation} {ops ops' : List Operation}

/-- The same operation; failure scripts may differ for calls that wait for devices. -/
inductive Operation.Twin : Operation → Operation → Prop
  | refl (o : Operation) : Twin o o
  | setScript {rules rules' : Rules} (h : TwinRules rules rules') :
    Twin (.setScript rules) (.setScript rules')

theorem alike_common {act : Attempt (Session (driverOn M)) (GpuCompute.Reply (driverOn M))}
    (h : Alike (Related Twin) Eq act act) :
    Alike (Related Twin) Eq (Reply.common <$> act) (Reply.common <$> act) := by
  intro s t related
  have ends := h s t related
  simp only [Functor.map, EStateM.map]
  generalize act s = r, act t = r' at ends
  cases ends with
  | ok value state => exact .ok (congrArg _ value) state
  | error state => exact .error state

theorem alike_setScript {rules rules' : Rules} (h : TwinRules rules rules') :
    Alike (Related Twin) Eq (step (M := M) (.setScript rules)) (step (.setScript rules')) := by
  intro s t related
  obtain ⟨api, allocators⟩ := (Likeness.Agree.pool related).env
  exact .ok rfl (Likeness.Agree.withEnv related ⟨⟨api.host, h, rfl, api.issued, api.trace⟩, allocators⟩)

/-- **No operation notices how waiting ends.** -/
theorem alike_twin [M.Unaware] (h : o.Twin o') :
    Alike (Related Twin) Eq (step (M := M) o) (step o') := by
  cases h with
  | setScript h => exact alike_setScript h
  | refl =>
    cases o with
    | common o => exact alike_common (Session.respects_step respects_twin o)
    | setScript rules => exact alike_setScript fun _ _ => rfl
    | createFromEnvironment n environment selection =>
      exact alike_common (Session.related_addManager respects_twin
        (Manager.respects_create respects_twin _ selection))
    | borrowRaw n inst device adapter families config =>
      refine alike_common fun s t related => ?_
      exact Likeness.matches_withInstance related fun i _ =>
        Likeness.matches_withDevice related fun x _ => Session.related_addManager respects_twin
          (respects_borrowRaw respects_twin twin_wrapDevice config i adapter _ families) s t related
    | fire c => exact fun s t related => Likeness.ends_run related (twin_fire c)
    | describeObject name =>
      intro s t related
      have same : describeObject name s = describeObject name t := by
        obtain ⟨-, -⟩ := related
        rfl
      exact .ok same related
    | describeDriver => exact fun s t related => .ok rfl related

/-- What the operations of a run answer. -/
def replies (ops : List Operation) (s : Session (driverOn M)) : List (Except Error (Reply M)) :=
  Attempt.answers step (fun _ => true) ops s

theorem related_run [M.Unaware] (h : Related Twin s t)
    (twins : List.Forall₂ Operation.Twin ops ops') :
    Related Twin (run ops s) (run ops' t) ∧ replies ops' t = replies ops s := by
  induction twins generalizing s t with
  | nil => exact ⟨h, rfl⟩
  | @cons o o' ops ops' twin _ ih =>
    have ends := alike_twin twin s t h
    obtain ⟨related, answers⟩ := ih ends.after
    exact ⟨related, congrArg₂ List.cons ends.answers.eq answers⟩

end GpuCompute.Vulkan
