import GpuCompute.Proofs.Objects
import GpuCompute.Proofs.Vulkan.Unwinding
import GpuCompute.Vulkan.Driver

/-!
# The balance of the resource builders

When a buffer, a pipeline or a command batch cannot be made, what was made for it is given back, and
when it is made, then destroying it gives back the same (`builders_balance`). Nothing is asked of the
library that manages memory: it may fail at any time and do anything to the API. So a run is described by
what happens in it (`Happens`): calls of the API by the driver itself, and memory that the library hands
out and takes back.
-/

namespace GpuCompute.Vulkan

variable (M : MemoryLibrary)

/-! ## What happens in a run -/

/-- What the driver holds for a resource. -/
inductive Holding
  | thing (t : Thing)
  | memory (m : Allocation)
  deriving DecidableEq

namespace Holding

/-- Whether a holding is ended by itself. A descriptor set goes with its pool. -/
def endsAlone : Holding → Bool
  | .thing t => t.endsAlone
  | .memory _ => true

/-- The place of a holding when those of a resource are ended: a buffer goes before its memory. -/
def rank : Holding → Nat
  | .thing t => t.rank
  | .memory _ => 1

end Holding

/-- What happens in a run of the driver. -/
inductive Happening
  | call (event : Event)
  /-- The library handed out memory. -/
  | allocated (m : Allocation)
  /-- Memory was handed back to the library. -/
  | returned (m : Allocation)

namespace Happening

/-- What the driver came to hold. -/
def made? : Happening → Option Holding
  | .call event => event.made?.map .thing
  | .allocated m => some (.memory m)
  | .returned _ => none

/-- What the driver ceased to hold. -/
def ends : Happening → List Holding
  | .call event => event.request.ends.map .thing
  | .allocated _ => []
  | .returned m => [.memory m]

/-- The things that appear in a call. -/
def uses : Happening → List Thing
  | .call event => event.request.uses
  | .allocated _ | .returned _ => []

end Happening

/-- What the driver came to hold, in order. -/
def obtained (hs : List Happening) : List Holding := hs.filterMap Happening.made?

/-- What the driver ceased to hold, in order. -/
def relinquished (hs : List Happening) : List Holding := hs.flatMap Happening.ends

/-- A run from one environment to another in which certain things happen. What the library does to the
API is part of the run but not of what is listed, apart from the memory itself. -/
inductive Happens (x : Device) : List Happening → Env State → Env State → Prop
  | nil (e : Env State) : Happens x [] e e
  | calls {events : List Event} {hs : List Happening} {e e' : Env State} {a : Api}
    (trace : a.trace = e.driver.api.trace ++ events)
    (rest : Happens x hs (e.onDriver fun s => { s with api := a }) e') :
    Happens x (events.map .call ++ hs) e e'
  | allocates {r : Requirements} {m : Allocation} {hs : List Happening} {e e₁ e' : Env State}
    (h : allocate M x r e = .ok m e₁) (rest : Happens x hs e₁ e') :
    Happens x (.allocated m :: hs) e e'
  | refused {r : Requirements} {error : Error} {hs : List Happening} {e e₁ e' : Env State}
    (h : allocate M x r e = .error error e₁) (rest : Happens x hs e₁ e') : Happens x hs e e'
  | returns {m : Allocation} {hs : List Happening} {e e' : Env State} {s : State}
    (h : free M x m e.driver = .ok s) (rest : Happens x hs { e with driver := s } e') :
    Happens x (.returned m :: hs) e e'
  /-- The library does not take memory that it does not know. -/
  | declined {m : Allocation} {hs : List Happening} {e e' : Env State} {fault : FreeFault}
    (h : free M x m e.driver = .error fault) (rest : Happens x hs e e') :
    Happens x (.returned m :: hs) e e'
  | writes {r : Log.Record} {hs : List Happening} {e e' : Env State}
    (rest : Happens x hs (e.write r) e') : Happens x hs e e'

/-- What was obtained on a device is relinquished: each holding once, those first that others do not
need, and without touching anything else. A descriptor set goes with its pool. -/
structure TakesDown (x : Device) (hs undone : List Happening) : Prop where
  keeps : relinquished hs = []
  obtainsNone : obtained undone = []
  once : (relinquished undone).Perm ((obtained hs).filter Holding.endsAlone)
  ordered : (relinquished undone).Pairwise fun h h' => h.rank < h'.rank
  own : ∀ t ∈ undone.flatMap Happening.uses, t = .device x.handle ∨ .thing t ∈ obtained hs
  sets : ∀ event set, .call event ∈ hs → event.made? = some (.descriptorSet set) → ∃ pool,
    Thing.object .descriptorPool pool ∈ event.request.parents ∧
      .thing (.object .descriptorPool pool) ∈ relinquished undone

variable {M} {x : Device} {hs hs' : List Happening} {e e' e'' : Env State} {events : List Event}

namespace Happens

theorem trans (h : Happens M x hs e e') (h' : Happens M x hs' e' e'') :
    Happens M x (hs ++ hs') e e'' := by
  induction h with
  | nil => exact h'
  | calls trace _ ih =>
    rw [List.append_assoc]
    exact .calls trace (ih h')
  | allocates h _ ih => exact .allocates h (ih h')
  | refused h _ ih => exact .refused h (ih h')
  | returns h _ ih => exact .returns h (ih h')
  | declined h _ ih => exact .declined h (ih h')
  | writes _ ih => exact .writes (ih h')

theorem ofApi {a : Api} (trace : a.trace = e.driver.api.trace ++ events) :
    Happens M x (events.map .call) e (e.onDriver fun s => { s with api := a }) := by
  simpa using Happens.calls (M := M) (x := x) trace (.nil _)

theorem ofCall (request : Request) (e : Env State) :
    Happens M x [.call ⟨request, .done⟩] e (call request e) :=
  ofApi (Api.adds_call request e.driver.api).trace

end Happens

/-! ## Calls only -/

theorem obtained_calls (events : List Event) :
    obtained (events.map .call) = (born events).map fun p => .thing p.thing := by
  unfold obtained born
  rw [List.filterMap_map, List.map_filterMap]
  congr 1
  funext event
  simp only [Function.comp, Happening.made?, Event.part?, Option.map_map]
  rfl

theorem relinquished_calls (events : List Event) :
    relinquished (events.map .call) = (reading.ended events).map .thing := by
  unfold relinquished Reading.ended
  rw [List.flatMap_map, List.map_flatMap]
  rfl

/-- What calls made and later calls ended. -/
theorem takesDown_of_unwound {bound : Nat} {undone : List Event}
    (h : Unwound x.handle [] bound events undone) :
    TakesDown x (events.map .call) (undone.map .call) where
  keeps := by rw [relinquished_calls, h.keeps, List.map_nil]
  obtainsNone := by rw [obtained_calls, h.makesNone, List.map_nil]
  once := by
    rw [relinquished_calls, obtained_calls, h.ends, List.map_reverse]
    refine (List.reverse_perm _).trans (List.Perm.of_eq ?_)
    rw [alone, List.filter_map, List.filter_map, List.map_map]
    rfl
  ordered := by
    rw [relinquished_calls, h.ends, List.pairwise_map, List.pairwise_reverse]
    exact h.falling
  own t ht := by
    rw [List.flatMap_map] at ht
    refine (h.own t ht).imp_right fun hmem => ?_
    rw [obtained_calls]
    obtain ⟨p, hp, rfl⟩ := List.mem_map.1 hmem
    exact List.mem_map_of_mem (f := fun p : Part => Holding.thing p.thing) hp
  sets event set hevent hmade := by
    obtain ⟨event', hmem, heq⟩ := List.mem_map.1 hevent
    obtain rfl := Happening.call.inj heq
    have part : (⟨.descriptorSet set, event'.request.parents⟩ : Part) ∈ born events :=
      List.mem_filterMap.2 ⟨event', hmem, by rw [Event.part?, hmade]; rfl⟩
    obtain ⟨pool, rests, place⟩ := h.sets _ part rfl
    refine ⟨pool, rests, ?_⟩
    rw [relinquished_calls]
    exact List.mem_map_of_mem (f := Holding.thing) (place.resolve_left List.not_mem_nil)

/-! ## Builders -/

/-- What a builder comes to: it fails and has given back what it obtained, or it succeeds and its
result can be given back whenever the device is alive. -/
def Balances (M : MemoryLibrary) (x : Device) (e : Env State) :
    EStateM.Result Error (Env State) (Object (driverOn M)) → Prop
  | .error _ e' => ∃ hs undone, Happens M x (hs ++ undone) e e' ∧ TakesDown x hs undone
  | .ok object e' => ∃ hs, Happens M x hs e e' ∧ relinquished hs = [] ∧
    ∀ e₁ : Env State, (driverOn M).isAlive x e₁.driver → ∃ undone,
      Happens M x undone e₁ ((driverOn M).unmake x object e₁) ∧ TakesDown x hs undone

theorem ifAlive_of_alive {skipped : String} {act : Env State → Env State}
    (alive : e.driver.isAlive x) : ifAlive x skipped act e = act e := if_pos alive

/-- What a program that unwinds comes to. -/
theorem happens_of_error {α : Type} {parts : α → List Part} {bound : Nat} {act : Attempt Api α}
    {error : Error} (h : Api.Unwinds x.handle parts [] bound act e.driver.api)
    (failed : withApi act e = .error error e') :
    ∃ hs undone, Happens M x (hs ++ undone) e e' ∧ TakesDown x hs undone := by
  obtain ⟨a, ha, rfl⟩ := withApi_eq_error.1 failed
  obtain ⟨events, undone, trace, unwound⟩ := h.error ha
  refine ⟨events.map .call, undone.map .call, ?_, takesDown_of_unwound unwound⟩
  rw [← List.map_append]
  exact .ofApi trace

theorem balances_pipeline (what : PipelineDescriptor (driverOn M).Buffer) (e : Env State) :
    Balances M x e ((driverOn M).make x (.pipeline what) e) := by
  have unwinds := unwinds_pipeline x.handle
    { what with bindings := what.bindings.map fun b => { b with buffer := b.buffer.handle } }
    e.driver.api
  cases h : (driverOn M).make x (.pipeline what) e with
  | error error e' =>
    rcases Attempt.bind_eq_error.1 (Attempt.map_eq_error.1 h) with failed | ⟨_, _, _, h⟩
    · exact happens_of_error unwinds failed
    · cases h
  | ok object e' =>
    obtain ⟨p, created, rfl⟩ := Attempt.map_eq_ok.1 h
    obtain ⟨p', e₁, made, h⟩ := Attempt.bind_eq_ok.1 created
    cases h
    obtain ⟨a, ha, rfl⟩ := withApi_eq_ok.1 made
    obtain ⟨events, trace, keeps, parts⟩ := unwinds.ok ha
    refine ⟨events.map .call, ?_, by rw [relinquished_calls, keeps, List.map_nil], ?_⟩
    · simpa using (Happens.ofApi trace).trans (.writes (.nil _))
    · intro e₁ alive
      refine ⟨(p.destruction x.handle).map .call, ?_,
        takesDown_of_unwound (unwound_destroyPipeline keeps parts)⟩
      rw [show (driverOn M).unmake x (.pipeline p) e₁ = _ from ifAlive_of_alive alive]
      exact .ofApi ((Pipeline.whole_of_create ha).trace_destroy x.handle e₁.driver.api)

theorem balances_batch (family timestamps : UInt32) (e : Env State) :
    Balances M x e ((driverOn M).make x (.batch family timestamps) e) := by
  have unwinds := unwinds_commandBatch x.handle family timestamps e.driver.api
  cases h : (driverOn M).make x (.batch family timestamps) e with
  | error error e' => exact happens_of_error unwinds (Attempt.map_eq_error.1 h)
  | ok object e' =>
    obtain ⟨b, created, rfl⟩ := Attempt.map_eq_ok.1 h
    obtain ⟨a, ha, rfl⟩ := withApi_eq_ok.1 created
    obtain ⟨events, trace, keeps, parts⟩ := unwinds.ok ha
    refine ⟨events.map .call, .ofApi trace, by rw [relinquished_calls, keeps, List.map_nil], ?_⟩
    intro e₁ alive
    refine ⟨(b.destruction x.handle).map .call, ?_,
      takesDown_of_unwound (unwound_destroyCommandBatch keeps parts)⟩
    rw [show (driverOn M).unmake x (.batch b) e₁ = _ from ifAlive_of_alive alive]
    exact .ofApi ((CommandBatch.whole_of_create ha).trace_destroy x.handle e₁.driver.api)

/-! ### Buffers -/

/-- The calls that a buffer begins with. -/
def bufferCalls (x : Device) (size : UInt64) (usage : UInt32) (handle : Nat) : List Happening :=
  [.call ⟨.create x.handle (.buffer size usage 0), .made handle⟩,
    .call ⟨.bufferRequirements x.handle handle, .done⟩]

/-- The call that binds a buffer to memory. -/
def bindCall (x : Device) (handle : Nat) (m : Allocation) (outcome : Outcome) : List Happening :=
  [.allocated m, .call ⟨.bindBuffer x.handle handle, outcome⟩]

theorem happens_giveUpBuffer (b : Buffer) (e : Env State) :
    Happens M x [.call ⟨.destroy x.handle .buffer b.handle, .done⟩, .returned b.allocation] e
      (giveUpBuffer M x b e).2 := by
  refine (Happens.ofCall (.destroy x.handle .buffer b.handle) e).trans ?_
  unfold giveUpBuffer
  cases h : free M x b.allocation (call (.destroy x.handle .buffer b.handle) e).driver with
  | ok s =>
    simp only [h]
    exact .returns h (.nil _)
  | error fault =>
    simp only [h]
    exact .declined h (.nil _)

/-- Memory that is declined is a matter of the log. -/
theorem happens_discardBuffer (b : Buffer) (e : Env State) :
    Happens M x [.call ⟨.destroy x.handle .buffer b.handle, .done⟩, .returned b.allocation] e
      (discardBuffer M x b e) := by
  have given := happens_giveUpBuffer (M := M) (x := x) b e
  unfold discardBuffer
  generalize giveUpBuffer M x b e = gaveUp at given ⊢
  obtain ⟨fault, e'⟩ := gaveUp
  cases fault with
  | none => exact given
  | some fault => simpa using given.trans (.writes (.nil _))

/-- A buffer without memory. -/
theorem takesDown_bare {size : UInt64} {usage : UInt32} {handle : Nat} :
    TakesDown x (bufferCalls x size usage handle)
      [.call ⟨.destroy x.handle .buffer handle, .done⟩] where
  keeps := rfl
  obtainsNone := rfl
  once := .refl _
  ordered := .cons nofun .nil
  own := by simp [Happening.uses, Request.uses, obtained, bufferCalls, Happening.made?, Event.made?,
    Outcome.handle?, Request.product?, Creation.product]
  sets event set hevent hmade := by
    simp only [bufferCalls, List.mem_cons, List.not_mem_nil, or_false, Happening.call.injEq] at hevent
    obtain rfl | rfl := hevent <;> cases hmade

/-- A buffer with its memory, bound or not. -/
theorem takesDown_buffer {size : UInt64} {usage : UInt32} {b : Buffer} {outcome : Outcome}
    (ho : outcome.handle? = none) :
    TakesDown x (bufferCalls x size usage b.handle ++ bindCall x b.handle b.allocation outcome)
      [.call ⟨.destroy x.handle .buffer b.handle, .done⟩, .returned b.allocation] where
  keeps := rfl
  obtainsNone := rfl
  once := by
    have bound : Event.made? ⟨.bindBuffer x.handle b.handle, outcome⟩ = none := by
      rw [Event.made?, ho]
      rfl
    have made : obtained (bufferCalls x size usage b.handle ++
        bindCall x b.handle b.allocation outcome) =
          [.thing (.object .buffer b.handle), .memory b.allocation] := by
      simp only [obtained, bufferCalls, bindCall, List.cons_append, List.nil_append,
        List.filterMap_cons, List.filterMap_nil, Happening.made?, bound]
      rfl
    rw [made]
    exact .refl _
  ordered := by simp [relinquished, Happening.ends, Request.ends, Holding.rank, Thing.rank]
  own := by simp [Happening.uses, Request.uses, obtained, bufferCalls, bindCall, Happening.made?,
    Event.made?, Outcome.handle?, Request.product?, Creation.product]
  sets event set hevent hmade := by
    simp only [bufferCalls, bindCall, List.cons_append, List.nil_append, List.mem_cons,
      List.not_mem_nil, or_false, Happening.call.injEq, reduceCtorEq, false_or] at hevent
    obtain rfl | rfl | rfl := hevent
    · cases hmade
    · cases hmade
    · rw [Event.made?, ho] at hmade
      cases hmade

theorem happens_bufferCalls {size : UInt64} {usage : UInt32} {handle : Nat}
    (made : withApi (Api.make (.create x.handle (.buffer size usage 0))) e = .ok handle e') :
    Happens M x (bufferCalls x size usage handle) e
      (call (.bufferRequirements x.handle handle) e') := by
  obtain ⟨a, ha, rfl⟩ := withApi_eq_ok.1 made
  exact (Happens.ofApi (Api.make_ok ha).trace).trans (.ofCall _ _)

theorem happens_bindCall {r : Requirements} {m : Allocation} {handle : Nat} {outcome : Outcome}
    {a : Api} (allocated : allocate M x r e = .ok m e')
    (adds : Api.Adds (.bindBuffer x.handle handle) outcome e'.driver.api a) :
    Happens M x (bindCall x handle m outcome) e (e'.onDriver fun s => { s with api := a }) :=
  .allocates allocated (.ofApi adds.trace)

theorem happens_createBuffer {size : UInt64} {usage : UInt32} {b : Buffer}
    (h : createBuffer M x size usage e = .ok b e') :
    Happens M x (bufferCalls x (max size 1) usage b.handle ++
      bindCall x b.handle b.allocation .done) e e' := by
  unfold createBuffer at h
  rw [Attempt.get_bind] at h
  split at h
  · cases h
  obtain ⟨handle, e₁, made, h⟩ := Attempt.bind_eq_ok.1 h
  rw [Attempt.modify_bind, Attempt.get_bind] at h
  obtain ⟨m, e₂, allocated, h⟩ := Attempt.bind_eq_ok.1 h
  obtain ⟨_, e₃, bound, h⟩ := Attempt.bind_eq_ok.1 h
  cases h
  obtain ⟨a, ha, rfl⟩ := withApi_eq_ok.1 (Attempt.undoing_eq_ok.1 bound)
  exact (happens_bufferCalls made).trans
    (happens_bindCall (Attempt.undoing_eq_ok.1 allocated) (Api.check_ok ha))

/-- There are four ways to fail: the device is not alive, there is no buffer, no memory for it, or the
two cannot be bound. -/
theorem takesDown_createBuffer {size : UInt64} {usage : UInt32} {error : Error}
    (h : createBuffer M x size usage e = .error error e') :
    ∃ hs undone, Happens M x (hs ++ undone) e e' ∧ TakesDown x hs undone := by
  unfold createBuffer at h
  rw [Attempt.get_bind] at h
  split at h
  · cases h
    exact ⟨[], [], .nil _, rfl, rfl, .refl _, .nil, nofun, nofun⟩
  rcases Attempt.bind_eq_error.1 h with failed | ⟨handle, e₁, made, h⟩
  · obtain ⟨a, ha, rfl⟩ := withApi_eq_error.1 failed
    obtain ⟨code, adds⟩ := Api.make_error ha
    refine ⟨_, [], by simpa using Happens.ofApi adds.trace, rfl, rfl, .refl _, .nil, nofun, ?_⟩
    intro event set hevent hmade
    obtain rfl := Happening.call.inj (List.mem_singleton.1 hevent)
    cases hmade
  rw [Attempt.modify_bind, Attempt.get_bind] at h
  rcases Attempt.bind_eq_error.1 h with failed | ⟨m, e₂, allocated, h⟩
  · obtain ⟨e₂, refused, rfl⟩ := Attempt.undoing_eq_error.1 failed
    exact ⟨_, _, (happens_bufferCalls made).trans (.refused refused (.ofCall _ _)), takesDown_bare⟩
  rcases Attempt.bind_eq_error.1 h with failed | ⟨_, _, _, h⟩
  · obtain ⟨e₃, unbound, rfl⟩ := Attempt.undoing_eq_error.1 failed
    obtain ⟨a, ha, rfl⟩ := withApi_eq_error.1 unbound
    obtain ⟨code, adds⟩ := Api.check_error ha
    have run := (happens_bufferCalls made).trans
      (happens_bindCall (Attempt.undoing_eq_ok.1 allocated) adds)
    exact ⟨_, _, run.trans (happens_giveUpBuffer ⟨handle, m⟩ _),
      takesDown_buffer (b := ⟨handle, m⟩) rfl⟩
  · cases h

theorem balances_buffer (size : UInt64) (usage : UInt32) (e : Env State) :
    Balances M x e ((driverOn M).make x (.buffer size usage) e) := by
  cases h : (driverOn M).make x (.buffer size usage) e with
  | error error e' => exact takesDown_createBuffer (Attempt.map_eq_error.1 h)
  | ok object e' =>
    obtain ⟨b, created, rfl⟩ := Attempt.map_eq_ok.1 h
    refine ⟨_, happens_createBuffer created, rfl, fun e₁ alive => ⟨_, ?_, takesDown_buffer rfl⟩⟩
    rw [show (driverOn M).unmake x (.buffer b) e₁ = _ from ifAlive_of_alive alive]
    exact happens_discardBuffer _ _

/-- **The resource builders neither leak nor free too much.** Whatever is asked for, whichever calls of
the API fail, and whatever the library does that manages memory: when a buffer, a pipeline or a command
batch cannot be made, each thing that was made for it has been ended once before the call returns, a
pipeline that came with an error included; when it is made, nothing was ended, and its destruction on a
device that is alive ends what was made, each thing once. What others need goes after them, and nothing
else is touched. -/
theorem builders_balance (M : MemoryLibrary) (x : Device) (order : Order (driverOn M))
    (e : Env State) : Balances M x e ((driverOn M).make x order e) := by
  cases order with
  | buffer size usage => exact balances_buffer size usage e
  | pipeline what => exact balances_pipeline what e
  | batch family timestamps => exact balances_batch family timestamps e

/-- A wrapped device, on which each pipeline comes with an error. -/
def haunted : Env State := (wrapDevice .own 1 1 2).after { driver := { api :=
  { host := {}, script := .start [("vkCreateComputePipelines", [⟨0, ⟨⟨-3⟩, true⟩⟩])],
    issued := 2 } } }

/-- The driver with its own library, and a pipeline that came with an error and goes first. -/
theorem builders_balance_handedOut :
    (∀ (x : driver.Device) (order : Order driver) (e : Env driver.State),
      Balances .own x e (driver.make x order e)) ∧
    ((driver.make (Device.mk 2 0) (.pipeline ⟨[7], [], 4⟩)).after haunted).driver.api.trace =
      haunted.driver.api.trace ++
        [⟨.create 2 (.shaderModule [7]), .made 3⟩, ⟨.create 2 (.setLayout []), .made 4⟩,
          ⟨.create 2 (.descriptorPool 1 []), .made 5⟩, ⟨.create 2 (.descriptorSets 5 [4]), .made 6⟩,
          ⟨.updateDescriptorSets 2 [], .done⟩,
          ⟨.create 2 (.pipelineLayout [4] [⟨0x20, 0, 4⟩]), .made 7⟩,
          ⟨.create 2 (.computePipeline 0x20 3 "main" 7), .failedWith 8 ⟨-3⟩⟩,
          ⟨.destroy 2 .pipeline 8, .done⟩, ⟨.destroy 2 .pipelineLayout 7, .done⟩,
          ⟨.destroy 2 .descriptorPool 5, .done⟩, ⟨.destroy 2 .setLayout 4, .done⟩,
          ⟨.destroy 2 .shaderModule 3, .done⟩] :=
  ⟨builders_balance .own, rfl⟩

end GpuCompute.Vulkan
