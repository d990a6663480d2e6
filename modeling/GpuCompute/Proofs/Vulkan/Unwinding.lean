import GpuCompute.Proofs.Vulkan.Building

/-!
# Programs that unwind

A pipeline and a command batch are made of several things, one call after the other. When a call
fails, then what the calls before it made is ended again, the last thing first, and nothing else is
touched. `Unwound` says this of two lists of calls, the ones that made and the ones that ended, and
`Api.Unwinds` says of a program that it always comes to such calls when it fails. It is shown stage
by stage, from the last one to the first (`Api.Unwinds.stage`). The same is shown of the calls by
which a whole pipeline and a whole command batch are destroyed.
-/

namespace GpuCompute.Vulkan

/-! ## Things that are made together -/

namespace Thing

/-- Whether a thing is ended by a call of its own. A descriptor set goes with its pool. -/
def endsAlone : Thing → Bool
  | .descriptorSet _ => false
  | _ => true

/-- The place of a thing when those that were made together are ended: what is used to make another
thing, or holds it, has a higher rank and goes later. -/
def rank : Thing → Nat
  | .object .buffer _ | .object .queryPool _ | .object .pipeline _ => 0
  | .object .fence _ | .object .pipelineLayout _ => 1
  | .commandBuffer _ | .object .descriptorPool _ => 2
  | .object .commandPool _ | .object .setLayout _ => 3
  | .object .shaderModule _ => 4
  | .inst _ | .report _ | .messenger _ | .device _ | .descriptorSet _ => 5

end Thing

/-- What a call made, with what it rests on. -/
def Event.part? (e : Event) : Option Part := e.made?.map fun t => ⟨t, e.request.parents⟩

/-- The parts that calls made, in order. -/
def born (events : List Event) : List Part := events.filterMap Event.part?

/-- The things that appear in calls. -/
def touched (events : List Event) : List Thing := events.flatMap fun e => e.request.uses

/-- The things among parts that are ended by calls of their own. -/
def alone (parts : List Part) : List Thing :=
  (parts.map (·.thing)).filter Thing.endsAlone

section

variable {events events' : List Event} {parts : List Part} {event : Event}

@[simp] theorem born_nil : born [] = [] := rfl

@[simp] theorem born_append : born (events ++ events') = born events ++ born events' :=
  List.filterMap_append

theorem born_cons : born (event :: events) = event.part?.toList ++ born events := by
  cases h : event.part? <;> simp [born, h]

theorem born_cons_of_part {p : Part} (h : event.part? = some p) :
    born (event :: events) = p :: born events := by
  rw [born_cons, h]
  rfl

theorem ended_cons_eq_nil (ends : event.request.ends = []) (h : reading.ended events = []) :
    reading.ended (event :: events) = [] := by
  rw [Reading.ended, List.flatMap_cons]
  exact List.append_eq_nil_iff.2 ⟨ends, h⟩

@[simp] theorem touched_nil : touched [] = [] := rfl

theorem touched_append : touched (events ++ events') = touched events ++ touched events' :=
  List.flatMap_append

@[simp] theorem alone_nil : alone [] = [] := rfl

/-- A call that cannot fail makes nothing. -/
@[simp] theorem part?_done (request : Request) : Event.part? ⟨request, .done⟩ = none := rfl

@[simp] theorem part?_failed (request : Request) (code : ResultCode) :
    Event.part? ⟨request, .failed code⟩ = none := rfl

theorem part?_of_product {request : Request} {outcome : Outcome} {id : Nat} {t : Thing}
    (hid : outcome.handle? = some id) (ht : request.product? id = some t) :
    Event.part? ⟨request, outcome⟩ = some ⟨t, request.parents⟩ := by
  have made : Event.made? ⟨request, outcome⟩ = some t := by
    simp only [Event.made?, hid, Option.bind_some, ht]
  rw [Event.part?, made]
  rfl

end

/-! ## What was made, ended again -/

/-- Some calls made things on a device, and later ones ended them again: each of the things once,
those first that others do not need, and without touching anything else. A descriptor set goes with
its pool, which may be one of the parts that there were before. -/
structure Unwound (device : Nat) (before : List Part) (bound : Nat)
    (events undone : List Event) : Prop where
  keeps : reading.ended events = []
  makesNone : born undone = []
  ends : reading.ended undone = (alone (born events)).reverse
  bounded : ∀ t ∈ alone (born events), t.rank < bound
  falling : (alone (born events)).Pairwise fun t t' => t'.rank < t.rank
  own : ∀ t ∈ touched undone,
    t = .device device ∨ t ∈ (before ++ born events).map (·.thing)
  sets : ∀ p ∈ born events, p.thing.endsAlone = false → ∃ pool,
    Thing.object .descriptorPool pool ∈ p.rests ∧
      (Thing.object .descriptorPool pool ∈ before.map (·.thing) ∨
        Thing.object .descriptorPool pool ∈ reading.ended undone)

namespace Unwound

variable {device : Nat} {before : List Part} {bound : Nat} {events undone : List Event}
  {request : Request} {outcome : Outcome}

/-- Calls that made nothing need not be undone. -/
theorem of_born_eq_nil (keeps : reading.ended events = []) (h : born events = []) :
    Unwound device before bound events [] where
  keeps := keeps
  makesNone := rfl
  ends := by simp [h]
  bounded := by simp [h]
  falling := by simp [h]
  own := by simp
  sets := by simp [h]

/-- A call that makes and ends nothing comes first. -/
theorem cons_quiet (h : Unwound device before bound events undone) (ends : request.ends = [])
    (part : Event.part? ⟨request, outcome⟩ = none) :
    Unwound device before bound (⟨request, outcome⟩ :: events) undone := by
  have same : born (⟨request, outcome⟩ :: events) = born events := by
    rw [born_cons, part]
    rfl
  exact ⟨ended_cons_eq_nil ends h.keeps, h.makesNone, same ▸ h.ends, same ▸ h.bounded,
    same ▸ h.falling, same ▸ h.own, same ▸ h.sets⟩

/-- A descriptor set is made first, from a pool that was there before. -/
theorem cons_set {t : Thing} {pool : Nat}
    (h : Unwound device (before ++ [⟨t, request.parents⟩]) bound events undone)
    (ends : request.ends = []) (set : t.endsAlone = false)
    (part : Event.part? ⟨request, outcome⟩ = some ⟨t, request.parents⟩)
    (rests : Thing.object .descriptorPool pool ∈ request.parents)
    (there : Thing.object .descriptorPool pool ∈ before.map (·.thing)) :
    Unwound device before bound (⟨request, outcome⟩ :: events) undone := by
  have born_eq : born (⟨request, outcome⟩ :: events) = ⟨t, request.parents⟩ :: born events :=
    born_cons_of_part part
  have alone_eq : alone (born (⟨request, outcome⟩ :: events)) = alone (born events) := by
    simp [born_eq, alone, set]
  refine ⟨ended_cons_eq_nil ends h.keeps, h.makesNone, alone_eq ▸ h.ends, alone_eq ▸ h.bounded,
    alone_eq ▸ h.falling, ?_, ?_⟩
  · simpa [born_eq] using h.own
  · intro p hp alonep
    rw [born_eq] at hp
    rcases List.mem_cons.1 hp with rfl | hp
    · exact ⟨pool, rests, .inl there⟩
    · obtain ⟨pool', rests', place⟩ := h.sets p hp alonep
      refine ⟨pool', rests', place.imp_left fun hmem => ?_⟩
      rw [List.map_append, List.mem_append] at hmem
      rcases hmem with hmem | hmem
      · exact hmem
      · have heq : Thing.object .descriptorPool pool' = t := List.mem_singleton.1 hmem
        rw [← heq] at set
        cases set

/-- Something is made first, and ended last. -/
theorem cons_undone {t : Thing} {undo : Request}
    (h : Unwound device (before ++ [⟨t, request.parents⟩]) t.rank events undone)
    (ends : request.ends = []) (ht : t.endsAlone) (lt : t.rank < bound)
    (part : Event.part? ⟨request, outcome⟩ = some ⟨t, request.parents⟩) (undo_ends : undo.ends = [t])
    (undo_uses : ∀ u ∈ undo.uses, u = t ∨ u = .device device ∨ u ∈ before.map (·.thing)) :
    Unwound device before bound (⟨request, outcome⟩ :: events) (undone ++ [⟨undo, .done⟩]) := by
  have born_eq : born (⟨request, outcome⟩ :: events) = ⟨t, request.parents⟩ :: born events :=
    born_cons_of_part part
  have alone_eq : alone (born (⟨request, outcome⟩ :: events)) = t :: alone (born events) := by
    simp [born_eq, alone, ht]
  have ended_eq : reading.ended (undone ++ [⟨undo, .done⟩]) = reading.ended undone ++ [t] := by
    rw [Reading.ended_append, Reading.ended_singleton]
    exact congrArg _ undo_ends
  refine ⟨ended_cons_eq_nil ends h.keeps, ?makesNone, ?ends, ?bounded, ?falling, ?own, ?sets⟩
  case makesNone =>
    rw [born_append, h.makesNone]
    rfl
  case ends => rw [ended_eq, h.ends, alone_eq, List.reverse_cons]
  case bounded =>
    rw [alone_eq]
    exact List.forall_mem_cons.2 ⟨lt, fun u hu => Nat.lt_trans (h.bounded u hu) lt⟩
  case falling =>
    rw [alone_eq]
    exact List.pairwise_cons.2 ⟨h.bounded, h.falling⟩
  case own =>
    intro u hu
    rw [born_eq]
    rw [touched_append, List.mem_append] at hu
    rcases hu with hu | hu
    · simpa using h.own u hu
    · have hu : u ∈ undo.uses := by simpa [touched] using hu
      rcases undo_uses u hu with rfl | rfl | hmem
      · simp
      · exact .inl rfl
      · exact .inr (by rw [List.map_append]; exact List.mem_append_left _ hmem)
  case sets =>
    intro p hp alonep
    rw [born_eq] at hp
    rcases List.mem_cons.1 hp with rfl | hp
    · rw [ht] at alonep
      cases alonep
    · obtain ⟨pool, rests, place⟩ := h.sets p hp alonep
      refine ⟨pool, rests, ?_⟩
      rw [ended_eq, List.mem_append]
      rcases place with hmem | hmem
      · rw [List.map_append, List.mem_append] at hmem
        exact hmem.imp_right .inr
      · exact .inr (.inl hmem)

end Unwound

/-! ## Programs in stages -/

namespace Api

variable {α : Type} {device bound : Nat} {parts : α → List Part} {before : List Part}
  {request : Request} {a : Api}

/-- What a program does that goes on when some parts are there already. When it succeeds, it has made
the other parts of its result and ended nothing; when it fails, it has ended what it made. -/
structure Unwinds (device : Nat) (parts : α → List Part) (before : List Part) (bound : Nat)
    (act : Attempt Api α) (a : Api) : Prop where
  ok : ∀ {x a'}, act a = .ok x a' → ∃ events, a'.trace = a.trace ++ events ∧
    reading.ended events = [] ∧ before ++ born events = parts x
  error : ∀ {error a'}, act a = .error error a' → ∃ events undone,
    a'.trace = a.trace ++ (events ++ undone) ∧ Unwound device before bound events undone

namespace Unwinds

theorem pure {x : α} (h : before = parts x) :
    Unwinds device parts before bound (Pure.pure x) a where
  ok heq := by
    cases heq
    exact ⟨[], by simp, rfl, by simp [h]⟩
  error heq := by cases heq

/-- What comes of a call that was to make something, and of the program after it. -/
theorem make_bind {rest : Nat → Attempt Api α} (thing : Nat → Thing)
    (product : ∀ id, request.product? id = some (thing id))
    (ok : ∀ {id a₁ x a'}, a₁.trace = a.trace ++ [⟨request, .made id⟩] → rest id a₁ = .ok x a' →
      ∃ events, a'.trace = a₁.trace ++ events ∧ reading.ended events = [] ∧
        before ++ [⟨thing id, request.parents⟩] ++ born events = parts x)
    (error : ∀ {id a₁ error a'}, a₁.trace = a.trace ++ [⟨request, .made id⟩] →
      rest id a₁ = .error error a' → ∃ events undone, a'.trace = a₁.trace ++ (events ++ undone) ∧
        Unwound device before bound (⟨request, .made id⟩ :: events) undone) :
    Unwinds device parts before bound (Api.make request >>= rest) a := by
  have ends := ends_of_product (product 0)
  refine ⟨fun h => ?_, fun h => ?_⟩
  · obtain ⟨id, a₁, made, h⟩ := Attempt.bind_eq_ok.1 h
    obtain ⟨events, trace, ended, heq⟩ := ok (make_ok made).trace h
    refine ⟨⟨request, .made id⟩ :: events, ?_, ?_, ?_⟩
    · rw [trace, (make_ok made).trace, List.append_assoc]
      rfl
    · rw [Reading.ended, List.flatMap_cons]
      exact List.append_eq_nil_iff.2 ⟨ends, ended⟩
    · rw [born_cons, part?_of_product rfl (product id), ← List.append_assoc]
      exact heq
  · rcases Attempt.bind_eq_error.1 h with failed | ⟨id, a₁, made, h⟩
    · obtain ⟨code, adds⟩ := make_error failed
      refine ⟨[⟨request, .failed code⟩], [], by simp [adds.trace], .of_born_eq_nil ?_ rfl⟩
      rw [Reading.ended_singleton]
      exact ends
    · obtain ⟨events, undone, trace, unwound⟩ := error (make_ok made).trace h
      refine ⟨⟨request, .made id⟩ :: events, undone, ?_, unwound⟩
      rw [trace, (make_ok made).trace, List.append_assoc]
      rfl

/-- Something is made, and ended again when a later stage fails. -/
theorem stage {undo : Nat → Request} {rest : Nat → Attempt Api α} (thing : Nat → Thing)
    (rank : Nat) (product : ∀ id, request.product? id = some (thing id))
    (ht : ∀ id, (thing id).endsAlone ∧ (thing id).rank = rank) (lt : rank < bound)
    (ends : ∀ id, (undo id).ends = [thing id])
    (uses : ∀ id, ∀ u ∈ (undo id).uses,
      u = thing id ∨ u = .device device ∨ u ∈ before.map (·.thing))
    (next : ∀ id a₁,
      Unwinds device parts (before ++ [⟨thing id, request.parents⟩]) rank (rest id) a₁) :
    Unwinds device parts before bound
      (Api.make request >>= fun id => Attempt.undoing (Api.call (undo id)) (rest id)) a := by
  refine make_bind thing product (fun _ h => (next _ _).ok (Attempt.undoing_eq_ok.1 h))
    fun {id a₁ error a'} _ h => ?_
  obtain ⟨a₂, stopped, rfl⟩ := Attempt.undoing_eq_error.1 h
  obtain ⟨events, undone, trace, unwound⟩ := (next id a₁).error stopped
  refine ⟨events, undone ++ [⟨undo id, .done⟩], ?_, ?_⟩
  · rw [(adds_call (undo id) a₂).trace, trace]
    simp only [List.append_assoc]
  · exact .cons_undone ((ht id).2 ▸ unwound) (ends_of_product (product id)) (ht id).1
      ((ht id).2 ▸ lt) (part?_of_product rfl (product id)) (ends id) (uses id)

/-- An object of the device is made, and destroyed again when a later stage fails. -/
theorem makeObject {what : Creation} {kind : ObjectKind} {rest : Nat → Attempt Api α} (rank : Nat)
    (product : ∀ id, what.product id = .object kind id) (pool : what.pool? = none)
    (hrank : ∀ id, (Thing.object kind id).rank = rank) (lt : rank < bound)
    (next : ∀ id a₁, Unwinds device parts (before ++ [⟨.object kind id, [.device device]⟩]) rank
      (rest id) a₁) :
    Unwinds device parts before bound (Api.make (.create device what) >>= fun id =>
      Attempt.undoing (Api.call (.destroy device kind id)) (rest id)) a := by
  refine stage (.object kind) rank (fun id => congrArg some (product id))
    (fun id => ⟨rfl, hrank id⟩) lt (fun _ => rfl) (fun id u hu => ?_) fun id a₁ => ?_
  · rcases List.mem_cons.1 hu with rfl | hu
    · exact .inr (.inl rfl)
    · exact .inl (List.mem_singleton.1 hu)
  · have parents : (Request.create device what).parents = [.device device] := by
      rw [Request.parents, pool]
      rfl
    rw [parents]
    exact next id a₁

/-- A descriptor set is made from a pool that goes when a later stage fails. -/
theorem makeSet {pool : Nat} {layouts : List Nat} {rest : Nat → Attempt Api α}
    (there : Thing.object .descriptorPool pool ∈ before.map (·.thing))
    (next : ∀ id a₁, Unwinds device parts
      (before ++ [⟨.descriptorSet id, [.device device, .object .descriptorPool pool]⟩]) bound
      (rest id) a₁) :
    Unwinds device parts before bound
      (Api.make (.create device (.descriptorSets pool layouts)) >>= rest) a := by
  refine make_bind .descriptorSet (fun _ => rfl) (fun _ h => (next _ _).ok h)
    fun {id a₁ error a'} _ h => ?_
  obtain ⟨events, undone, trace, unwound⟩ := (next id a₁).error h
  exact ⟨events, undone, trace, .cons_set unwound rfl rfl (part?_of_product rfl rfl)
    (.tail _ (.head _)) there⟩

/-- What is made last need not be ended again. -/
theorem last {x : Nat → α} (thing : Nat → Thing)
    (product : ∀ id, request.product? id = some (thing id))
    (complete : ∀ id, before ++ [⟨thing id, request.parents⟩] = parts (x id)) :
    Unwinds device parts before bound (Api.make request >>= fun id => Pure.pure (x id)) a := by
  refine make_bind thing product (fun {id _ _ _} _ h => ?_) fun _ h => by cases h
  cases h
  exact ⟨[], by simp, rfl, by simp [complete id]⟩

/-- A call that makes and ends nothing. -/
theorem call {rest : Attempt Api α} (ends : request.ends = [])
    (next : ∀ a₁, Unwinds device parts before bound rest a₁) :
    Unwinds device parts before bound (modify (Api.call request) >>= fun _ => rest) a := by
  have trace : (a.call request).trace = a.trace ++ [⟨request, .done⟩] := (adds_call request a).trace
  refine ⟨fun h => ?_, fun h => ?_⟩
  · obtain ⟨events, htrace, ended, heq⟩ := (next (a.call request)).ok h
    refine ⟨⟨request, .done⟩ :: events, by simp [htrace, trace], ?_, by simpa [born_cons] using heq⟩
    rw [Reading.ended, List.flatMap_cons]
    exact List.append_eq_nil_iff.2 ⟨ends, ended⟩
  · obtain ⟨events, undone, htrace, unwound⟩ := (next (a.call request)).error h
    exact ⟨⟨request, .done⟩ :: events, undone, by simp [htrace, trace],
      unwound.cons_quiet ends rfl⟩

/-- A pipeline is made last. One that a failing call hands out is destroyed at once. -/
theorem makePipeline {what : Creation} {x : Nat → α} (lt : 0 < bound)
    (product : ∀ id, what.product id = .object .pipeline id) (pool : what.pool? = none)
    (complete : ∀ id, before ++ [⟨.object .pipeline id, [.device device]⟩] = parts (x id)) :
    Unwinds device parts before bound
      (Api.makePipeline device what >>= fun id => Pure.pure (x id)) a := by
  have parents : (Request.create device what).parents = [.device device] := by
    rw [Request.parents, pool]
    rfl
  have part {outcome : Outcome} {id : Nat} (hid : outcome.handle? = some id) :
      Event.part? ⟨.create device what, outcome⟩ =
        some ⟨.object .pipeline id, (Request.create device what).parents⟩ :=
    part?_of_product hid (congrArg some (product id))
  refine ⟨fun h => ?_, fun h => ?_⟩
  · obtain ⟨id, a₁, made, h⟩ := Attempt.bind_eq_ok.1 h
    cases h
    refine ⟨_, (makePipeline_ok made).trace, rfl, ?_⟩
    rw [born_cons, part rfl, parents]
    exact complete id
  · rcases Attempt.bind_eq_error.1 h with failed | ⟨id, a₁, -, h⟩
    · rcases makePipeline_error failed with ⟨code, adds⟩ | ⟨id, code, a₁, adds, rfl⟩
      · exact ⟨_, [], by rw [adds.trace, List.append_nil], .of_born_eq_nil rfl rfl⟩
      · refine ⟨[⟨.create device what, .failedWith id code⟩],
          [] ++ [⟨.destroy device .pipeline id, .done⟩], ?_, ?_⟩
        · rw [(adds_call _ a₁).trace, adds.trace, List.append_assoc]
          rfl
        · refine .cons_undone (t := .object .pipeline id) (.of_born_eq_nil rfl rfl) rfl rfl lt
            (part rfl) rfl fun u hu => ?_
          rcases List.mem_cons.1 hu with rfl | hu
          · exact .inr (.inl rfl)
          · exact .inl (List.mem_singleton.1 hu)
    · cases h

end Unwinds

end Api

/-! ## Pipelines -/

theorem unwinds_pipeline (device : Nat) (what : PipelineDescriptor Nat) (a : Api) :
    Api.Unwinds device (Pipeline.parts device) [] 5 (Pipeline.create device what) a := by
  rw [Pipeline.create_eq]
  unfold Pipeline.staged
  refine .makeObject 4 (fun _ => rfl) rfl (fun _ => rfl) (by omega) fun shaderModule a₁ => ?_
  refine .makeObject 3 (fun _ => rfl) rfl (fun _ => rfl) (by omega) fun setLayout a₂ => ?_
  refine .makeObject 2 (fun _ => rfl) rfl (fun _ => rfl) (by omega) fun pool a₃ => ?_
  refine .makeSet (by simp) fun set a₄ => ?_
  refine .call rfl fun a₅ => ?_
  refine .makeObject 1 (fun _ => rfl) rfl (fun _ => rfl) (by omega) fun layout a₆ => ?_
  exact .makePipeline (by omega) (fun _ => rfl) rfl fun _ => rfl

theorem alone_pipeline (device : Nat) (p : Pipeline) : alone (Pipeline.parts device p) =
    [.object .shaderModule p.shaderModule, .object .setLayout p.setLayout,
      .object .descriptorPool p.descriptorPool, .object .pipelineLayout p.layout,
      .object .pipeline p.pipeline] := rfl

theorem unwound_destroyPipeline {device : Nat} {p : Pipeline} {events : List Event}
    (keeps : reading.ended events = []) (h : born events = Pipeline.parts device p) :
    Unwound device [] 5 events (p.destruction device) where
  keeps := keeps
  makesNone := rfl
  ends := by rw [h]; rfl
  bounded := by simp [h, alone_pipeline, Thing.rank]
  falling := by simp [h, alone_pipeline, Thing.rank]
  own := by simp [h, touched, Pipeline.destruction, Pipeline.objects, Pipeline.parts, Request.uses]
  sets q hq alone := by
    rw [h] at hq
    simp only [Pipeline.parts, List.mem_cons, List.not_mem_nil, or_false] at hq
    obtain rfl | rfl | rfl | rfl | rfl | rfl := hq
    case inr.inr.inr.inl =>
      exact ⟨p.descriptorPool, .tail _ (.head _), .inr (.tail _ (.tail _ (.head _)))⟩
    all_goals cases alone

/-! ## Command batches -/

theorem unwinds_timestampPool {α : Type} {device : Nat} {parts : α → List Part}
    {before : List Part} {bound : Nat} {timestamps : UInt32} {x : Option Nat → α} {a : Api}
    (complete : ∀ q : Option Nat,
      before ++ (q.map fun q => ⟨.object .queryPool q, [.device device]⟩).toList = parts (x q)) :
    Api.Unwinds device parts before bound
      (CommandBatch.createTimestampPool device timestamps >>= fun q => Pure.pure (x q)) a := by
  unfold CommandBatch.createTimestampPool
  split
  · refine .pure (Eq.trans ?_ (complete none))
    simp
  · simp only [bind_assoc, pure_bind]
    exact .last (.object .queryPool) (fun _ => rfl) fun id => complete (some id)

theorem unwinds_commandBatch (device : Nat) (family timestamps : UInt32) (a : Api) :
    Api.Unwinds device (CommandBatch.parts device) [] 5
      (CommandBatch.create device family timestamps) a := by
  rw [CommandBatch.create_eq]
  unfold CommandBatch.staged
  refine .makeObject 3 (fun _ => rfl) rfl (fun _ => rfl) (by omega) fun pool a₁ => ?_
  refine .stage .commandBuffer 2 (fun _ => rfl) (fun _ => ⟨rfl, rfl⟩) (by omega) (fun _ => rfl)
    (fun id u hu => ?_) fun buffer a₂ => ?_
  · simp only [Request.uses, List.map_cons, List.map_nil, List.mem_cons, List.not_mem_nil,
      or_false] at hu
    obtain rfl | rfl | rfl := hu <;> simp
  refine .makeObject 1 (fun _ => rfl) rfl (fun _ => rfl) (by omega) fun fence a₃ => ?_
  exact unwinds_timestampPool fun q => rfl

theorem alone_commandBatch (device : Nat) (b : CommandBatch) : alone (CommandBatch.parts device b) =
    [.object .commandPool b.pool, .commandBuffer b.buffer, .object .fence b.fence] ++
      (b.timestampPool.map (Thing.object .queryPool)).toList := by
  cases h : b.timestampPool <;> simp only [CommandBatch.parts, h] <;> rfl

theorem unwound_destroyCommandBatch {device : Nat} {b : CommandBatch} {events : List Event}
    (keeps : reading.ended events = []) (h : born events = CommandBatch.parts device b) :
    Unwound device [] 5 events (b.destruction device) where
  keeps := keeps
  makesNone := by cases hq : b.timestampPool <;> simp [CommandBatch.destruction, hq, born_cons]
  ends := by
    cases hq : b.timestampPool <;>
      simp [h, hq, alone_commandBatch, CommandBatch.destruction, Reading.ended, reading,
        Request.ends]
  bounded := by
    cases hq : b.timestampPool <;> simp [h, hq, alone_commandBatch, Thing.rank]
  falling := by
    cases hq : b.timestampPool <;> simp [h, hq, alone_commandBatch, Thing.rank]
  own := by
    cases hq : b.timestampPool <;>
      simp [h, hq, touched, CommandBatch.destruction, CommandBatch.parts, Request.uses]
  sets p hp set := by
    rw [h] at hp
    cases hq : b.timestampPool <;>
      simp only [CommandBatch.parts, hq, Option.map_none, Option.map_some, Option.toList_none,
        Option.toList_some, List.append_nil, List.cons_append, List.nil_append, List.mem_cons,
        List.not_mem_nil, or_false] at hp
    · obtain rfl | rfl | rfl := hp <;> cases set
    · obtain rfl | rfl | rfl | rfl := hp <;> cases set

end GpuCompute.Vulkan
