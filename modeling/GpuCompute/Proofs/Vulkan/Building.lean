import GpuCompute.Proofs.Vulkan.Stages
import GpuCompute.Proofs.Vulkan.Standing

/-!
# Things that are built in stages

Pipelines and command batches consist of several things of the API, made one after the other, and when
one of them cannot be made then those before it are ended again. `Api.Builds` says of such a program
that its calls are fine, that its parts stand when it succeeds, and that nothing that stood before is
ended when it fails. It is shown stage by stage (`Api.Builds.stage`).
-/

namespace GpuCompute.Vulkan

variable {α : Type} {request : Request} {a₀ a : Api} {ps : List Part}

theorem uses_of_parents {t : Thing} (h : t ∈ request.parents) : t ∈ request.uses := by
  cases request with
  | createDebugReport | createMessenger | createDevice => exact h
  | create device what =>
    rcases List.mem_cons.1 h with rfl | h
    · exact List.mem_cons_self
    · cases what with
      | descriptorSets | commandBuffers =>
        obtain rfl := List.mem_singleton.1 h
        exact .tail _ (.head _)
      | _ => cases h
  | _ => cases h

namespace Api

/-! ## Stages -/

/-- What a program yields that goes on from `a`, counted from `a₀`; nothing is ended when it fails. -/
structure Builds (parts : α → List Part) (a₀ : Api) (act : Attempt Api α) (a : Api) : Prop where
  ok : ∀ {x a'}, act a = .ok x a' → Yields (parts x) a₀ a'
  error : ∀ {error a'}, act a = .error error a' → Goes [] a a'

/-- One call that makes something. -/
theorem builds_make (request : Request) (thing : Nat → Thing) (good : a.Good)
    (live : ∀ t ∈ request.uses, Live a.trace t)
    (product : ∀ id, request.product? id = some (thing id)) :
    Builds (fun id => [⟨thing id, request.parents⟩]) a (Api.make request) a where
  ok h := yields_of_adds (make_ok h) good live rfl (product _)
  error h := by
    obtain ⟨code, adds⟩ := make_error h
    have goes := goes_of_adds adds good live
    rwa [ends_of_product (product 0)] at goes

namespace Builds

variable {parts : α → List Part}

theorem pure {x : α} (h : Yields (parts x) a₀ a) : Builds parts a₀ (pure x) a :=
  ⟨fun heq => by cases heq; exact h, fun heq => by cases heq⟩

/-- Something is made, and stays when a later stage fails. -/
theorem make (thing : Nat → Thing) {rest : Nat → Attempt Api α} (acc : Yields ps a₀ a)
    (live : ∀ t ∈ request.uses, Live a.trace t)
    (product : ∀ id, request.product? id = some (thing id))
    (next : ∀ id a₁, Goes [] a a₁ → Yields (ps ++ [⟨thing id, request.parents⟩]) a₀ a₁ →
      Builds parts a₀ (rest id) a₁) :
    Builds parts a₀ (Api.make request >>= rest) a := by
  have first := builds_make request thing acc.goes.after live product
  refine ⟨fun h => ?_, fun h => ?_⟩
  · obtain ⟨id, a₁, made, h⟩ := Attempt.bind_eq_ok.1 h
    have yields := first.ok made
    exact (next id a₁ yields.goes (acc.trans yields)).ok h
  · rcases Attempt.bind_eq_error.1 h with failed | ⟨id, a₁, made, h⟩
    · exact first.error failed
    · have yields := first.ok made
      exact yields.goes.then_ ((next id a₁ yields.goes (acc.trans yields)).error h)

/-- Something is made, and ended again when a later stage fails. -/
theorem stage (thing : Nat → Thing) {undo : Nat → Request} {rest : Nat → Attempt Api α}
    (acc : Yields ps a₀ a) (live : ∀ t ∈ request.uses, Live a.trace t)
    (product : ∀ id, request.product? id = some (thing id))
    (ends : ∀ id, (undo id).ends = [thing id])
    (uses : ∀ id, ∀ t ∈ (undo id).uses, t = thing id ∨ t ∈ request.uses)
    (next : ∀ id a₁, Goes [] a a₁ → Yields (ps ++ [⟨thing id, request.parents⟩]) a₀ a₁ →
      Builds parts a₀ (rest id) a₁) :
    Builds parts a₀
      (Api.make request >>= fun id => Attempt.undoing (Api.call (undo id)) (rest id)) a := by
  have first := builds_make request thing acc.goes.after live product
  refine ⟨fun h => ?_, fun h => ?_⟩
  · obtain ⟨id, a₁, made, h⟩ := Attempt.bind_eq_ok.1 h
    have yields := first.ok made
    exact (next id a₁ yields.goes (acc.trans yields)).ok (Attempt.undoing_eq_ok.1 h)
  · rcases Attempt.bind_eq_error.1 h with failed | ⟨id, a₁, made, h⟩
    · exact first.error failed
    · obtain ⟨a₂, stopped, rfl⟩ := Attempt.undoing_eq_error.1 h
      have yields := first.ok made
      have yields := yields.then_ ((next id a₁ yields.goes (acc.trans yields)).error stopped)
      have liveAfter {t : Thing} (ht : t ∈ request.uses) : Live a₂.trace t :=
        yields.goes.live (live t ht)
      have undone : Goes (undo id).ends a₂ (a₂.call (undo id)) := by
        refine goes_call (undo id) yields.goes.after fun t ht => ?_
        rcases uses id t ht with rfl | ht
        · exact yields.live List.mem_cons_self fun q hq => liveAfter (uses_of_parents hq)
        · exact liveAfter ht
      rw [ends id] at undone
      refine yields.goes_undone undone fun t ht => ⟨_, List.mem_cons_self, ?_⟩
      exact (List.mem_singleton.1 ht).symm

/-- An object of a device is made, and destroyed again when a later stage fails. -/
theorem makeObject {device : Nat} {what : Creation} {kind : ObjectKind} {rest : Nat → Attempt Api α}
    (acc : Yields ps a₀ a) (hdevice : Live a.trace (.device device))
    (uses : ∀ t ∈ what.uses, Live a.trace t) (product : ∀ id, what.product id = .object kind id)
    (pool : what.pool? = none)
    (next : ∀ id a₁, Goes [] a a₁ → Yields (ps ++ [⟨.object kind id, [.device device]⟩]) a₀ a₁ →
      Builds parts a₀ (rest id) a₁) :
    Builds parts a₀ (Api.make (.create device what) >>= fun id =>
      Attempt.undoing (Api.call (.destroy device kind id)) (rest id)) a := by
  refine stage (.object kind) acc (fun t ht => ?_) (fun id => congrArg some (product id))
    (fun _ => rfl) (fun id t ht => ?_) fun id a₁ goes acc => next id a₁ goes ?_
  · rcases List.mem_cons.1 ht with rfl | ht
    · exact hdevice
    · exact uses t ht
  · rcases List.mem_cons.1 ht with rfl | ht
    · exact .inr List.mem_cons_self
    · exact .inl (List.mem_singleton.1 ht)
  · rwa [Request.parents, pool] at acc

/-- A call that makes and ends nothing. -/
theorem call {rest : Attempt Api α} (acc : Yields ps a₀ a)
    (live : ∀ t ∈ request.uses, Live a.trace t) (ends : request.ends = [])
    (next : ∀ a₁, Goes [] a a₁ → Yields ps a₀ a₁ → Builds parts a₀ rest a₁) :
    Builds parts a₀ (modify (Api.call request) >>= fun _ => rest) a := by
  have goes := goes_call request acc.goes.after live
  rw [ends] at goes
  have built := next _ goes (acc.then_ goes)
  exact ⟨fun h => built.ok h, fun h => goes.then_ (built.error h)⟩

/-- A pipeline comes last. When it is handed out by a call that fails, it is destroyed at once. -/
theorem makePipeline {device : Nat} {what : Creation} {x : Nat → α} (acc : Yields ps a₀ a)
    (live : ∀ t ∈ (Request.create device what).uses, Live a.trace t)
    (product : ∀ id, what.product id = .object .pipeline id) (pool : what.pool? = none)
    (last : ∀ id, parts (x id) = ps ++ [⟨.object .pipeline id, [.device device]⟩]) :
    Builds parts a₀ (Api.makePipeline device what >>= fun id => Pure.pure (x id)) a := by
  have good := acc.goes.after
  have made {id : Nat} {outcome : Outcome} {a' : Api} (hid : outcome.handle? = some id)
      (adds : Adds (.create device what) outcome a a') :
      Yields [⟨.object .pipeline id, [.device device]⟩] a a' := by
    have yields := yields_of_adds adds good live hid (congrArg some (product id))
    rwa [Request.parents, pool] at yields
  refine ⟨fun h => ?_, fun h => ?_⟩
  · obtain ⟨id, a₁, h₁, h⟩ := Attempt.bind_eq_ok.1 h
    cases h
    rw [last id]
    exact acc.trans (made rfl (makePipeline_ok h₁))
  · rcases Attempt.bind_eq_error.1 h with h₁ | ⟨id, a₁, -, h⟩
    · rcases makePipeline_error h₁ with ⟨code, adds⟩ | ⟨id, code, a₁, adds, rfl⟩
      · exact goes_of_adds adds good live
      · have yields := made rfl adds
        have device : Live a₁.trace (.device device) := yields.goes.live (live _ List.mem_cons_self)
        refine yields.goes_undone (goes_call _ yields.goes.after fun t ht => ?_) fun t ht =>
          ⟨_, List.mem_cons_self, (List.mem_singleton.1 ht).symm⟩
        rcases List.mem_cons.1 ht with rfl | ht
        · exact device
        · rw [List.mem_singleton.1 ht]
          refine yields.live List.mem_cons_self fun q hq => ?_
          rwa [List.mem_singleton.1 hq]
    · cases h

end Builds

end Api

/-! ## Pipelines -/

/-- The parts of a pipeline on a device, in the order in which they are made. -/
def Pipeline.parts (device : Nat) (p : Pipeline) : List Part :=
  [⟨.object .shaderModule p.shaderModule, [.device device]⟩,
    ⟨.object .setLayout p.setLayout, [.device device]⟩,
    ⟨.object .descriptorPool p.descriptorPool, [.device device]⟩,
    ⟨.descriptorSet p.descriptorSet, [.device device, .object .descriptorPool p.descriptorPool]⟩,
    ⟨.object .pipelineLayout p.layout, [.device device]⟩,
    ⟨.object .pipeline p.pipeline, [.device device]⟩]

/-- What is made along with a device may be used. -/
theorem Api.Yields.live_object {device : Nat} {t : Thing} (h : Yields ps a₀ a)
    (hdevice : Live a.trace (.device device)) (ht : ⟨t, [.device device]⟩ ∈ ps) : Live a.trace t := by
  refine h.live ht fun q hq => ?_
  rwa [List.mem_singleton.1 hq]

open Api in
theorem builds_pipeline {device : Nat} (what : PipelineDescriptor Nat) (good : a.Good)
    (hdevice : Live a.trace (.device device))
    (buffers : ∀ b ∈ what.bindings, Live a.trace (.object .buffer b.buffer)) :
    Builds (Pipeline.parts device) a (Pipeline.create device what) a := by
  rw [Pipeline.create_eq]
  unfold Pipeline.staged
  refine .makeObject (.nil (.refl good)) hdevice nofun (fun _ => rfl) rfl fun code a₁ goes₁ acc₁ => ?_
  have device₁ := goes₁.live hdevice
  refine .makeObject acc₁ device₁ nofun (fun _ => rfl) rfl fun setLayout a₂ goes₂ acc₂ => ?_
  have device₂ := goes₂.live device₁
  refine .makeObject acc₂ device₂ nofun (fun _ => rfl) rfl fun pool a₃ goes₃ acc₃ => ?_
  have device₃ := goes₃.live device₂
  refine .make .descriptorSet acc₃ (fun t ht => ?_) (fun _ => rfl)
    fun set a₄ goes₄ acc₄ => ?_
  · simp only [Request.uses, Creation.uses, List.map_cons, List.map_nil, List.mem_cons,
      List.not_mem_nil, or_false] at ht
    rcases ht with rfl | rfl | rfl
    · exact device₃
    · exact acc₃.live_object device₃ (by simp)
    · exact acc₃.live_object device₃ (by simp)
  have device₄ := goes₄.live device₃
  refine .call acc₄ (fun t ht => ?_) rfl fun a₅ goes₅ acc₅ => ?_
  · rcases List.mem_cons.1 ht with rfl | ht
    · exact device₄
    obtain ⟨w, hw, ht⟩ := List.mem_flatMap.1 ht
    obtain ⟨⟨b, i⟩, hb, rfl⟩ := List.mem_map.1 hw
    rcases List.mem_cons.1 ht with rfl | ht
    · refine acc₄.live (p := ⟨.descriptorSet set, [.device device, .object .descriptorPool pool]⟩)
        (by simp [Request.parents, Creation.pool?]) ?_
      intro q hq
      simp only [List.mem_cons, List.not_mem_nil, or_false] at hq
      rcases hq with rfl | rfl
      · exact device₄
      · exact acc₄.live_object device₄ (by simp)
    · rw [List.mem_singleton.1 ht]
      refine goes₄.live (goes₃.live (goes₂.live (goes₁.live (buffers b ?_))))
      exact (List.mem_zipIdx hb).2.2 ▸ List.getElem_mem _
  have device₅ := goes₅.live device₄
  refine .makeObject acc₅ device₅ (fun t ht => ?_) (fun _ => rfl) rfl fun layout a₆ goes₆ acc₆ => ?_
  · rw [List.mem_singleton.1 ht]
    exact acc₅.live_object device₅ (by simp)
  have device₆ := goes₆.live device₅
  refine .makePipeline acc₆ (fun t ht => ?_) (fun _ => rfl) rfl fun _ => rfl
  simp only [Request.uses, Creation.uses, List.mem_cons, List.not_mem_nil, or_false] at ht
  rcases ht with rfl | rfl | rfl
  · exact device₆
  · exact acc₆.live_object device₆ (by simp)
  · exact acc₆.live_object device₆ (by simp)

/-! ## Command batches -/

/-- The parts of a command batch on a device, in the order in which they are made. -/
def CommandBatch.parts (device : Nat) (b : CommandBatch) : List Part :=
  [⟨.object .commandPool b.pool, [.device device]⟩,
    ⟨.commandBuffer b.buffer, [.device device, .object .commandPool b.pool]⟩,
    ⟨.object .fence b.fence, [.device device]⟩] ++
  (b.timestampPool.map fun q => ⟨.object .queryPool q, [.device device]⟩).toList

open Api in
theorem builds_timestampPool {β : Type} {parts : β → List Part} {device : Nat} {timestamps : UInt32}
    {x : Option Nat → β} (acc : Yields ps a₀ a) (hdevice : Live a.trace (.device device))
    (last : ∀ q, parts (x q) = ps ++ (q.map fun q => ⟨.object .queryPool q, [.device device]⟩).toList) :
    Builds parts a₀
      (CommandBatch.createTimestampPool device timestamps >>= fun q => Pure.pure (x q)) a := by
  unfold CommandBatch.createTimestampPool
  split
  · refine Builds.pure ?_
    rw [last none]
    simpa using acc
  · simp only [bind_assoc, pure_bind]
    refine Builds.make (.object .queryPool) acc (fun t ht => ?_) (fun _ => rfl)
      fun id a₁ goes acc => .pure ?_
    · rw [List.mem_singleton.1 ht]
      exact hdevice
    · rw [last (some id)]
      exact acc

open Api in
theorem builds_commandBatch {device : Nat} {family timestamps : UInt32} (good : a.Good)
    (hdevice : Live a.trace (.device device)) :
    Builds (CommandBatch.parts device) a (CommandBatch.create device family timestamps) a := by
  rw [CommandBatch.create_eq]
  unfold CommandBatch.staged
  refine .makeObject (.nil (.refl good)) hdevice nofun (fun _ => rfl) rfl fun pool a₁ goes₁ acc₁ => ?_
  have device₁ := goes₁.live hdevice
  refine .stage .commandBuffer acc₁ (fun t ht => ?_) (fun _ => rfl) (fun _ => rfl)
    (fun id t ht => ?_) fun buffer a₂ goes₂ acc₂ => ?_
  · rcases List.mem_cons.1 ht with rfl | ht
    · exact device₁
    · rw [List.mem_singleton.1 ht]
      exact acc₁.live_object device₁ (by simp)
  · simp only [Request.uses, Creation.uses, List.map_cons, List.map_nil, List.mem_cons,
      List.not_mem_nil, or_false] at ht ⊢
    obtain rfl | rfl | rfl := ht <;> simp
  have device₂ := goes₂.live device₁
  refine .makeObject acc₂ device₂ nofun (fun _ => rfl) rfl fun fence a₃ goes₃ acc₃ => ?_
  exact builds_timestampPool acc₃ (goes₃.live device₂) fun _ => rfl

/-! ## Taking down -/

namespace Api

/-- An object of a device is destroyed, if it is there. -/
theorem goes_destroyObject {device object : Nat} {kind : ObjectKind} (good : a.Good)
    (hdevice : Live a.trace (.device device))
    (stands : Stands a.trace (.object kind object) [.device device]) :
    Goes [.object kind object] a (a.destroyObject device kind object) := by
  unfold destroyObject
  split
  · exact (Goes.refl good).mono nofun
  refine goes_call (.destroy device kind object) good fun t ht => ?_
  rcases List.mem_cons.1 ht with rfl | ht
  · exact hdevice
  · rw [List.mem_singleton.1 ht]
    exact live_of_stands stands hdevice

/-- Objects of a device are destroyed one after the other. -/
theorem goes_destroyAll {device : Nat} {objects : List (ObjectKind × Nat)} (good : a.Good)
    (hdevice : Live a.trace (.device device)) (nodup : objects.Nodup)
    (stands : ∀ o ∈ objects, Stands a.trace (.object o.1 o.2) [.device device]) :
    Goes (objects.map fun o => .object o.1 o.2) a
      (objects.foldl (fun a o => a.destroyObject device o.1 o.2) a) := by
  induction objects generalizing a with
  | nil => exact .refl good
  | cons o objects ih =>
    obtain ⟨ho, nodup⟩ := List.nodup_cons.1 nodup
    have first := goes_destroyObject good hdevice (stands o List.mem_cons_self)
    have rest := ih first.after
      (first.live_of_role (by simp [Thing.role]) hdevice (by simp [Thing.role])) nodup
      fun o' ho' => first.stands (stands o' (List.mem_cons_of_mem _ ho')) ?_
    · exact (first.mono (by simp)).trans rest fun t ht => .inl (List.mem_cons_of_mem _ ht)
    · intro hmem
      obtain ⟨h₁, h₂⟩ := Thing.object.inj (List.mem_singleton.1 hmem)
      exact ho (Prod.ext h₁ h₂ ▸ ho')

end Api

open Api in
/-- A pipeline's set goes with its pool and is not destroyed by itself. -/
theorem goes_destroyPipeline {device : Nat} {p : Pipeline} (good : a.Good)
    (hdevice : Live a.trace (.device device))
    (stands : ∀ part ∈ Pipeline.parts device p, Stands a.trace part.thing part.rests) :
    Goes ((Pipeline.parts device p).map (·.thing)) a (p.destroy device a) := by
  unfold Pipeline.destroy Pipeline.objects
  refine (goes_destroyAll good hdevice (by simp) fun o ho => ?_).mono fun t ht => ?_
  · have made {kind : ObjectKind} {id : Nat}
        (h : ⟨.object kind id, [.device device]⟩ ∈ Pipeline.parts device p) :
        Stands a.trace (.object kind id) [.device device] := stands _ h
    simp only [List.mem_cons, List.not_mem_nil, or_false] at ho
    obtain rfl | rfl | rfl | rfl | rfl := ho <;> exact made (by simp [Pipeline.parts])
  · simp only [List.map_cons, List.map_nil, List.mem_cons, List.not_mem_nil, or_false] at ht
    obtain rfl | rfl | rfl | rfl | rfl := ht <;> simp [Pipeline.parts]

/-- The objects of a batch that go before its command buffer, in the order in which they go. -/
def CommandBatch.leading (b : CommandBatch) : List Thing :=
  (b.timestampPool.map (.object .queryPool)).toList ++ [.object .fence b.fence]

theorem CommandBatch.role_leading {b : CommandBatch} {t : Thing} (h : t ∈ b.leading) :
    t.role = .object := by
  rcases List.mem_append.1 h with h | h
  · obtain ⟨q, -, rfl⟩ := Option.map_eq_some_iff.1 (Option.mem_toList.1 h)
    rfl
  · rw [List.mem_singleton.1 h]
    rfl

open Api in
theorem goes_destroyLeading {device : Nat} {b : CommandBatch} (good : a.Good)
    (hdevice : Live a.trace (.device device))
    (stands : ∀ t ∈ b.leading, Stands a.trace t [.device device]) :
    Goes b.leading a ((match b.timestampPool with
      | some queries => a.call (.destroy device .queryPool queries)
      | none => a).destroyObject device .fence b.fence) := by
  have fence := stands _ (List.mem_append_right _ List.mem_cons_self)
  unfold CommandBatch.leading at stands ⊢
  generalize b.timestampPool = timestampPool at stands ⊢
  cases timestampPool with
  | none => exact goes_destroyObject good hdevice fence
  | some queries =>
    have first := goes_call (.destroy device .queryPool queries) good fun t ht => by
      rcases List.mem_cons.1 ht with rfl | ht
      · exact hdevice
      · rw [List.mem_singleton.1 ht]
        exact live_of_stands (stands _ List.mem_cons_self) hdevice
    have device₁ := first.live_of_role (by simp [Request.ends, Thing.role]) hdevice
      (by simp [Thing.role])
    have second := goes_destroyObject first.after device₁ (first.stands fence (by simp [Request.ends]))
    exact (first.mono (by simp [Request.ends])).trans second fun t ht => .inl (.tail _ ht)

open Api in
/-- A command buffer is given back to its pool before the pool is destroyed. -/
theorem goes_destroyPool {device pool buffer : Nat} (good : a.Good)
    (hdevice : Live a.trace (.device device))
    (hpool : Stands a.trace (.object .commandPool pool) [.device device])
    (hbuffer : Stands a.trace (.commandBuffer buffer) [.device device, .object .commandPool pool]) :
    Goes [.object .commandPool pool, .commandBuffer buffer] a (if pool = 0 then a
      else (if buffer = 0 then a else a.call (.freeCommandBuffers device pool [buffer])).call
        (.destroy device .commandPool pool)) := by
  split
  · exact (Goes.refl good).mono nofun
  have live : Live a.trace (.object .commandPool pool) := live_of_stands hpool hdevice
  have first : Goes [.commandBuffer buffer] a
      (if buffer = 0 then a else a.call (.freeCommandBuffers device pool [buffer])) := by
    split
    · exact (Goes.refl good).mono nofun
    refine goes_call (.freeCommandBuffers device pool [buffer]) good ?_
    simp only [Request.uses, List.map_cons, List.map_nil, List.mem_cons, List.not_mem_nil, or_false]
    rintro t (rfl | rfl | rfl)
    · exact hdevice
    · exact live
    · refine .mk hbuffer ?_
      simpa using ⟨hdevice, live⟩
  have device₁ := first.live_of_role (by simp [Thing.role]) hdevice (by simp [Thing.role])
  have second := goes_call (.destroy device .commandPool pool) first.after <| by
    simp only [Request.uses, List.mem_cons, List.not_mem_nil, or_false]
    rintro t (rfl | rfl)
    · exact device₁
    · exact live_of_stands (first.stands hpool (by simp)) device₁
  exact (first.mono (by simp)).trans second (by simp [Request.ends])

open Api in
theorem goes_destroyCommandBatch {device : Nat} {b : CommandBatch} (good : a.Good)
    (hdevice : Live a.trace (.device device))
    (stands : ∀ part ∈ CommandBatch.parts device b, Stands a.trace part.thing part.rests) :
    Goes ((CommandBatch.parts device b).map (·.thing)) a (b.destroy device a) := by
  have hpool : Stands a.trace (.object .commandPool b.pool) [.device device] :=
    stands _ List.mem_cons_self
  have hbuffer : Stands a.trace (.commandBuffer b.buffer)
      [.device device, .object .commandPool b.pool] := stands _ (.tail _ List.mem_cons_self)
  have leading {t : Thing} (ht : t ∈ b.leading) :
      ⟨t, [.device device]⟩ ∈ CommandBatch.parts device b := by
    unfold CommandBatch.parts
    rcases List.mem_append.1 ht with ht | ht
    · obtain ⟨q, hq, rfl⟩ := Option.map_eq_some_iff.1 (Option.mem_toList.1 ht)
      simp [hq]
    · rw [List.mem_singleton.1 ht]
      simp
  have first := goes_destroyLeading good hdevice fun t ht => stands _ (leading ht)
  have device₁ := first.live_of_role (fun t => CommandBatch.role_leading) hdevice (by simp [Thing.role])
  have second := goes_destroyPool first.after device₁
    (first.stands hpool (by cases h : b.timestampPool <;> simp [CommandBatch.leading, h]))
    (first.stands hbuffer (by cases h : b.timestampPool <;> simp [CommandBatch.leading, h]))
  refine (first.mono fun t ht => ?_).trans second fun t ht => .inl ?_
  · exact List.mem_map_of_mem (f := Part.thing) (leading ht)
  · simp only [List.mem_cons, List.not_mem_nil, or_false] at ht
    rcases ht with rfl | rfl <;> simp [CommandBatch.parts]

end GpuCompute.Vulkan
