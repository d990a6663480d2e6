import GpuCompute.InMemory.Driver
import GpuCompute.Proofs.Agreement
import GpuCompute.Proofs.Recording

/-!
# Nothing depends on the log

The log is only ever written to. A driver is oblivious if what its calls answer, what they do and what
they write does not depend on what stands in the log already (`Driver.Oblivious`). The driver in
memory is oblivious, and so is an oblivious driver with a trace.
-/

namespace GpuCompute

/-! ## Environments -/

/-- Two environments in which the driver is in the same state, and the same was written to the log since
it was `l` in the one and `l'` in the other. -/
def Env.Beside {σ : Type} (l l' : List Log.Record) (e e' : Env σ) : Prop :=
  e'.driver = e.driver ∧ ∃ new, e.log = l ++ new ∧ e'.log = l' ++ new

/-- What a change of the environment does and writes does not depend on the log. -/
def Env.Oblivious {σ : Type} (f : Env σ → Env σ) : Prop :=
  ∀ l l' e e', Beside l l' e e' → Beside l l' (f e) (f e')

/-- What an action answers, does and writes does not depend on the log. -/
def Act.Oblivious {σ α : Type} (act : Act σ α) : Prop :=
  ∀ l l', Attempt.Alike (Env.Beside l l') Eq act act

variable {σ α β : Type} {e e' : Env σ} {l l' : List Log.Record}

namespace Env

theorem Beside.write (h : Beside l l' e e') (r : Log.Record) :
    Beside l l' (e.write r) (e'.write r) := by
  obtain ⟨driver, new, hl, hl'⟩ := h
  exact ⟨driver, new ++ [r], by simp [hl], by simp [hl']⟩

theorem Beside.onDriver (h : Beside l l' e e') (f : σ → σ) :
    Beside l l' (e.onDriver f) (e'.onDriver f) := ⟨congrArg f h.1, h.2⟩

theorem oblivious_write (r : Log.Record) : Oblivious (write r : Env σ → Env σ) := fun _ _ _ _ h => h.write r

theorem oblivious_onDriver (f : σ → σ) : Oblivious (onDriver f) := fun _ _ _ _ h => h.onDriver f

end Env

namespace Act.Oblivious

variable {x : Act σ α} {f : α → Act σ β}

theorem bind (hx : Oblivious x) (hf : ∀ a, Oblivious (f a)) : Oblivious (x >>= f) :=
  fun l l' => (hx l l').bind_same fun a => hf a l l'

theorem pure (a : α) : Oblivious (Pure.pure a : Act σ α) := fun _ _ => .pure rfl

theorem throw (error : Error) : Oblivious (MonadExcept.throw error : Act σ α) :=
  fun _ _ => .throw error

theorem ofExcept (z : Except Error α) : Oblivious (Attempt.ofExcept z : Act σ α) :=
  fun _ _ => .ofExcept z

theorem change {g : Env σ → Env σ} (h : Env.Oblivious g) : Oblivious (modify g : Act σ Unit) :=
  fun l l' => .change (h l l')

theorem write (r : Log.Record) : Oblivious (Act.write r : Act σ Unit) := change (Env.oblivious_write r)

theorem undoing {undo : Env σ → Env σ} (hx : Oblivious x) (h : Env.Oblivious undo) :
    Oblivious (Attempt.undoing undo x) := fun l l' => (hx l l').undoing (h l l')

theorem ofState {g : Env σ → α × Env σ} (value : ∀ e e', e'.driver = e.driver → (g e').1 = (g e).1)
    (state : Env.Oblivious fun e => (g e).2) : Oblivious (Attempt.ofState g) :=
  fun l l' e e' h => .ok (value e e' h.1).symm (state l l' e e' h)

theorem modifyGet {g : Env σ → α × Env σ}
    (value : ∀ e e', e'.driver = e.driver → (g e').1 = (g e).1)
    (state : Env.Oblivious fun e => (g e).2) : Oblivious (MonadStateOf.modifyGet g : Act σ α) :=
  ofState value state

/-- An action that looks at the driver first. -/
theorem get_bind {f : Env σ → Act σ α} (h : ∀ e, Oblivious (f e))
    (same : ∀ e e', e'.driver = e.driver → f e' = f e) : Oblivious (get >>= f) := by
  intro l l' e e' hb
  change Attempt.Ends _ _ (f e e) (f e' e')
  rw [same e e' hb.1]
  exact h e l l' e e' hb

/-- It is decided beforehand what is done. -/
theorem ite {p : Prop} [Decidable p] {y : Act σ α} (hx : Oblivious x) (hy : Oblivious y) :
    Oblivious (if p then x else y) := by
  split <;> assumption

end Act.Oblivious

/-! ## Drivers -/

/-- What a driver answers, does and writes does not depend on the log. -/
structure Driver.Oblivious (d : Driver) : Prop where
  instanceExtensions : Act.Oblivious d.instanceExtensions
  instanceLayers : Act.Oblivious d.instanceLayers
  createInstance : ∀ what, Act.Oblivious (d.createInstance what)
  registerCallbacks : ∀ inst, Act.Oblivious (d.registerCallbacks inst)
  unregisterCallbacks : ∀ inst callbacks, Env.Oblivious (d.unregisterCallbacks inst callbacks)
  destroyInstance : ∀ inst, Env.Oblivious (d.destroyInstance inst)
  adapters : ∀ inst, Act.Oblivious (d.adapters inst)
  properties : ∀ inst adapter, Act.Oblivious (Attempt.ofState (d.properties inst adapter))
  queueFamilies : ∀ inst adapter, Act.Oblivious (Attempt.ofState (d.queueFamilies inst adapter))
  deviceExtensions : ∀ inst adapter, Act.Oblivious (d.deviceExtensions inst adapter)
  createDevice : ∀ inst adapter what, Act.Oblivious (d.createDevice inst adapter what)
  queue : ∀ device family index, Act.Oblivious (Attempt.ofState (d.queue device family index))
  releaseDevice : ∀ device, Env.Oblivious (d.releaseDevice device)
  destroyDevice : ∀ device, Env.Oblivious (d.destroyDevice device)
  createBuffer : ∀ device size usage, Act.Oblivious (d.createBuffer device size usage)
  destroyBuffer : ∀ device buffer, Env.Oblivious (d.destroyBuffer device buffer)
  createPipeline : ∀ device what, Act.Oblivious (d.createPipeline device what)
  destroyPipeline : ∀ device pipeline, Env.Oblivious (d.destroyPipeline device pipeline)
  createBatch : ∀ device family timestamps, Act.Oblivious (d.createBatch device family timestamps)
  destroyBatch : ∀ device batch, Env.Oblivious (d.destroyBatch device batch)

/-! ## The driver in memory -/

namespace InMemory

theorem oblivious_consult (call : Fallible) : Act.Oblivious (consult call) := by
  intro l l' e e' h
  unfold consult
  rw [h.1]
  obtain ⟨_ | failure, script⟩ := e.driver.script.ask call
  · exact .ok rfl (h.onDriver _)
  · exact .error (h.onDriver _)

theorem oblivious_note (event : Event) : Env.Oblivious (note event) := Env.oblivious_onDriver _

theorem oblivious_query (call : Fallible) (event : Event) (answer : Offer → α) :
    Act.Oblivious (query call event answer) :=
  .bind (.change (oblivious_note event)) fun _ =>
    .bind (oblivious_consult call) fun _ =>
      .get_bind (fun _ => .pure _) fun _ _ h => by rw [h]

theorem oblivious_make (call : Fallible) (event : Nat → Event) : Act.Oblivious (make call event) :=
  .bind (oblivious_consult call) fun _ =>
    .modifyGet (fun _ _ h => congrArg State.next h) fun _ _ _ _ h => by
      dsimp only
      rw [h.1]
      exact h.onDriver _

theorem oblivious : driver.Oblivious where
  instanceExtensions := oblivious_query _ _ _
  instanceLayers := oblivious_query _ _ _
  createInstance what := oblivious_make .createInstance fun id => .createInstance id what
  registerCallbacks _ := .bind (oblivious_consult _) fun _ =>
    .bind (.change (oblivious_note _)) fun _ => .pure _
  unregisterCallbacks _ _ := oblivious_note _
  destroyInstance _ := oblivious_note _
  adapters inst := oblivious_query .enumerateAdapters (.enumerateAdapters inst) fun o =>
    (List.range o.adapters.length).map fun i => UInt64.ofNat (i + 1)
  properties _ adapter :=
    .ofState (fun _ _ h => congrArg (fun s => (State.offer s |>.adapter adapter).properties) h)
      fun _ _ _ _ h => h
  queueFamilies _ adapter :=
    .ofState (fun _ _ h => congrArg (fun s => (State.offer s |>.adapter adapter).families) h)
      fun _ _ _ _ h => h
  deviceExtensions inst adapter :=
    oblivious_query .deviceExtensions (.deviceExtensions inst adapter) fun o =>
      (o.adapter adapter).extensions
  createDevice inst adapter what :=
    oblivious_make .createDevice fun id => .createDevice id inst adapter what
  queue _ _ _ := .ofState (fun _ _ _ => rfl) (oblivious_note _)
  releaseDevice _ := Env.oblivious_onDriver _
  destroyDevice _ := Env.oblivious_onDriver _
  createBuffer device size usage :=
    oblivious_make .createBuffer fun id => .createBuffer id device size usage
  destroyBuffer _ _ := oblivious_note _
  createPipeline device what :=
    oblivious_make .createPipeline fun id => .createPipeline id device what
  destroyPipeline _ _ := oblivious_note _
  createBatch device family timestamps :=
    oblivious_make .createBatch fun id => .createBatch id device family timestamps
  destroyBatch _ _ := oblivious_note _

end InMemory

/-! ## Recorded drivers -/

namespace Recorder

open Trace (Request)

variable {d : Driver} {request : Request} {e e' : Env (Recorder d)}

theorem beside_under (h : Env.Beside l l' e e') : Env.Beside l l' (under e) (under e') :=
  ⟨congrArg Recorder.inner h.1, h.2⟩

theorem beside_note (h : Env.Beside l l' e e') (succeeded : Bool) {inner inner' : Env d.State}
    (hi : Env.Beside l l' inner inner') :
    Env.Beside l l' (note request succeeded inner e) (note request succeeded inner' e') := by
  refine ⟨?_, hi.2⟩
  unfold note
  rw [h.1, hi.1]

theorem oblivious_tell {call : Env d.State → Env d.State} (h : Env.Oblivious call) :
    Env.Oblivious (tell request call) :=
  fun l l' _ _ hb => beside_note hb true (h l l' _ _ (beside_under hb))

theorem oblivious_look {call : Env d.State → α × Env d.State}
    (h : Act.Oblivious (Attempt.ofState call)) :
    Act.Oblivious (Attempt.ofState (look request call)) := by
  intro l l' e e' hb
  obtain ⟨value, state⟩ := (h l l').look (beside_under hb)
  exact .ok value (beside_note hb true state)

theorem oblivious_ask {call : Act d.State α} (h : Act.Oblivious call) :
    Act.Oblivious (ask request call) := by
  intro l l' e e' hb
  unfold ask
  have ends := h l l' _ _ (beside_under hb)
  generalize call (under e) = r, call (under e') = r' at ends
  cases ends with
  | ok value state => exact .ok value (beside_note hb true state)
  | error state => exact .error (beside_note hb false state)

theorem oblivious_make {call : Act d.State α} (h : Act.Oblivious call) :
    Act.Oblivious (make request call) := by
  intro l l' e e' hb
  unfold make
  have ends := h l l' _ _ (beside_under hb)
  rw [hb.1]
  generalize call (under e) = r, call (under e') = r' at ends
  cases ends with
  | ok value state => exact .ok (by rw [value]) (beside_note hb true state)
  | error state => exact .error (beside_note hb false state)

end Recorder

open Recorder in
/-- An oblivious driver with a trace is oblivious. -/
theorem Driver.Oblivious.recorded {d : Driver} (h : d.Oblivious) : d.recorded.Oblivious where
  instanceExtensions := oblivious_ask h.instanceExtensions
  instanceLayers := oblivious_ask h.instanceLayers
  createInstance what := oblivious_make (h.createInstance what)
  registerCallbacks inst := oblivious_make (h.registerCallbacks inst.handle)
  unregisterCallbacks inst c := oblivious_tell (h.unregisterCallbacks inst.handle c.handle)
  destroyInstance inst := oblivious_tell (h.destroyInstance inst.handle)
  adapters inst := oblivious_ask (h.adapters inst.handle)
  properties inst adapter := oblivious_look (h.properties inst.handle adapter)
  queueFamilies inst adapter := oblivious_look (h.queueFamilies inst.handle adapter)
  deviceExtensions inst adapter := oblivious_ask (h.deviceExtensions inst.handle adapter)
  createDevice inst adapter what :=
    .bind (oblivious_make (h.createDevice inst.handle adapter what)) fun _ =>
      .bind (.change (Env.oblivious_onDriver _)) fun _ => .pure _
  queue device family index := oblivious_look (h.queue device.handle family index)
  releaseDevice device := oblivious_tell (h.releaseDevice device.handle)
  destroyDevice device := oblivious_tell (h.destroyDevice device.handle)
  createBuffer device size usage := oblivious_make (h.createBuffer device.handle size usage)
  destroyBuffer device buffer := oblivious_tell (h.destroyBuffer device.handle buffer.handle)
  createPipeline device what := oblivious_make (h.createPipeline device.handle (handles what))
  destroyPipeline device pipeline :=
    oblivious_tell (h.destroyPipeline device.handle pipeline.handle)
  createBatch device family timestamps := oblivious_make (h.createBatch device.handle family timestamps)
  destroyBatch device batch := oblivious_tell (h.destroyBatch device.handle batch.handle)

end GpuCompute
