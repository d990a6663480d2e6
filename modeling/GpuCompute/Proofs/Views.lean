import GpuCompute.Proofs.Obliviousness
import GpuCompute.Proofs.Parallel

/-!
# What is seen of the log

Nothing depends on the log, so that it does not matter which of its records are looked at. Two
environments agree in a view of the log if the driver is in the same state and the same is seen of both
logs (`Env.Agree`), and two pools agree if they have the same resources with the same holders besides
(`Pool.Agree`). What does not depend on the log cannot tell them apart (`Driver.Oblivious.respects`).
-/

namespace GpuCompute

/-- What is seen of a record of the log, if it is seen at all. -/
abbrev Log.View : Type := Log.Record → Option Log.Record

variable {d : Driver} {view : Log.View}

/-! ## Environments -/

namespace Env

variable {σ : Type} {e e' f f' : Env σ}

/-- The driver is in the same state, and the same is seen of the logs. -/
structure Agree (view : Log.View) (e e' : Env σ) : Prop where
  driver : e'.driver = e.driver
  log : e'.log.filterMap view = e.log.filterMap view

namespace Agree

theorem refl (e : Env σ) : e.Agree view e := ⟨rfl, rfl⟩

theorem symm (h : e.Agree view e') : e'.Agree view e := ⟨h.driver.symm, h.log.symm⟩

theorem beside (h : e.Agree view e') : Beside e.log e'.log e e' :=
  ⟨h.driver, [], (List.append_nil _).symm, (List.append_nil _).symm⟩

theorem of_beside (h : e.Agree view e') (hf : Beside e.log e'.log f f') : f.Agree view f' := by
  obtain ⟨driver, new, hl, hl'⟩ := hf
  refine ⟨driver, ?_⟩
  rw [hl, hl', List.filterMap_append, List.filterMap_append, h.log]

theorem write (h : e.Agree view e') {r r' : Log.Record} (same : view r' = view r) :
    (e.write r).Agree view (e'.write r') := by
  refine ⟨h.driver, ?_⟩
  rw [log_write, log_write, List.filterMap_append, List.filterMap_append, h.log]
  simp only [List.filterMap, same]

theorem write_unseen (h : e.Agree view e') {r : Log.Record} (unseen : view r = none) :
    (e.write r).Agree view e' := by
  refine ⟨h.driver, ?_⟩
  rw [log_write, List.filterMap_append, h.log]
  simp only [List.filterMap, unseen, List.append_nil]

end Agree

/-- A change that does not depend on the log. -/
theorem Oblivious.respects {g : Env σ → Env σ} (h : Oblivious g) : Respects (Agree view) g :=
  fun _ _ agree => agree.of_beside (h _ _ _ _ agree.beside)

end Env

/-- What does not depend on the log cannot tell environments apart that agree. -/
theorem Act.Oblivious.respects {σ α : Type} {act : Act σ α} (h : act.Oblivious) :
    act.Respects (Env.Agree view) :=
  fun _ _ agree => (h _ _ _ _ agree.beside).mono (fun _ _ => id) fun _ _ hb => agree.of_beside hb

/-- A driver that does not depend on the log. -/
theorem Driver.Oblivious.respects (h : d.Oblivious) : d.Respects (Env.Agree view) where
  write r := (Env.oblivious_write r).respects
  isAlive _ _ _ agree := by rw [agree.driver]
  instanceExtensions := h.instanceExtensions.respects
  instanceLayers := h.instanceLayers.respects
  createInstance what := (h.createInstance what).respects
  registerCallbacks inst := (h.registerCallbacks inst).respects
  unregisterCallbacks inst c := (h.unregisterCallbacks inst c).respects
  destroyInstance inst := (h.destroyInstance inst).respects
  adapters inst := (h.adapters inst).respects
  properties inst adapter := (h.properties inst adapter).respects
  queueFamilies inst adapter := (h.queueFamilies inst adapter).respects
  deviceExtensions inst adapter := (h.deviceExtensions inst adapter).respects
  createDevice inst adapter what := (h.createDevice inst adapter what).respects
  queue device family index := (h.queue device family index).respects
  releaseDevice device := (h.releaseDevice device).respects
  destroyDevice device := (h.destroyDevice device).respects
  createBuffer device size usage := (h.createBuffer device size usage).respects
  destroyBuffer device buffer := (h.destroyBuffer device buffer).respects
  createPipeline device what := (h.createPipeline device what).respects
  destroyPipeline device pipeline := (h.destroyPipeline device pipeline).respects
  createBatch device family timestamps := (h.createBatch device family timestamps).respects
  destroyBatch device batch := (h.destroyBatch device batch).respects

/-! ## Pools -/

namespace Pool

variable {p q : Pool d}

/-- The same resources with the same holders, in environments that agree. -/
inductive Agree (view : Log.View) (p : Pool d) : Pool d → Prop
  | intro {e : Env d.State} (env : p.env.Agree view e) : Agree view p (p.withEnv e)

theorem Agree.env (h : p.Agree view q) : p.env.Agree view q.env := by
  obtain ⟨env⟩ := h
  exact env

theorem Related.agree (h : p.Related (Env.Agree view) q) : p.Agree view q := by
  obtain ⟨env⟩ := h
  exact .intro env

/-- A record that is not seen is written to one of the logs. -/
theorem Related.write_unseen (h : p.Related (Env.Agree view) q) {r : Log.Record}
    (unseen : view r = none) : (p.onEnv (.write r)).Related (Env.Agree view) q := by
  obtain ⟨env⟩ := h
  exact .intro (p := p.onEnv (.write r)) (env.write_unseen unseen)

end Pool

end GpuCompute
