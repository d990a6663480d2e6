import GpuCompute.Proofs.Calls
import GpuCompute.Proofs.Idling

/-!
# What is asked of a driver

Whatever an operation does to the environment is a number of calls of the driver, whether these are
made for managers and resources or by the caller itself (`Session.driven_step`).
-/

namespace GpuCompute

open Driver

variable {d : Driver} {e e' e'' : Env d.State}

/-! ## Calls -/

namespace Driver

/-- One call of a driver, or a change of the log. -/
inductive Calls (d : Driver) (e e' : Env d.State) : Prop
  | passes (h : d.Passes e e')
  | creates {i : d.Instance} {adapter : AdapterHandle} {what : DeviceDescriptor} {x : d.Device}
    (h : d.createDevice i adapter what e = .ok x e')
  | ends {x : d.Device} (h : d.Ends x e e')

/-- Any number of calls of a driver. -/
def Drives (d : Driver) : Env d.State → Env d.State → Prop := Relation.ReflTransGen d.Calls

namespace Drives

theorem refl (e : Env d.State) : d.Drives e e := Relation.ReflTransGen.refl

theorem trans (e e' e'' : Env d.State) (h : d.Drives e e') (h' : d.Drives e' e'') : d.Drives e e'' :=
  Relation.ReflTransGen.trans h h'

theorem then_ (h : d.Drives e e') (h' : d.Drives e' e'') : d.Drives e e'' := trans _ _ _ h h'

theorem of_calls (h : d.Calls e e') : d.Drives e e' := .single h

theorem passes (h : d.Passes e e') : d.Drives e e' := of_calls (.passes h)

theorem of_idled (h : d.Idled e e') : d.Drives e e' :=
  Relation.ReflTransGen.mono (r := d.Idles) (fun _ _ h => .passes h.passes) _ _ h

theorem of_asked {I : d.Instance → Prop} {D : d.Device → Prop} (h : d.Asked I D e e') :
    d.Drives e e' := of_idled (.of_asked h)

theorem write (r : Log.Record) (e : Env d.State) : d.Drives e (e.write r) := of_idled (.write r e)

theorem make (x : d.Device) (order : Order d) : Attempt.Leaves d.Drives (d.make x order) :=
  fun e => passes (.make x order e)

theorem createDevice (i : d.Instance) (adapter : AdapterHandle) (what : DeviceDescriptor) :
    Attempt.Leaves d.Drives (d.createDevice i adapter what) :=
  .of_cases (fun _ _ _ made => of_calls (.creates made)) fun _ _ _ failed => passes (.refusesDevice failed)

/-- What each call preserves is preserved by any number of them. -/
theorem induct {P : Env d.State → Prop} (h : d.Drives e e')
    (step : ∀ e e', d.Calls e e' → P e → P e') (start : P e) : P e' := by
  induction h with
  | refl => exact start
  | tail _ h ih => exact step _ _ h ih

end Drives

end Driver

/-! ## Resources and managers -/

theorem Pool.Destroys.drives {p q : Pool d} (h : p.Destroys q) : d.Drives p.env q.env := by
  induction h with
  | refl => exact .refl _
  | @tail p q _ h ih =>
    refine ih.then_ ?_
    obtain ⟨r, rfl⟩ | ⟨record, rfl⟩ := h
    · obtain ⟨-, same⟩ | ⟨slot, x, -, -, gives⟩ := destroy_cases r p
      · rw [same]
        exact .refl _
      · generalize (p.destroy r).env = e at gives
        cases gives with
        | destroyed => exact (Drives.passes (.unmake slot.device x p.env)).then_ (.write _ _)
        | abandoned => exact .write _ _
    · exact .write record p.env

theorem Pool.Makes.drives {p q : Pool d} {x : d.Device} {order : Order d} {r : ResourceId}
    (h : p.Makes x order r q) : d.Drives p.env q.env := by
  obtain ⟨e₁, object, e₂, asked, made, again, -⟩ := h
  exact ((Drives.of_asked asked).then_ ((Drives.make x order).of_ok made)).then_ (.of_asked again)

theorem Manager.Creates.drives {m : Manager d} {config : Config} (h : m.Creates config e e') :
    d.Drives e e' := by
  obtain ⟨i, adapter, what, x, e₁, e₂, first, created, rest, -⟩ := Manager.idled_creates h
  exact ((Drives.of_idled first).then_ (.of_calls (.creates created))).then_ (.of_idled rest)

theorem Manager.drives_create (config : Config) (selection : Selection) :
    Attempt.Leaves d.Drives (Manager.create d config selection) :=
  .of_cases (fun _ _ _ made => (create_ok made).drives) fun _ _ _ failed =>
    .of_idled (idled_fails (create_error failed))

theorem Manager.drives_borrow (config : Config) (inst : d.Instance) (adapter : AdapterHandle)
    (device : d.Device) (families : List UInt32) :
    Attempt.Leaves d.Drives (Manager.borrow config inst adapter device families) :=
  .of_cases (fun _ _ _ made => .of_asked (borrow_ok made).asked) fun _ _ _ failed =>
    absurd failed borrow_ne_error

theorem Manager.drives_shut (m : Manager d) (device : Ownership d.Device) (e : Env d.State) :
    d.Drives e (m.shut device e) := by
  have released := Drives.of_calls (.ends (.release (x := device.handle) e))
  have closed : d.Drives e (closeDevice device e) := by
    cases device with
    | owned x => exact (released.then_ (.of_calls (.ends (.destroy _)))).then_ (.write _ _)
    | borrowed x => exact released.then_ (.write _ _)
  unfold shut
  cases m.inst with
  | none => exact closed.then_ (.write _ _)
  | some i => exact closed.then_ (.of_idled (idled_closeInstance i m.callbacks _))

/-! ## Operations -/

namespace Session

variable {P : Permit d} {s s' : Session d} {l : List (Manager d)}

theorem drives_move (h : Move P s l s') : d.Drives s.pool.env s'.pool.env := by
  cases h with
  | turns h => exact .of_idled (idled_turn h)
  | creates h => exact h.drives
  | borrows _ _ _ h => exact .of_asked h.asked
  | makes _ _ _ made => exact made.drives
  | destroys r => exact (Pool.Destroys.of_destroy r s.pool).drives
  | closes => exact Manager.drives_shut _ _ _
  | lendsInstance _ made => exact .of_idled (.of_ok (.createInstance _ _) made)
  | lendsDevice _ _ made => exact .of_calls (.creates made)
  | endsInstance => exact .passes (.destroyInstance _ _)
  | releasesDevice => exact .of_calls (.ends (.release _))
  | endsDevice => exact .of_calls (.ends (.destroy _))
  | keeps | reholds | edits | prunes | forgets => exact .refl _

theorem drives_moves (h : Moves P s l s') : d.Drives s.pool.env s'.pool.env := by
  induction h with
  | nil => exact .refl _
  | cons h _ ih => exact (drives_move h).then_ ih

/-- The driver was called any number of times between two sessions. -/
abbrev Driven (s s' : Session d) : Prop := d.Drives s.pool.env s'.pool.env

variable {α : Type}

theorem driven_run_bind {act : Act d.State α} {f : α → Attempt (Session d) (Reply d)}
    (h : Attempt.Leaves d.Drives act) (hf : ∀ a, Attempt.Leaves Driven (f a)) :
    Attempt.Leaves Driven (run act >>= f) := by
  refine .bind (fun _ _ _ => .trans _ _ _) (fun s => ?_) hf
  rw [after_run]
  exact h s.pool.env

theorem driven_addObject {act : Act d.State α} {put : α → Session d → Session d}
    (h : Attempt.Leaves d.Drives act) (hput : ∀ a s, (put a s).pool = s.pool) :
    Attempt.Leaves Driven (addObject act put) :=
  driven_run_bind h fun a s => by
    change d.Drives _ (put a s).pool.env
    rw [hput]
    exact .refl _

theorem driven_takeObject {name : String} (entries : Session d → List (String × α))
    {setEntries : List (String × α) → Session d → Session d}
    (hset : ∀ l s, (setEntries l s).pool = s.pool) {consume : α → Env d.State → Env d.State}
    (h : ∀ a e, d.Passes e (consume a e)) :
    Attempt.Leaves Driven (takeObject name entries setEntries consume) := by
  intro s
  unfold takeObject
  rw [Attempt.after_get_bind]
  cases (entries s).lookup name with
  | none => exact .refl _
  | some a =>
    change d.Drives _ (consume a (setEntries _ s).pool.env)
    rw [hset]
    exact .passes (h a _)

/-- What is made on a device by one of the three calls that do so. -/
theorem drives_order {x : d.Device} (order : Order d) {kind : α → Object d} {act : Act d.State α}
    (h : d.make x order = kind <$> act) : Attempt.Leaves d.Drives act := fun e => by
  have drives := Drives.make x order e
  rwa [h, Attempt.after_map] at drives

theorem driven_call (c : DriverCall) : Attempt.Leaves Driven (call (d := d) c) := by
  have refl (s : Session d) : Driven s s := .refl _
  cases c with
  | createInstance name what =>
    exact driven_run_bind (fun e => .passes (.createInstance what e)) fun _ s => refl s
  | destroyInstance => exact leaves_withInstance refl fun i s => .passes (.destroyInstance i _)
  | createDevice =>
    exact leaves_withInstance refl fun i => driven_run_bind (.createDevice i _ _) fun _ s => refl s
  | releaseDevice => exact leaves_withDevice refl fun x s => .of_calls (.ends (.release _))
  | destroyDevice => exact leaves_withDevice refl fun x s => .of_calls (.ends (.destroy _))
  | probeDevice => exact leaves_withDevice refl fun x s => refl s
  | survey =>
    exact leaves_withInstance refl fun i =>
      driven_run_bind (fun e => .of_asked (onlyAsks_survey i _ e)) fun _ s => refl s
  | registerCallbacks =>
    exact leaves_withInstance refl fun i =>
      driven_addObject (fun e => .passes (.registerCallbacks i e)) fun _ _ => rfl
  | unregisterCallbacks =>
    exact leaves_withInstance refl fun i =>
      driven_takeObject _ (by exact fun _ _ => rfl) fun c e => .unregisterCallbacks i c e
  | createBuffer _ _ size usage =>
    exact leaves_withDevice refl fun x =>
      driven_addObject (drives_order (.buffer size usage) rfl) fun _ _ => rfl
  | createBatch _ _ family timestamps =>
    exact leaves_withDevice refl fun x =>
      driven_addObject (drives_order (.batch family timestamps) rfl) fun _ _ => rfl
  | createPipeline name device what =>
    refine leaves_withDevice refl fun x s => ?_
    rw [Attempt.after_get_bind]
    cases s.looseBindings what.bindings with
    | error => exact refl s
    | ok bindings =>
      exact driven_addObject (drives_order (.pipeline { what with bindings }) rfl)
        (by exact fun _ _ => rfl) s
  | destroyBuffer =>
    exact leaves_withDevice refl fun x =>
      driven_takeObject _ (by exact fun _ _ => rfl) fun b e => .unmake x (.buffer b) e
  | destroyPipeline =>
    exact leaves_withDevice refl fun x =>
      driven_takeObject _ (by exact fun _ _ => rfl) fun p e => .unmake x (.pipeline p) e
  | destroyBatch =>
    exact leaves_withDevice refl fun x =>
      driven_takeObject _ (by exact fun _ _ => rfl) fun b e => .unmake x (.batch b) e

/-- The manager that had a name is torn down when another one takes it. -/
theorem driven_storeManager (hs : s.Named) (n : String) (m : Manager d) :
    Driven s (storeManager n m s) := by
  have moves : Moves (.lending d fun _ => True) { s with managers := s.managers ++ [(n, m)] } []
      (storeManager n m s) := moves_storeManager hs.managers fun _ _ => trivial
  have drives := drives_moves moves
  exact drives

/-- **Whatever an operation does to the environment, it does by calls of the driver.** -/
theorem driven_step (hs : s.Named) (o : Operation) : Driven s ((step o).after s) := by
  by_cases h : ∃ c, o = .call c
  · obtain ⟨c, rfl⟩ := h
    exact driven_call c s
  · have reaches := reaches_step (P := .lending d fun _ => True) hs ⟨fun _ _ _ _ => trivial,
      fun _ _ _ => trivial, fun _ _ => trivial, fun c hc => absurd ⟨c, hc⟩ h⟩
    exact drives_moves reaches.moves

/-- At the end of a session, too, the driver is only called. -/
theorem driven_finish (hs : s.Named) : Driven s s.finish := by
  -- nothing is asked of managers that stay
  let P : Permit d := .lending d fun _ => True
  have resources (names : List String) {s : Session d} (hs : s.Named) :
      Reaches P s [] (s.onPool fun p => names.foldl (fun p name => p.drop name) p) := by
    induction names generalizing s with
    | nil => exact .refl hs
    | cons name names ih =>
      have dropped : Reaches P s [] (s.onPool (.drop name)) := reaches_drop hs name
      exact dropped.then_ (ih dropped.named)
  have managers (names : List String) {s : Session d} (hs : s.Named) :
      Reaches P s [] (names.foldl (fun s name => s.dropManager name) s) := by
    induction names generalizing s with
    | nil => exact .refl hs
    | cons name names ih =>
      have dropped : Reaches P s [] (s.dropManager name) := reaches_dropManager hs fun _ _ => trivial
      exact dropped.then_ (ih dropped.named)
  have first := resources s.pool.names hs
  exact drives_moves (first.then_ (managers s.managerNames first.named)).moves

end Session

end GpuCompute
