import GpuCompute.Proofs.Construction
import GpuCompute.Proofs.Events
import GpuCompute.Proofs.Recording

/-!
# Ledgers

A ledger reads off a driver's state what was made and what was ended: it finds a trace of events in
the state and says of each event which thing it made and which it ended. The laws of a ledger say how
the calls that bring up instances and devices are entered in it.

From the laws it follows that the construction of a manager is all-or-nothing
(`Ledger.allOrNothing_create`). When it fails, what was made has been ended again, each thing once and
the instance last; when it succeeds, nothing was ended, and what was made is what the manager owns.
-/

namespace GpuCompute

/-! ## The laws -/

/-- A ledger of a driver. -/
structure Ledger (d : Driver) where
  Event : Type
  Thing : Type
  role : Thing → Role
  reading : Reading Event Thing
  trace : d.State → List Event
  inst : d.Instance → Thing
  /-- The things that callbacks consist of. -/
  callbacks : d.Callbacks → List Thing
  device : d.Device → Thing
  role_inst : ∀ i, role (inst i) = .inst
  role_callbacks : ∀ c, ∀ t ∈ callbacks c, role t = .callbacks
  nodup_callbacks : ∀ c, (callbacks c).Nodup
  role_device : ∀ x, role (device x) = .device
  asks : ∀ {I D e e'}, d.Asks I D e e' → reading.Enters [] [] (trace e.driver) (trace e'.driver)
  createInstance_ok : ∀ {what e i e'}, d.createInstance what e = .ok i e' →
    reading.Enters [inst i] [] (trace e.driver) (trace e'.driver)
  createInstance_error : ∀ {what e error e'}, d.createInstance what e = .error error e' →
    reading.Enters [] [] (trace e.driver) (trace e'.driver)
  registerCallbacks_ok : ∀ {i e c e'}, d.registerCallbacks i e = .ok c e' →
    reading.Enters (callbacks c) [] (trace e.driver) (trace e'.driver)
  registerCallbacks_error : ∀ {i e error e'}, d.registerCallbacks i e = .error error e' →
    reading.Withdraws (role · = .callbacks) (trace e.driver) (trace e'.driver)
  unregisterCallbacks : ∀ i c e, reading.Enters [] (callbacks c) (trace e.driver)
    (trace (d.unregisterCallbacks i c e).driver)
  destroyInstance : ∀ i e, reading.Enters [] [inst i] (trace e.driver)
    (trace (d.destroyInstance i e).driver)
  createDevice_ok : ∀ {i a what e x e'}, d.createDevice i a what e = .ok x e' →
    reading.Enters [device x] [] (trace e.driver) (trace e'.driver)
  createDevice_error : ∀ {i a what e error e'}, d.createDevice i a what e = .error error e' →
    reading.Withdraws (role · = .device) (trace e.driver) (trace e'.driver)

namespace Ledger

open Bootstrap

variable {d : Driver} (L : Ledger d)

/-- Between two environments `born` was made and `gone` was ended. -/
def Enters (born gone : List L.Thing) (e e' : Env d.State) : Prop :=
  L.reading.Enters born gone (L.trace e.driver) (L.trace e'.driver)

/-- Things were made and then ended again, each once and the instance last. Nothing else was made or
ended. -/
def TakesBack (e e' : Env d.State) : Prop :=
  ∃ (l : List L.Event) (born gone : List L.Thing),
    L.reading.Enters born [] (L.trace e.driver) l ∧ L.reading.Enters [] gone l (L.trace e'.driver) ∧
    gone.Perm born ∧ born.Nodup ∧ ∀ t ∈ born, L.role t = .inst → gone.getLast? = some t

/-- What an attempt to make a manager has to show for itself. If it succeeded, the manager owns one
instance, one device and, if diagnostics are on, callbacks; these were made, and nothing was ended.
If it failed, what was made was ended again. -/
def AllOrNothing (config : Config) (e : Env d.State) :
    EStateM.Result Error (Env d.State) (Manager d) → Prop
  | .ok m e' => ∃ i x, m.inst = some (.owned i) ∧ m.device = some (.owned x) ∧
      m.callbacks.isSome = config.diagnostics ∧
      L.Enters (L.inst i :: m.callbacks.elim [] L.callbacks ++ [L.device x]) [] e e'
  | .error _ e' => L.TakesBack e e'

variable {L} {config : Config} {selection : Selection} {e e' e'' : Env d.State}

/-! ## Stages of a construction -/

theorem enters_asked {I : d.Instance → Prop} {D : d.Device → Prop} (h : d.Asked I D e e') :
    L.Enters [] [] e e' := by
  refine h.induct (P := L.Enters [] [] e) ?_ (Reading.Enters.refl _)
  intro e₁ e₂ h h₁
  exact h₁.trans (L.asks h)

theorem enters_makesInstance {parts : InstanceParts d} (h : MakesInstance config parts e e') :
    L.Enters (L.inst parts.inst :: parts.callbacks.elim [] L.callbacks) [] e e' := by
  obtain ⟨⟨what, e₁, e₂, e₃, asked, created, again, registers⟩, -⟩ := h
  have made : L.Enters [L.inst parts.inst] [] e e₃ :=
    ((enters_asked asked).trans (L.createInstance_ok created)).trans (enters_asked again)
  generalize parts.callbacks = callbacks at registers ⊢
  cases registers with
  | none => exact made
  | some h => exact made.trans (L.registerCallbacks_ok h)

theorem enters_makesDevice {i : d.Instance} {parts : DeviceParts d}
    (h : MakesDevice i parts e e') : L.Enters [L.device parts.device] [] e e' := by
  obtain ⟨what, e₁, e₂, asked, created, again⟩ := h
  exact ((enters_asked asked).trans (L.createDevice_ok created)).trans (enters_asked again)

theorem withdraws_failsDevice {i : d.Instance} (h : FailsDevice i e e') :
    L.reading.Withdraws (L.role · = .device) (L.trace e.driver) (L.trace e'.driver) := by
  cases h with
  | asking h => exact ⟨none, _, by simp, enters_asked h, .refl _⟩
  | creating asked failed =>
    obtain ⟨thing, l, hrole, born, gone⟩ := L.createDevice_error failed
    exact ⟨thing, l, hrole, (enters_asked asked).trans born, gone⟩

theorem enters_destroyInstance (parts : InstanceParts d) (e : Env d.State) :
    L.Enters [] (parts.callbacks.elim [] L.callbacks ++ [L.inst parts.inst]) e
      (Bootstrap.destroyInstance d parts e) := by
  rcases parts with ⟨i, _ | c⟩
  · exact L.destroyInstance i e
  · exact (L.unregisterCallbacks i c e).trans (L.destroyInstance i _)

/-- An instance with what belongs to it is made, then something else in vain, and then the instance
goes, after what belongs to it. -/
theorem takesBack_of_withdraws {i : d.Instance} (things : List L.Thing) {role : Role}
    {e₁ e₂ : Env d.State} (born : L.Enters (L.inst i :: things) [] e e₁)
    (vain : L.reading.Withdraws (L.role · = role) (L.trace e₁.driver) (L.trace e₂.driver))
    (gone : L.Enters [] (things ++ [L.inst i]) e₂ e') (hrole : role ≠ .inst)
    (hthings : ∀ t ∈ things, L.role t ≠ .inst ∧ L.role t ≠ role) (nodup : things.Nodup) :
    L.TakesBack e e' := by
  obtain ⟨thing, l, hthing, born', gone'⟩ := vain
  refine ⟨l, _, _, born.trans born', gone'.trans gone, ?_, ?_, ?_⟩
  · exact List.perm_append_comm.trans (List.perm_append_singleton _ _ |>.append_right _)
  · have hi : L.inst i ∉ things := fun h => (hthings _ h).1 (L.role_inst i)
    have hi' : L.inst i ∉ thing.toList := fun h =>
      hrole ((hthing _ (Option.mem_toList.1 h)).symm.trans (L.role_inst i))
    have apart : ∀ t ∈ things, ∀ t' ∈ thing.toList, t ≠ t' := by
      rintro t ht _ ht' rfl
      exact (hthings t ht).2 (hthing t (Option.mem_toList.1 ht'))
    rw [List.cons_append, List.nodup_cons, List.mem_append, not_or, List.nodup_append]
    refine ⟨⟨hi, hi'⟩, nodup, ?_, apart⟩
    cases thing <;> simp
  · intro t ht hinst
    rw [List.cons_append, List.mem_cons, List.mem_append] at ht
    rcases ht with rfl | ht | ht
    · rw [← List.append_assoc, List.getLast?_append, List.getLast?_singleton, Option.some_or]
    · exact absurd hinst (hthings t ht).1
    · exact absurd ((hthing t (Option.mem_toList.1 ht)).symm.trans hinst) hrole

theorem takesBack_failsInstance (h : FailsInstance e e') : L.TakesBack e e' := by
  have nothing {e e'} (h : L.Enters [] [] e e') : L.TakesBack e e' :=
    ⟨_, [], [], h, .refl _, .refl _, .nil, by simp⟩
  cases h with
  | asking h => exact nothing (enters_asked h)
  | creating asked failed => exact nothing ((enters_asked asked).trans (L.createInstance_error failed))
  | registering asked created again failed undone =>
    subst undone
    exact takesBack_of_withdraws []
      (((enters_asked asked).trans (L.createInstance_ok created)).trans (enters_asked again))
      (L.registerCallbacks_error failed) (L.destroyInstance _ _) (by simp) (by simp) .nil

/-- **All-or-nothing**, for every driver with a ledger. -/
theorem allOrNothing_create (L : Ledger d) (config : Config) (selection : Selection)
    (e : Env d.State) : L.AllOrNothing config e (Manager.create d config selection e) := by
  cases h : Manager.create d config selection e with
  | ok m e' =>
    obtain ⟨inst, x, e₁, hinst, hx, consists⟩ := Manager.create_ok h
    refine ⟨inst.inst, x.device, consists.inst, consists.device, ?_, ?_⟩
    · rw [consists.callbacks, hinst.callbacks]
    · rw [consists.callbacks]
      exact (enters_makesInstance hinst).trans (enters_makesDevice hx)
  | error error e' =>
    rcases Manager.create_error h with h | ⟨inst, e₁, e₂, hinst, hx, rfl⟩
    · exact takesBack_failsInstance h
    · refine takesBack_of_withdraws _ (enters_makesInstance hinst) (withdraws_failsDevice hx)
        (enters_destroyInstance inst e₂) (by simp) ?_ ?_
      · intro t ht
        rcases hc : inst.callbacks with _ | c <;> rw [hc] at ht
        · simp at ht
        · simp [L.role_callbacks c t ht]
      · rcases inst.callbacks with _ | c
        · exact .nil
        · exact L.nodup_callbacks c

end Ledger

/-! ## The ledger of a recorded driver -/

namespace Trace

/-- A thing, by the number that it got. -/
inductive Thing
  | inst (id : Nat)
  | callbacks (id : Nat)
  | device (id : Nat)
  | object (kind : Kind) (id : Nat)
  deriving DecidableEq

/-- What a thing is for. -/
def Thing.role : Thing → Role
  | .inst _ => .inst
  | .callbacks _ => .callbacks
  | .device _ => .device
  | .object .. => .object

/-- What a call makes if it succeeds; `id` is the number of what it makes. -/
def Request.made? (id : Nat) : Request → Option Thing
  | .createInstance _ => some (.inst id)
  | .registerCallbacks _ => some (.callbacks id)
  | .createDevice .. => some (.device id)
  | .create _ what => some (.object what.kind id)
  | _ => none

/-- What a call ends. That a device is released does not end it. -/
def Request.ended? : Request → Option Thing
  | .destroyInstance inst => some (.inst inst)
  | .unregisterCallbacks _ callbacks => some (.callbacks callbacks)
  | .destroyDevice device => some (.device device)
  | .destroy _ kind object => some (.object kind object)
  | _ => none

/-- How recorded calls are read. -/
def reading : Reading Event Thing where
  made? id event := if event.succeeded then event.request.made? id else none
  ends event := event.request.ended?.toList

theorem Request.made?_of_isQuestion {request : Request} (h : request.isQuestion) (id : Nat) :
    request.made? id = none := by
  cases request <;> simp_all [isQuestion, made?]

theorem Request.ended?_of_isQuestion {request : Request} (h : request.isQuestion) :
    request.ended? = none := by
  cases request <;> simp_all [isQuestion, ended?]

end Trace

namespace Recorder

open Trace

variable {d : Driver} {α : Type} {request : Request} {call : Act d.State α}
  {e e' : Env (Recorder d)}

theorem enters_note (request : Request) (inner : Env d.State) (e : Env (Recorder d)) :
    reading.Enters (request.made? e.driver.trace.length).toList request.ended?.toList
      e.driver.trace (note request true inner e).driver.trace :=
  Reading.Enters.of_append (r := reading) ⟨request, true⟩ _

theorem enters_note_failed (h : request.ended? = none) (inner : Env d.State)
    (e : Env (Recorder d)) :
    reading.Enters [] [] e.driver.trace (note request false inner e).driver.trace := by
  have one := Reading.Enters.of_append (r := reading) ⟨request, false⟩ e.driver.trace
  simpa [reading, h] using one

theorem enters_question (h : request.isQuestion) (succeeded : Bool) (inner : Env d.State)
    (e : Env (Recorder d)) :
    reading.Enters [] [] e.driver.trace (note request succeeded inner e).driver.trace := by
  cases succeeded with
  | true =>
    have one := enters_note request inner e
    rwa [Request.made?_of_isQuestion h, Request.ended?_of_isQuestion h] at one
  | false => exact enters_note_failed (Request.ended?_of_isQuestion h) inner e

theorem enters_asks {I : d.recorded.Instance → Prop} {D : d.recorded.Device → Prop}
    {e e' : Env d.recorded.State} (h : d.recorded.Asks I D e e') :
    reading.Enters [] [] e.driver.trace e'.driver.trace := by
  have ask {α : Type} {request : Request} (call : Act d.State α) (h : request.isQuestion) :
      reading.Enters [] [] e.driver.trace ((Recorder.ask request call).after e).driver.trace := by
    obtain ⟨succeeded, h'⟩ := after_ask request call e
    rw [h']
    exact enters_question h _ _ _
  cases h with
  | log => exact .refl _
  | instanceExtensions | instanceLayers | adapters | deviceExtensions => exact ask _ rfl
  | properties | queueFamilies | queue => exact enters_question rfl _ _ _

theorem enters_make_ok {x : Numbered α} (h : make request call e = .ok x e') :
    reading.Enters (request.made? x.id).toList request.ended?.toList e.driver.trace
      e'.driver.trace := by
  obtain ⟨hid, inner, _, rfl⟩ := make_eq_ok.1 h
  rw [hid]
  exact enters_note request inner e

theorem enters_make_error {error : Error} (hr : request.ended? = none)
    (h : make request call e = .error error e') :
    reading.Enters [] [] e.driver.trace e'.driver.trace := by
  obtain ⟨inner, _, rfl⟩ := make_eq_error.1 h
  exact enters_note_failed hr inner e

end Recorder

open Trace Recorder in
/-- The ledger of a recorded driver. -/
def Driver.ledger (d : Driver) : Ledger d.recorded where
  Event := Event
  Thing := Thing
  role := Thing.role
  reading := reading
  trace r := r.trace
  inst i := .inst i.id
  callbacks c := [.callbacks c.id]
  device x := .device x.id
  role_inst _ := rfl
  role_callbacks _ := by simp [Thing.role]
  nodup_callbacks _ := by simp
  role_device _ := rfl
  asks h := enters_asks h
  createInstance_ok h := enters_make_ok h
  createInstance_error h := enters_make_error rfl h
  registerCallbacks_ok h := enters_make_ok h
  registerCallbacks_error h := ⟨none, _, by simp, enters_make_error rfl h, .refl _⟩
  unregisterCallbacks _ _ e := enters_note _ _ e
  destroyInstance _ e := enters_note _ _ e
  createDevice_ok h := by
    obtain ⟨x, e₁, h₁, h⟩ := Attempt.bind_eq_ok.1 h
    cases h
    exact enters_make_ok h₁
  createDevice_error h := by
    rcases Attempt.bind_eq_error.1 h with h₁ | ⟨x, e₁, _, h⟩
    · exact ⟨none, _, by simp, enters_make_error rfl h₁, .refl _⟩
    · cases h

end GpuCompute
