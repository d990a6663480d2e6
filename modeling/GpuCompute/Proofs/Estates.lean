import GpuCompute.Proofs.Driving
import GpuCompute.Proofs.Ledger
import GpuCompute.Proofs.Managers
import GpuCompute.Proofs.Sanity

/-!
# Estates

Instances, callbacks and devices are the handles of a ledger. The handles that a manager owns are its
estate: they are made when the manager is (`Ledger.yields_create`), and when it is torn down or dropped
exactly these are ended (`Ledger.deals_destroy`, `Ledger.deals_drop`). Resources have nothing to do with
handles. For this a ledger has to be complete (`Ledger.Complete`).
-/

namespace GpuCompute

variable {d : Driver}

namespace Ledger

variable (L : Ledger d) {born born' gone gone' : List L.Thing} {e e' e'' : Env d.State}

/-! ## Handles -/

/-- Whether a thing is an instance, a device, or belongs to callbacks. -/
def isHandle (t : L.Thing) : Bool := L.role t ≠ .object

/-- The handles that were made between two environments, in order. -/
def made (e e' : Env d.State) : List L.Thing :=
  (L.reading.made (L.trace e.driver).length
    ((L.trace e'.driver).drop (L.trace e.driver).length)).filter L.isHandle

/-- The handles that were ended between two environments, in order. -/
def ended (e e' : Env d.State) : List L.Thing :=
  (L.reading.ended ((L.trace e'.driver).drop (L.trace e.driver).length)).filter L.isHandle

/-- Between two environments the handles `born` were made and the handles `gone` were ended. -/
structure Deals (born gone : List L.Thing) (e e' : Env d.State) : Prop where
  grows : L.trace e.driver <+: L.trace e'.driver
  made : L.made e e' = born
  ended : L.ended e e' = gone

variable {L}

theorem isHandle_eq {t : L.Thing} : L.isHandle t = true ↔ L.role t ≠ .object := decide_eq_true_iff

theorem made_of_trace {events : List L.Event} (h : L.trace e'.driver = L.trace e.driver ++ events) :
    L.made e e' = (L.reading.made (L.trace e.driver).length events).filter L.isHandle := by
  rw [made, h, List.drop_left]

theorem ended_of_trace {events : List L.Event} (h : L.trace e'.driver = L.trace e.driver ++ events) :
    L.ended e e' = (L.reading.ended events).filter L.isHandle := by
  rw [ended, h, List.drop_left]

theorem Enters.deals (h : L.Enters born gone e e') :
    L.Deals (born.filter L.isHandle) (gone.filter L.isHandle) e e' := by
  obtain ⟨events, trace, rfl, rfl⟩ := h
  exact ⟨trace ▸ List.prefix_append _ _, made_of_trace trace, ended_of_trace trace⟩

/-- What is entered of handles only. -/
theorem deals_of_enters (h : L.Enters born gone e e') (hborn : ∀ t ∈ born, L.role t ≠ .object)
    (hgone : ∀ t ∈ gone, L.role t ≠ .object) : L.Deals born gone e e' := by
  have deals := Enters.deals h
  rwa [List.filter_eq_self.2 fun t ht => isHandle_eq.2 (hborn t ht),
    List.filter_eq_self.2 fun t ht => isHandle_eq.2 (hgone t ht)] at deals

/-- What is entered of objects only. -/
theorem deals_of_objects (h : L.Enters born gone e e') (hborn : ∀ t ∈ born, L.role t = .object)
    (hgone : ∀ t ∈ gone, L.role t = .object) : L.Deals [] [] e e' := by
  have deals := Enters.deals h
  rwa [List.filter_eq_nil_iff.2 fun t ht => by simp [isHandle_eq, hborn t ht],
    List.filter_eq_nil_iff.2 fun t ht => by simp [isHandle_eq, hgone t ht]] at deals

namespace Deals

theorem of_trace (h : L.trace e'.driver = L.trace e.driver) : L.Deals [] [] e e' := by
  have enters : L.Enters [] [] e e' := ⟨[], by simp [h]⟩
  exact deals_of_enters enters nofun nofun

theorem of_driver (h : e'.driver = e.driver) : L.Deals [] [] e e' := of_trace (congrArg L.trace h)

theorem trans (h : L.Deals born gone e e') (h' : L.Deals born' gone' e' e'') :
    L.Deals (born ++ born') (gone ++ gone') e e'' := by
  obtain ⟨⟨events, trace⟩, rfl, rfl⟩ := h
  obtain ⟨⟨events', trace'⟩, rfl, rfl⟩ := h'
  have whole : L.trace e''.driver = L.trace e.driver ++ (events ++ events') := by
    rw [← trace', ← trace, List.append_assoc]
  refine ⟨⟨_, whole.symm⟩, ?_, ?_⟩
  · rw [made_of_trace whole, made_of_trace trace.symm, made_of_trace trace'.symm,
      Reading.made_append, List.filter_append, ← trace, List.length_append]
  · rw [ended_of_trace whole, ended_of_trace trace.symm, ended_of_trace trace'.symm,
      Reading.ended_append, List.filter_append]

/-- What has nothing to do with handles may follow, or come first. -/
theorem then_ (h : L.Deals born gone e e') (h' : L.Deals [] [] e' e'') : L.Deals born gone e e'' := by
  simpa using h.trans h'

theorem after_ (h : L.Deals [] [] e e') (h' : L.Deals born gone e' e'') : L.Deals born gone e e'' := by
  simpa using h.trans h'

theorem of_asked {I : d.Instance → Prop} {D : d.Device → Prop} (h : d.Asked I D e e') :
    L.Deals [] [] e e' := deals_of_enters (enters_asked h) (by simp) (by simp)

end Deals

/-! ## Complete ledgers -/

/-- A ledger that has it all: what is made for resources are objects, a device ends when it is destroyed
and not when it is released, and everything has a number of its own. -/
structure Complete (L : Ledger d) where
  make : ∀ x order, Attempt.Leaves (L.Deals [] []) (d.make x order)
  unmake : ∀ x object e, L.Deals [] [] e (d.unmake x object e)
  releaseDevice : ∀ x e, L.Deals [] [] e (d.releaseDevice x e)
  destroyDevice : ∀ x e, L.Deals [] [L.device x] e (d.destroyDevice x e)
  number : L.Thing → Nat
  /-- The number of the next thing. -/
  next : d.State → Nat
  calls : ∀ {e e'}, d.Calls e e' → L.reading.Issues number (next e.driver) (next e'.driver)
    (L.trace e.driver) (L.trace e'.driver)

/-- Between two environments things were given numbers. -/
def Complete.Issues (C : L.Complete) (e e' : Env d.State) : Prop :=
  L.reading.Issues C.number (C.next e.driver) (C.next e'.driver) (L.trace e.driver) (L.trace e'.driver)

section

variable {C : L.Complete}

theorem Complete.issues (h : d.Drives e e') : C.Issues e e' :=
  h.induct (P := C.Issues e) (fun _ _ h ih => ih.trans (C.calls h)) (.refl _ _)

theorem Complete.Issues.nodup_made (h : C.Issues e e') : (L.made e e').Nodup ∧
    ∀ t ∈ L.made e e', C.next e.driver ≤ C.number t ∧ C.number t < C.next e'.driver := by
  obtain ⟨-, events, trace, nodup, range⟩ := h
  rw [Ledger.made, trace, List.drop_left]
  exact ⟨nodup.filter _, fun t ht => range t (List.mem_filter.1 ht).1⟩

end

/-! ## Resources -/

section

variable (C : L.Complete) {p q : Pool d}
include C

theorem deals_destroys (h : p.Destroys q) : L.Deals [] [] p.env q.env := by
  induction h with
  | refl => exact .of_driver rfl
  | @tail p q _ h ih =>
    refine ih.then_ ?_
    obtain ⟨r, rfl⟩ | ⟨record, rfl⟩ := h
    · obtain ⟨same, -⟩ | ⟨slot, x, -, -, -, same⟩ := Pool.driver_destroy r p
      · exact .of_driver same
      · exact (C.unmake slot.device x p.env).then_ (.of_driver same)
    · exact .of_driver rfl

theorem deals_makes {x : d.Device} {order : Order d} {r : ResourceId} (h : p.Makes x order r q) :
    L.Deals [] [] p.env q.env := by
  obtain ⟨e₁, object, e₂, asked, made, again, -⟩ := h
  exact ((Deals.of_asked asked).then_ ((C.make x order).of_ok made)).then_ (.of_asked again)

theorem deals_refuses {x : d.Device} {order : Order d} (h : p.Refuses x order q) :
    L.Deals [] [] p.env q.env := by
  cases h with
  | asking asked => exact .of_asked asked
  | making asked failed => exact (Deals.of_asked asked).then_ ((C.make x order).of_error failed)

end

/-! ## What managers own -/

/-- The thing that is owned, if it is. -/
def belonging {η τ : Type} (thing : η → τ) : Ownership η → List τ
  | .owned h => [thing h]
  | .borrowed _ => []

variable (L) {m m' : Manager d} {config : Config}

/-- What a manager owns: its device, its callbacks and its instance. -/
def estate (m : Manager d) : List L.Thing :=
  m.device.elim [] (belonging L.device) ++ m.callbacks.elim [] L.callbacks ++
    m.inst.elim [] (belonging L.inst)

variable {L}

theorem estate_like (h : m.Like m') : L.estate m' = L.estate m := by
  rw [estate, h.device, h.callbacks, h.inst, estate]

theorem estate_of_bare (h : m.Bare) : L.estate m = [] := by
  rw [estate, h.device, h.callbacks, h.inst]
  rfl

theorem estate_of_borrows {i : d.Instance} {x : d.Device} (h : m.Borrows config i x e e') :
    L.estate m = [] := by
  rw [estate, h.device, h.callbacks, h.inst]
  rfl

/-- A manager that borrows owns nothing. -/
theorem estate_of_borrower (orderly : m.Orderly) (paired : m.Paired) (h : m.Borrower) :
    L.estate m = [] := by
  cases hx : m.device with
  | none => exact estate_of_bare (orderly.bare hx)
  | some x =>
    obtain ⟨i, hi⟩ := Option.isSome_iff_exists.1 (orderly.inst (hx ▸ rfl))
    have alike := paired.alike i x hi hx
    have borrowed : i.isOwned = false := by
      obtain ⟨i', hi'⟩ | ⟨x', hx'⟩ := h
      · cases hi.symm.trans hi'
        rfl
      · cases hx.symm.trans hx'
        exact alike
    have callbacks := paired.callbacks i hi borrowed
    rw [borrowed] at alike
    rw [estate, hx, hi, callbacks]
    cases i with
    | owned => cases borrowed
    | borrowed => cases x with
      | owned => cases alike
      | borrowed => rfl

/-- What an attempt to make a manager makes is what the manager owns, and nothing is ended; or what it
makes is ended again. -/
structure Yields (L : Ledger d) (make : Act d.State (Manager d)) : Prop where
  ok : ∀ {e m e'}, make e = .ok m e' → L.Deals (L.made e e') [] e e' ∧ (L.made e e').Perm (L.estate m)
  error : ∀ {e error e'}, make e = .error error e' → ∃ born gone, L.Deals born gone e e' ∧ gone.Perm born

theorem yields_create (config : Config) (selection : Selection) :
    L.Yields (Manager.create d config selection) where
  ok {e m e'} h := by
    obtain ⟨i, x, inst, device, -, enters⟩ := h ▸ L.allOrNothing_create config selection e
    have handles : ∀ t ∈ L.inst i :: m.callbacks.elim [] L.callbacks ++ [L.device x],
        L.role t ≠ .object := by
      intro t ht
      rw [List.cons_append, List.mem_cons, List.mem_append, List.mem_singleton] at ht
      rcases ht with rfl | ht | rfl
      · simp [L.role_inst]
      · cases hc : m.callbacks with
        | none => simp [hc] at ht
        | some c =>
          rw [hc] at ht
          simp [L.role_callbacks c t ht]
      · simp [L.role_device]
    have deals := deals_of_enters enters handles (by simp)
    rw [deals.made]
    refine ⟨deals, ?_⟩
    rw [estate, inst, device]
    change (L.inst i :: m.callbacks.elim [] L.callbacks ++ [L.device x]).Perm
      (L.device x :: (m.callbacks.elim [] L.callbacks ++ [L.inst i]))
    exact (List.perm_append_singleton _ _).trans
      (.cons _ (List.perm_append_singleton _ _).symm)
  error {e error e'} h := by
    obtain ⟨l, born, gone, made, ended, perm, -⟩ := h ▸ L.allOrNothing_create config selection e
    have deals := Enters.deals (made.trans ended)
    simp only [List.append_nil, List.nil_append] at deals
    exact ⟨_, _, deals, perm.filter _⟩

/-- An attempt to make a manager that makes no handles; the manager owns none. -/
structure Lends (L : Ledger d) (make : Act d.State (Manager d)) : Prop where
  ok : ∀ {e m e'}, make e = .ok m e' → L.Deals [] [] e e' ∧ L.estate m = []
  error : ∀ {e error e'}, make e = .error error e' → L.Deals [] [] e e'

theorem Lends.made_eq_nil {make : Act d.State (Manager d)} (h : L.Lends make) (e : Env d.State) :
    L.made e (make.after e) = [] := by
  cases made : make e with
  | ok m e' => exact Attempt.after_of_ok made ▸ (h.ok made).1.made
  | error error e' => exact Attempt.after_of_error made ▸ (h.error made).made

theorem Lends.to_yields {make : Act d.State (Manager d)} (h : L.Lends make) : L.Yields make where
  ok made := by
    obtain ⟨deals, owns⟩ := h.ok made
    rw [deals.made, owns]
    exact ⟨deals, .nil⟩
  error failed := ⟨[], [], h.error failed, .nil⟩

theorem lends_borrow {i : d.Instance} {adapter : AdapterHandle} {x : d.Device}
    {families : List UInt32} : L.Lends (Manager.borrow config i adapter x families) where
  ok made := by
    have borrows := Manager.borrow_ok made
    exact ⟨.of_asked borrows.asked, estate_of_borrows borrows⟩
  error failed := absurd failed Manager.borrow_ne_error

/-! ## Tearing down -/

theorem deals_closeInstance (inst : Ownership d.Instance) (callbacks : Option d.Callbacks)
    (e : Env d.State) :
    L.Deals [] (callbacks.elim [] L.callbacks ++ belonging L.inst inst) e
      (Manager.closeInstance inst callbacks e) := by
  have last (e : Env d.State) :
      L.Deals [] (belonging L.inst inst) e (Manager.closeInstance inst none e) := by
    cases inst with
    | owned i =>
      have destroyed := deals_of_enters (L.destroyInstance i e) (by simp) (by simp [L.role_inst])
      exact destroyed.then_ (.of_driver rfl)
    | borrowed i => exact .of_driver rfl
  cases callbacks with
  | none => exact last e
  | some c =>
    have unregistered := deals_of_enters (L.unregisterCallbacks inst.handle c e) (by simp)
      fun t ht => by simp [L.role_callbacks c t ht]
    have logged (r : Log.Record) :
        L.Deals [] (L.callbacks c) e ((d.unregisterCallbacks inst.handle c e).write r) :=
      unregistered.then_ (.of_driver rfl)
    exact (logged _).trans (last _)

section

variable (C : L.Complete)
include C

theorem deals_closeDevice (device : Ownership d.Device) (e : Env d.State) :
    L.Deals [] (belonging L.device device) e (Manager.closeDevice device e) := by
  have released := C.releaseDevice device.handle e
  cases device with
  | owned x => exact (released.after_ (C.destroyDevice x _)).then_ (.of_driver rfl)
  | borrowed x => exact released.then_ (.of_driver rfl)

/-- **What a manager owns is ended when it is torn down**, each thing once, and no other handles are. -/
theorem deals_destroy (h : m.Orderly) (p : Pool d) :
    L.Deals [] (L.estate m) p.env (m.destroy p).2.env := by
  cases hd : m.device with
  | none =>
    rw [estate_of_bare (h.bare hd)]
    unfold Manager.destroy
    rw [hd]
    exact .of_driver rfl
  | some device =>
    obtain ⟨inst, hi⟩ := Option.isSome_iff_exists.1 (h.inst (hd ▸ rfl))
    have cleared := deals_destroys C (Session.destroys_cleared m p).1
    rw [(Session.destroy_of_device hd p).2.2, estate, hd, hi, Manager.shut, hi, List.append_assoc]
    exact cleared.after_ ((deals_closeDevice C device _).trans (deals_closeInstance inst m.callbacks _))

theorem deals_drop (h : m.Orderly) (p : Pool d) :
    L.Deals [] (L.estate m) p.env (m.drop p).env := by
  unfold Manager.drop
  split
  · next gone =>
    rw [estate_of_bare (h.bare (Option.isNone_iff_eq_none.1 gone))]
    exact .of_driver rfl
  · exact deals_destroy C h p

end

end Ledger

/-! ## The ledger of a recorded driver -/

namespace Trace

/-- The number of a thing. -/
def Thing.id : Thing → Nat
  | .inst id | .callbacks id | .device id | .object _ id => id

theorem id_of_made {position : Nat} {event : Event} {t : Thing}
    (h : reading.made? position event = some t) : t.id = position := by
  obtain ⟨request, _ | _⟩ := event
  · cases h
  · cases request <;> cases h <;> rfl

end Trace

namespace Recorder

open Trace

variable {e e' : Env d.recorded.State}

theorem prefix_note (request : Request) (succeeded : Bool) (inner : Env d.State)
    (e : Env (Recorder d)) :
    e.driver.trace <+: (note request succeeded inner e).driver.trace := List.prefix_append _ _

theorem prefix_calls (h : d.recorded.Calls e e') : e.driver.trace <+: e'.driver.trace := by
  have made {α : Type} (request : Request) (call : Act d.State α) (e : Env (Recorder d)) :
      e.driver.trace <+: ((make request call).after e).driver.trace := by
    obtain ⟨succeeded, same⟩ := after_make request call e
    rw [same]
    exact prefix_note _ _ _ _
  cases h with
  | passes h => cases h with
    | asks h =>
      obtain ⟨events, trace, -⟩ := enters_asks h
      exact ⟨events, trace.symm⟩
    | createInstance | registerCallbacks => exact made _ _ _
    | unregisterCallbacks | destroyInstance => exact prefix_note _ _ _ _
    | refusesDevice h =>
      obtain h | ⟨x, e₁, -, h⟩ := Attempt.bind_eq_error.1 h
      · exact Attempt.after_of_error h ▸ made _ _ _
      · cases h
    | make x order =>
      cases h : d.recorded.make x order e with
      | ok object e' =>
        obtain ⟨-, -, inner, -, rfl⟩ := make_ok h
        exact Attempt.after_of_ok h ▸ prefix_note _ _ _ _
      | error error e' =>
        obtain ⟨inner, -, rfl⟩ := make_error h
        exact Attempt.after_of_error h ▸ prefix_note _ _ _ _
    | unmake x object =>
      rw [unmake_eq]
      exact prefix_note _ _ _ _
  | creates h =>
    obtain ⟨x, e₁, h₁, h⟩ := Attempt.bind_eq_ok.1 h
    cases h
    obtain ⟨-, inner, -, rfl⟩ := make_eq_ok.1 h₁
    exact prefix_note _ _ inner _
  | ends h => cases h <;> exact prefix_note _ _ _ _

end Recorder

open Trace Recorder Ledger in
/-- The ledger of a recorded driver is complete. -/
def Driver.complete (d : Driver) : d.ledger.Complete where
  make x order := by
    refine .of_cases (fun e object e' h => ?_) (fun e error e' h => ?_)
    · obtain ⟨-, -, inner, -, rfl⟩ := make_ok h
      exact deals_of_objects (enters_note (.create x.id order.creation) inner e)
        (fun t ht => List.mem_singleton.1 ht ▸ rfl) nofun
    · obtain ⟨inner, -, rfl⟩ := make_error h
      exact deals_of_objects (enters_note_failed rfl inner e) nofun nofun
  unmake x object e := by
    have destroyed := enters_note (.destroy x.id object.kind object.id)
      (d.unmake x.handle object.under (under e)) e
    rw [unmake_eq]
    exact deals_of_objects destroyed nofun fun t ht => List.mem_singleton.1 ht ▸ rfl
  releaseDevice x e := by
    have released := enters_note (.releaseDevice x.id) (d.releaseDevice x.handle (under e)) e
    exact deals_of_objects released nofun nofun
  destroyDevice x e := by
    have destroyed := enters_note (.destroyDevice x.id) (d.destroyDevice x.handle (under e)) e
    exact deals_of_enters destroyed nofun fun t ht => List.mem_singleton.1 ht ▸ nofun
  number := Thing.id
  next r := r.trace.length
  calls {e e'} h := by
    obtain ⟨events, trace⟩ := prefix_calls h
    have issues := Reading.Issues.of_positions (r := reading) (fun _ _ _ => id_of_made)
      e.driver.trace events
    rw [trace] at issues
    exact issues

end GpuCompute
