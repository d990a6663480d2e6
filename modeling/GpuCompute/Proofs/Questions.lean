import GpuCompute.Bootstrap
import GpuCompute.Proofs.Attempt
import Mathlib.Logic.Relation

/-!
# Questions

Much of what is done with a driver is asking: what it offers, which adapters there are, what they
can do, and which queues a device has. `d.Asks I D` is one question, or a change of the log, where
`I` and `D` say about which instances and devices may be asked; `d.Asked I D` is any number of them.
Negotiations and the search for queue families do nothing else (`onlyAsks_layers`, `onlyAsks_families`,
`asked_fetchFrom`).
-/

namespace GpuCompute.Driver

variable (d : Driver)

/-- One question, or a change of the log. -/
inductive Asks (I : d.Instance → Prop) (D : d.Device → Prop) : Env d.State → Env d.State → Prop
  | log (e : Env d.State) (l : List Log.Record) : Asks I D e { e with log := l }
  | instanceExtensions (e : Env d.State) : Asks I D e (d.instanceExtensions.after e)
  | instanceLayers (e : Env d.State) : Asks I D e (d.instanceLayers.after e)
  | adapters (e : Env d.State) {i : d.Instance} (h : I i) : Asks I D e ((d.adapters i).after e)
  | properties (e : Env d.State) {i : d.Instance} (h : I i) (a : AdapterHandle) :
    Asks I D e (d.properties i a e).2
  | queueFamilies (e : Env d.State) {i : d.Instance} (h : I i) (a : AdapterHandle) :
    Asks I D e (d.queueFamilies i a e).2
  | deviceExtensions (e : Env d.State) {i : d.Instance} (h : I i) (a : AdapterHandle) :
    Asks I D e ((d.deviceExtensions i a).after e)
  | queue (e : Env d.State) {x : d.Device} (h : D x) (family index : UInt32) :
    Asks I D e (d.queue x family index e).2

/-- Any number of questions. -/
def Asked (I : d.Instance → Prop) (D : d.Device → Prop) : Env d.State → Env d.State → Prop :=
  Relation.ReflTransGen (d.Asks I D)

/-- Nothing is asked about. -/
def nothing {α : Type} (_ : α) : Prop := False

/-- One thing is asked about. -/
def only {α : Type} (a b : α) : Prop := b = a

theorem only_self {α : Type} (a : α) : only a a := rfl

variable {d} {I I' : d.Instance → Prop} {D D' : d.Device → Prop} {e e' e'' : Env d.State}

theorem Asks.mono (h : d.Asks I D e e') (hI : ∀ i, I i → I' i) (hD : ∀ x, D x → D' x) :
    d.Asks I' D' e e' := by
  cases h with
  | log => exact .log _ _
  | instanceExtensions => exact .instanceExtensions _
  | instanceLayers => exact .instanceLayers _
  | adapters h => exact .adapters _ (hI _ h)
  | properties h => exact .properties _ (hI _ h) _
  | queueFamilies h => exact .queueFamilies _ (hI _ h) _
  | deviceExtensions h => exact .deviceExtensions _ (hI _ h) _
  | queue h => exact .queue _ (hD _ h) _ _

namespace Asked

theorem refl (e : Env d.State) : d.Asked I D e e := Relation.ReflTransGen.refl

theorem trans (h : d.Asked I D e e') (h' : d.Asked I D e' e'') : d.Asked I D e e'' :=
  Relation.ReflTransGen.trans h h'

theorem of_asks (h : d.Asks I D e e') : d.Asked I D e e' := .single h

theorem mono (h : d.Asked I D e e') (hI : ∀ i, I i → I' i) (hD : ∀ x, D x → D' x) :
    d.Asked I' D' e e' :=
  Relation.ReflTransGen.mono (r := d.Asks I D) (fun _ _ h => h.mono hI hD) _ _ h

/-- What each question preserves is preserved by any number of them. -/
theorem induct {P : Env d.State → Prop} (h : d.Asked I D e e')
    (step : ∀ e e', d.Asks I D e e' → P e → P e') (start : P e) : P e' := by
  induction h with
  | refl => exact start
  | tail _ h ih => exact step _ _ h ih

theorem write (r : Log.Record) (e : Env d.State) : d.Asked I D e (e.write r) := of_asks (.log _ _)

end Asked

/-- An action that does nothing but ask. -/
abbrev OnlyAsks {α : Type} (I : d.Instance → Prop) (D : d.Device → Prop) (act : Act d.State α) :
    Prop := Attempt.Leaves (d.Asked I D) act

theorem OnlyAsks.bind {α β : Type} {x : Act d.State α} {f : α → Act d.State β}
    (hx : OnlyAsks I D x) (hf : ∀ a, OnlyAsks I D (f a)) : OnlyAsks I D (x >>= f) :=
  Attempt.Leaves.bind (fun _ _ _ => .trans) hx hf

theorem OnlyAsks.pure {α : Type} (a : α) : OnlyAsks I D (Pure.pure a : Act d.State α) :=
  Attempt.Leaves.pure Asked.refl a

theorem OnlyAsks.throw {α : Type} (error : Error) :
    OnlyAsks I D (MonadExcept.throw error : Act d.State α) :=
  Attempt.Leaves.throw Asked.refl error

theorem OnlyAsks.ofExcept {α : Type} (y : Except Error α) :
    OnlyAsks I D (Attempt.ofExcept y : Act d.State α) :=
  Attempt.Leaves.ofExcept Asked.refl y

theorem OnlyAsks.of_asks {α : Type} {act : Act d.State α}
    (h : ∀ e, d.Asks I D e (act.after e)) : OnlyAsks I D act := fun e => .of_asks (h e)

theorem OnlyAsks.of_look {α : Type} {look : Env d.State → α × Env d.State}
    (h : ∀ e, d.Asks I D e (look e).2) : OnlyAsks I D (Attempt.ofState look) := fun e => .of_asks (h e)

theorem onlyAsks_write (r : Log.Record) : OnlyAsks I D (Act.write r : Act d.State Unit) :=
  Attempt.Leaves.change fun e => .write r e

theorem onlyAsks_negotiation (kind : CapabilityKind) (requested available : List String) :
    OnlyAsks I D (Negotiation.run kind requested available : Act d.State (List String)) :=
  (onlyAsks_write _).bind fun _ => (onlyAsks_write _).bind fun _ => .ofExcept _

/-! ## Searching and fetching -/

open Bootstrap in
theorem onlyAsks_layers (config : Config) (kind : CapabilityKind) (announcement : String)
    (wanted : List String) : OnlyAsks I D (layers d config kind announcement wanted) := by
  unfold layers
  split
  · exact (onlyAsks_write _).bind fun _ =>
      (OnlyAsks.of_asks .instanceLayers).bind fun _ => onlyAsks_negotiation _ _ _
  · exact .pure _

open Bootstrap in
theorem onlyAsks_families {i : d.Instance} (hi : I i) (a : AdapterHandle) (name : String)
    (selection : Selection) : OnlyAsks I D (families d i a name selection) := by
  unfold families
  split
  · refine (OnlyAsks.of_asks fun e => .queueFamilies e hi a).bind fun found => ?_
    split
    · exact .pure _
    · exact .throw _
  · exact .pure _

open Bootstrap in
theorem asked_fetchFrom {x : d.Device} (hx : D x) (counters : Queue.Counters)
    (families : List UInt32) (e : Env d.State) :
    d.Asked I D e (fetchFrom d x counters families e).2 := by
  induction families generalizing counters e with
  | nil => exact .refl e
  | cons family rest ih =>
    exact (Asked.of_asks (.queue e hx family (counters.draw family).1)).trans (ih _ _)

end GpuCompute.Driver
