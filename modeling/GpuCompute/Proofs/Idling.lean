import GpuCompute.Proofs.Lifetimes
import GpuCompute.Proofs.Moves

/-!
# Idle calls

Questions, calls about instances and callbacks, and calls that fail are idle: they neither make an
object or a device nor end one. A call of a session after which only the environment is different
is a number of idle calls (`Session.idled_turn`), and so is the making of a manager, apart from its
device (`Manager.idled_creates`). Between idle calls and also when devices come and go, no device that
was handed out comes to life again (`Driver.Lifetimes.Ages`).
-/

namespace GpuCompute.Driver

/-- An idle call. -/
inductive Idles (d : Driver) : Env d.State → Env d.State → Prop
  | asks {I : d.Instance → Prop} {D : d.Device → Prop} {e e' : Env d.State}
    (h : d.Asks I D e e') : Idles d e e'
  | createInstance (what : InstanceDescriptor) (e : Env d.State) :
    Idles d e ((d.createInstance what).after e)
  | registerCallbacks (i : d.Instance) (e : Env d.State) :
    Idles d e ((d.registerCallbacks i).after e)
  | unregisterCallbacks (i : d.Instance) (c : d.Callbacks) (e : Env d.State) :
    Idles d e (d.unregisterCallbacks i c e)
  | destroyInstance (i : d.Instance) (e : Env d.State) : Idles d e (d.destroyInstance i e)
  | refusesDevice {i : d.Instance} {a : AdapterHandle} {what : DeviceDescriptor}
    {error : Error} {e e' : Env d.State} (h : d.createDevice i a what e = .error error e') :
    Idles d e e'
  | refuses {x : d.Device} {order : Order d} {error : Error} {e e' : Env d.State}
    (h : d.make x order e = .error error e') : Idles d e e'

/-- Any number of idle calls. -/
def Idled (d : Driver) : Env d.State → Env d.State → Prop := Relation.ReflTransGen d.Idles

variable {d : Driver} {e e' e'' : Env d.State}

theorem Idles.passes (h : d.Idles e e') : d.Passes e e' := by
  cases h with
  | asks h => exact .asks h
  | createInstance what => exact .createInstance what e
  | registerCallbacks i => exact .registerCallbacks i e
  | unregisterCallbacks i c => exact .unregisterCallbacks i c e
  | destroyInstance i => exact .destroyInstance i e
  | refusesDevice h => exact .refusesDevice h
  | @refuses x order error _ _ h => exact Attempt.after_of_error h ▸ .make x order e

namespace Idled

theorem of_idles (h : d.Idles e e') : d.Idled e e' := .single h

theorem trans (h : d.Idled e e') (h' : d.Idled e' e'') : d.Idled e e'' :=
  Relation.ReflTransGen.trans h h'

theorem of_ok {α : Type} {act : Act d.State α} {a : α} (h : d.Idles e (act.after e))
    (hact : act e = .ok a e') : d.Idled e e' := .of_idles (Attempt.after_of_ok hact ▸ h)

theorem of_error {α : Type} {act : Act d.State α} {error : Error} (h : d.Idles e (act.after e))
    (hact : act e = .error error e') : d.Idled e e' := .of_idles (Attempt.after_of_error hact ▸ h)

theorem of_asked {I : d.Instance → Prop} {D : d.Device → Prop} (h : d.Asked I D e e') :
    d.Idled e e' :=
  h.induct (P := fun e' => d.Idled e e') (fun _ _ h ih => ih.trans (.of_idles (.asks h))) .refl

theorem write (r : Log.Record) (e : Env d.State) : d.Idled e (e.write r) :=
  of_asked (I := nothing) (D := nothing) (.write r e)

/-- What each idle call preserves is preserved by any number of them. -/
theorem induct {P : Env d.State → Prop} (h : d.Idled e e')
    (step : ∀ e e', d.Idles e e' → P e → P e') (start : P e) : P e' := by
  induction h with
  | refl => exact start
  | tail _ h ih => exact step _ _ h ih

end Idled

end GpuCompute.Driver

namespace GpuCompute

open Driver Bootstrap

variable {d : Driver} {config : Config} {e e' : Env d.State}

/-! ## Making managers -/

namespace Bootstrap

theorem idled_makesInstance {parts : InstanceParts d} (h : MakesInstance config parts e e') :
    d.Idled e e' := by
  obtain ⟨⟨what, e₁, e₂, e₃, asked, created, again, registers⟩, -⟩ := h
  have made : d.Idled e e₃ := ((Idled.of_asked asked).trans
    (.of_ok (.createInstance what e₁) created)).trans (.of_asked again)
  generalize parts.callbacks = callbacks at registers
  cases registers with
  | none => exact made
  | some h => exact made.trans (.of_ok (.registerCallbacks _ _) h)

theorem idled_failsInstance (h : FailsInstance e e') : d.Idled e e' := by
  cases h with
  | asking h => exact .of_asked h
  | creating asked failed => exact (Idled.of_asked asked).trans (.of_error (.createInstance _ _) failed)
  | registering asked created again failed undone =>
    rw [undone]
    exact ((((Idled.of_asked asked).trans (.of_ok (.createInstance _ _) created)).trans
      (.of_asked again)).trans (.of_error (.registerCallbacks _ _) failed)).trans
      (.of_idles (.destroyInstance _ _))

theorem idled_destroyInstance (parts : InstanceParts d) (e : Env d.State) :
    d.Idled e (Bootstrap.destroyInstance d parts e) := by
  rcases parts with ⟨i, _ | c⟩
  · exact .of_idles (.destroyInstance i e)
  · exact (Idled.of_idles (.unregisterCallbacks i c e)).trans (.of_idles (.destroyInstance i _))

theorem idled_failsDevice {i : d.Instance} (h : FailsDevice i e e') : d.Idled e e' := by
  cases h with
  | asking h => exact .of_asked h
  | creating asked failed => exact (Idled.of_asked asked).trans (.of_idles (.refusesDevice failed))

end Bootstrap

namespace Manager

/-- Apart from its device, what is made for a manager is made by idle calls. -/
theorem idled_creates {m : Manager d} (h : m.Creates config e e') :
    ∃ i a what x e₁ e₂, d.Idled e e₁ ∧ d.createDevice i a what e₁ = .ok x e₂ ∧ d.Idled e₂ e' ∧
      m.device = some (.owned x) := by
  obtain ⟨i, x, e₁, hi, ⟨what, e₂, e₃, asked, created, again⟩, consists⟩ := h
  exact ⟨_, _, what, _, e₂, e₃, (idled_makesInstance hi).trans (.of_asked asked), created,
    .of_asked again, consists.device⟩

theorem idled_fails (h : Manager.Fails config e e') : d.Idled e e' := by
  rcases h with h | ⟨i, e₁, e₂, hi, hx, rfl⟩
  · exact idled_failsInstance h
  · exact ((idled_makesInstance hi).trans (idled_failsDevice hx)).trans (idled_destroyInstance i e₂)

theorem idled_closeInstance (o : Ownership d.Instance) (c : Option d.Callbacks) (e : Env d.State) :
    d.Idled e (closeInstance o c e) := by
  have last (e : Env d.State) : d.Idled e (closeInstance o none e) := by
    cases o with
    | owned i => exact (Idled.of_idles (.destroyInstance i _)).trans (.write _ _)
    | borrowed i => exact .write _ _
  cases c with
  | none => exact last e
  | some c =>
    exact ((Idled.of_idles (.unregisterCallbacks o.handle c e)).trans (.write _ _)).trans (last _)

end Manager

/-! ## Turns -/

theorem Session.idled_turn {P : Permit d} {s : Session d} (h : Turn P s e) :
    d.Idled s.pool.env e := by
  cases h with
  | asks h => exact .of_asked h
  | fails h => exact Manager.idled_fails h
  | refuses _ _ _ asked failed => exact (Idled.of_asked asked).trans (.of_idles (.refuses failed))
  | refusesInstance _ failed => exact .of_error (.createInstance _ _) failed
  | refusesDevice _ _ failed => exact .of_idles (.refusesDevice failed)

/-! ## Devices -/

namespace Driver.Lifetimes

/-- The devices that were handed out stay known, and none of them comes to life again. -/
structure Ages (life : d.Lifetimes) (e e' : Env d.State) : Prop where
  sound : life.Sound e.driver → life.Sound e'.driver
  known : ∀ {x}, life.Sound e.driver → life.Known x e.driver → life.Known x e'.driver
  dead : ∀ {x}, life.Sound e.driver → life.Known x e.driver → d.isAlive x e'.driver = true →
    d.isAlive x e.driver = true

variable {life : d.Lifetimes} {e'' : Env d.State} {x : d.Device}

namespace Ages

theorem of_eq (h : e'.driver = e.driver) : life.Ages e e' :=
  ⟨fun sound => h ▸ sound, fun _ known => h ▸ known, fun _ _ alive => h ▸ alive⟩

theorem trans (h : life.Ages e e') (h' : life.Ages e' e'') : life.Ages e e'' :=
  ⟨fun sound => h'.sound (h.sound sound),
    fun sound known => h'.known (h.sound sound) (h.known sound known),
    fun sound known alive => h.dead sound known (h'.dead (h.sound sound) (h.known sound known) alive)⟩

theorem of_passes (h : d.Passes e e') : life.Ages e e' :=
  ⟨fun sound => (life.passes h sound).1, fun sound known => ((life.passes h sound).2 _ known).1,
    fun sound known alive => ((life.passes h sound).2 _ known).2.symm.trans alive⟩

theorem of_idled (h : d.Idled e e') : life.Ages e e' :=
  h.induct (P := fun e' => life.Ages e e') (fun _ _ h ih => ih.trans (.of_passes h.passes)) (.of_eq rfl)

theorem of_created {i : d.Instance} {adapter : AdapterHandle} {what : DeviceDescriptor}
    (h : d.createDevice i adapter what e = .ok x e') : life.Ages e e' :=
  ⟨fun sound => (life.created h sound).1,
    fun sound known => ((life.created h sound).2.2.2.2 _ known).1,
    fun sound known alive => ((life.created h sound).2.2.2.2 _ known).2.symm.trans alive⟩

theorem of_creates {m : Manager d} (h : m.Creates config e e') : life.Ages e e' ∧
    (life.Sound e.driver → ∃ x, m.device = some (.owned x) ∧ life.Known x e'.driver) := by
  obtain ⟨i, adapter, what, x, e₁, e₂, first, created, rest, device⟩ := Manager.idled_creates h
  have first : life.Ages e e₁ := of_idled first
  have made : life.Ages e₁ e₂ := of_created created
  have rest : life.Ages e₂ e' := of_idled rest
  refine ⟨(first.trans made).trans rest, fun sound => ⟨x, device, ?_⟩⟩
  obtain ⟨sound₂, -, known, -⟩ := life.created created (first.sound sound)
  exact rest.known sound₂ known

/-- A device that ends is dead, and other devices are as alive as before. -/
theorem of_ends (h : d.Ends x e e') (sound : life.Sound e.driver) (known : life.Known x e.driver) :
    life.Ages e e' ∧ d.isAlive x e'.driver = false := by
  obtain ⟨sound', gone, others⟩ := life.ended h sound known
  refine ⟨⟨fun _ => sound', fun _ known => (others _ known).1, fun {y} _ hy alive => ?_⟩, gone⟩
  by_cases hxy : y = x
  · rw [hxy, gone] at alive
    cases alive
  · exact ((others y hy).2 hxy).symm.trans alive

theorem eq_false (h : life.Ages e e') (sound : life.Sound e.driver) (known : life.Known x e.driver)
    (gone : d.isAlive x e.driver = false) : d.isAlive x e'.driver = false := by
  refine Bool.eq_false_iff.2 fun alive => ?_
  rw [h.dead sound known alive] at gone
  cases gone

/-- The device of a manager that is torn down is dead. -/
theorem of_shut {o : Ownership d.Device} (m : Manager d) (sound : life.Sound e.driver)
    (known : life.Known o.handle e.driver) :
    life.Ages e (m.shut o e) ∧ d.isAlive o.handle (m.shut o e).driver = false := by
  obtain ⟨released, gone⟩ := of_ends (.release e) sound known
  have closed : life.Ages e (Manager.closeDevice o e) ∧
      d.isAlive o.handle (Manager.closeDevice o e).driver = false := by
    cases o with
    | owned x =>
      have known₁ := released.known sound known
      obtain ⟨destroyed, gone⟩ := of_ends (.destroy _) (released.sound sound) known₁
      exact ⟨released.trans (destroyed.trans (of_idled (.write _ _))), gone⟩
    | borrowed x => exact ⟨released.trans (of_idled (.write _ _)), gone⟩
  have rest : d.Idled (Manager.closeDevice o e) (m.shut o e) := by
    unfold Manager.shut
    cases m.inst with
    | none => exact .write _ _
    | some i => exact Manager.idled_closeInstance i m.callbacks _
  have rest : life.Ages _ _ := of_idled rest
  exact ⟨closed.1.trans rest,
    rest.eq_false (closed.1.sound sound) (closed.1.known sound known) closed.2⟩

end Ages

end Driver.Lifetimes

end GpuCompute
