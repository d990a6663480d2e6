import GpuCompute.Driver
import GpuCompute.Proofs.Attempt

/-!
# Transcripts

`d.transcribed` does what the driver `d` does and takes down each call with its answer; handles are
those of `d`. What is decided by an answer, and what is said to the driver because of it, can so be
stated for all drivers at once.

`Says Q act` says of an action that `Q` relates how it ends to what was said meanwhile. What an action
says, it says after everything that was said before: `Says.bind` goes on with what is still to come.
-/

namespace GpuCompute

/-! ## Exchanges -/

/-- A call of a driver with its answer, if it has one. -/
inductive Exchange (d : Driver)
  | instanceExtensions (answer : Except Error (List String))
  | instanceLayers (answer : Except Error (List String))
  | createInstance (what : InstanceDescriptor) (answer : Except Error d.Instance)
  | registerCallbacks (inst : d.Instance) (answer : Except Error d.Callbacks)
  | unregisterCallbacks (inst : d.Instance) (callbacks : d.Callbacks)
  | destroyInstance (inst : d.Instance)
  | adapters (inst : d.Instance) (answer : Except Error (List AdapterHandle))
  | properties (inst : d.Instance) (adapter : AdapterHandle) (answer : DeviceProperties)
  | queueFamilies (inst : d.Instance) (adapter : AdapterHandle) (answer : List QueueFamily)
  | deviceExtensions (inst : d.Instance) (adapter : AdapterHandle)
    (answer : Except Error (List String))
  | createDevice (inst : d.Instance) (adapter : AdapterHandle) (what : DeviceDescriptor)
    (answer : Except Error d.Device)
  | queue (device : d.Device) (family index : UInt32) (answer : Queue.Handle)
  | releaseDevice (device : d.Device)
  | destroyDevice (device : d.Device)
  | createBuffer (device : d.Device) (size : UInt64) (usage : UInt32)
    (answer : Except Error d.Buffer)
  | destroyBuffer (device : d.Device) (buffer : d.Buffer)
  | createPipeline (device : d.Device) (what : PipelineDescriptor d.Buffer)
    (answer : Except Error d.Pipeline)
  | destroyPipeline (device : d.Device) (pipeline : d.Pipeline)
  | createBatch (device : d.Device) (family timestamps : UInt32) (answer : Except Error d.Batch)
  | destroyBatch (device : d.Device) (batch : d.Batch)

namespace Exchange

variable {d : Driver}

/-- Whether the call did not fail. -/
def Succeeded : Exchange d → Prop
  | instanceExtensions (.error _) | instanceLayers (.error _) | createInstance _ (.error _)
  | registerCallbacks _ (.error _) | adapters _ (.error _) | deviceExtensions _ _ (.error _)
  | createDevice _ _ _ (.error _) | createBuffer _ _ _ (.error _) | createPipeline _ _ (.error _)
  | createBatch _ _ _ (.error _) => False
  | _ => True

/-- Whether the call only asks. -/
def IsQuestion : Exchange d → Prop
  | instanceExtensions .. | instanceLayers .. | adapters .. | properties .. | queueFamilies ..
  | deviceExtensions .. | queue .. => True
  | _ => False

end Exchange

/-- The calls of a driver with their answers, the oldest first. -/
abbrev Transcript (d : Driver) : Type := List (Exchange d)

/-! ## The transcribed driver -/

/-- What a transcribed driver keeps. -/
structure Scribe (d : Driver) where
  inner : d.State
  transcript : Transcript d := []

namespace Scribe

variable {d : Driver} {α : Type}

/-- The environment of the driver itself. -/
def under (e : Env (Scribe d)) : Env d.State := ⟨e.driver.inner, e.log⟩

/-- Takes a call down; `inner` is the environment it left. -/
def note (x : Exchange d) (inner : Env d.State) (e : Env (Scribe d)) : Env (Scribe d) where
  driver := ⟨inner.driver, e.driver.transcript ++ [x]⟩
  log := inner.log

/-- A call without an answer. -/
def tell (x : Exchange d) (call : Env d.State → Env d.State) (e : Env (Scribe d)) :
    Env (Scribe d) := note x (call (under e)) e

/-- A call that has an answer and cannot fail. -/
def look (x : α → Exchange d) (call : Env d.State → α × Env d.State) (e : Env (Scribe d)) :
    α × Env (Scribe d) :=
  ((call (under e)).1, note (x (call (under e)).1) (call (under e)).2 e)

/-- A call that may fail. -/
def ask (x : Except Error α → Exchange d) (call : Act d.State α) : Act (Scribe d) α := fun e =>
  match call (under e) with
  | .ok a inner => .ok a (note (x (.ok a)) inner e)
  | .error error inner => .error error (note (x (.error error)) inner e)

end Scribe

open Scribe in
/-- A driver with a transcript of its calls. -/
abbrev Driver.transcribed (d : Driver) : Driver where
  State := Scribe d
  Instance := d.Instance
  Device := d.Device
  Callbacks := d.Callbacks
  Buffer := d.Buffer
  Pipeline := d.Pipeline
  Batch := d.Batch
  instanceExtensions := ask .instanceExtensions d.instanceExtensions
  instanceLayers := ask .instanceLayers d.instanceLayers
  createInstance what := ask (.createInstance what) (d.createInstance what)
  registerCallbacks i := ask (.registerCallbacks i) (d.registerCallbacks i)
  unregisterCallbacks i c := tell (.unregisterCallbacks i c) (d.unregisterCallbacks i c)
  destroyInstance i := tell (.destroyInstance i) (d.destroyInstance i)
  adapters i := ask (.adapters i) (d.adapters i)
  properties i a := look (.properties i a) (d.properties i a)
  queueFamilies i a := look (.queueFamilies i a) (d.queueFamilies i a)
  deviceExtensions i a := ask (.deviceExtensions i a) (d.deviceExtensions i a)
  createDevice i a what := ask (.createDevice i a what) (d.createDevice i a what)
  queue x family index := look (.queue x family index) (d.queue x family index)
  releaseDevice x := tell (.releaseDevice x) (d.releaseDevice x)
  isAlive x s := d.isAlive x s.inner
  destroyDevice x := tell (.destroyDevice x) (d.destroyDevice x)
  createBuffer x size usage := ask (.createBuffer x size usage) (d.createBuffer x size usage)
  destroyBuffer x b := tell (.destroyBuffer x b) (d.destroyBuffer x b)
  createPipeline x what := ask (.createPipeline x what) (d.createPipeline x what)
  destroyPipeline x p := tell (.destroyPipeline x p) (d.destroyPipeline x p)
  createBatch x family timestamps :=
    ask (.createBatch x family timestamps) (d.createBatch x family timestamps)
  destroyBatch x b := tell (.destroyBatch x b) (d.destroyBatch x b)

/-! ## What is said -/

section

variable {d : Driver} {α β : Type}

/-- A change of the environment by which something is said of which `P` is true. -/
def Tells (P : Transcript d → Prop) (f : Env (Scribe d) → Env (Scribe d)) : Prop :=
  ∀ e, ∃ l, (f e).driver.transcript = e.driver.transcript ++ l ∧ P l

/-- An action after which `Q` relates how it ended to what was said meanwhile. -/
def Says (Q : Except Error α → Transcript d → Prop) (act : Act (Scribe d) α) : Prop :=
  ∀ e, ∃ l, (act.after e).driver.transcript = e.driver.transcript ++ l ∧ Q (act.outcome e).1 l

namespace Says

variable {Q : Except Error α → Transcript d → Prop} {S : Except Error β → Transcript d → Prop}
  {x : Act (Scribe d) α} {f : α → Act (Scribe d) β}

/-- What is known when an action ends well. -/
theorem of_ok (h : Says Q x) {a : α} {e e' : Env (Scribe d)} (hx : x e = .ok a e') :
    ∃ l, e'.driver.transcript = e.driver.transcript ++ l ∧ Q (.ok a) l := by
  obtain ⟨l, said, q⟩ := h e
  rw [Attempt.after_of_ok hx] at said
  rw [Attempt.outcome, hx] at q
  exact ⟨l, said, q⟩

/-- What is known when an action fails. -/
theorem of_error (h : Says Q x) {error : Error} {e e' : Env (Scribe d)}
    (hx : x e = .error error e') :
    ∃ l, e'.driver.transcript = e.driver.transcript ++ l ∧ Q (.error error) l := by
  obtain ⟨l, said, q⟩ := h e
  rw [Attempt.after_of_error hx] at said
  rw [Attempt.outcome, hx] at q
  exact ⟨l, said, q⟩

theorem of_cases
    (hok : ∀ e a e', x e = .ok a e' →
      ∃ l, e'.driver.transcript = e.driver.transcript ++ l ∧ Q (.ok a) l)
    (herror : ∀ e error e', x e = .error error e' →
      ∃ l, e'.driver.transcript = e.driver.transcript ++ l ∧ Q (.error error) l) : Says Q x := by
  intro e
  cases h : x e with
  | ok a e' =>
    rw [Attempt.after_of_ok h, Attempt.outcome, h]
    exact hok e a e' h
  | error error e' =>
    rw [Attempt.after_of_error h, Attempt.outcome, h]
    exact herror e error e' h

theorem mono {Q' : Except Error α → Transcript d → Prop} (h : Says Q x)
    (hQ : ∀ r l, Q r l → Q' r l) : Says Q' x := fun e =>
  (h e).imp fun _ said => ⟨said.1, hQ _ _ said.2⟩

/-! ### Single calls -/

theorem ask (x : Except Error α → Exchange d) (call : Act d.State α) :
    Says (fun r l => l = [x r]) (Scribe.ask x call) := by
  refine .of_cases (fun e a e' h => ?_) (fun e error e' h => ?_) <;>
  · unfold Scribe.ask at h
    split at h <;> cases h
    exact ⟨_, rfl, rfl⟩

theorem look (x : α → Exchange d) (call : Env d.State → α × Env d.State) :
    Says (fun r l => ∃ a, r = .ok a ∧ l = [x a]) (Attempt.ofState (Scribe.look x call)) :=
  fun _ => ⟨_, rfl, _, rfl, rfl⟩

theorem write (record : Log.Record) :
    Says (fun r l => r = .ok () ∧ l = []) (Act.write record : Act (Scribe d) Unit) :=
  fun _ => ⟨[], (List.append_nil _).symm, rfl, rfl⟩

/-! ### Putting actions together -/

theorem pure {a : α} (h : Q (.ok a) []) : Says Q (Pure.pure a : Act (Scribe d) α) :=
  fun _ => ⟨[], (List.append_nil _).symm, h⟩

theorem throw {error : Error} (h : Q (.error error) []) :
    Says Q (MonadExcept.throw error : Act (Scribe d) α) :=
  fun _ => ⟨[], (List.append_nil _).symm, h⟩

theorem ofExcept {y : Except Error α} (h : Q y []) : Says Q (Attempt.ofExcept y) := by
  intro e
  cases y <;> exact ⟨[], (List.append_nil _).symm, h⟩

/-- After an action that failed there is no more to say; after one that did not, the next one goes on. -/
theorem bind (hx : Says Q x) (herror : ∀ error l, Q (.error error) l → S (.error error) l)
    (hok : ∀ a l, Q (.ok a) l → Says (fun r l' => S r (l ++ l')) (f a)) : Says S (x >>= f) := by
  refine .of_cases (fun e b e'' h => ?_) (fun e error e'' h => ?_)
  · obtain ⟨a, e', h₁, h₂⟩ := Attempt.bind_eq_ok.1 h
    obtain ⟨l, said, q⟩ := hx.of_ok h₁
    obtain ⟨l', said', s⟩ := (hok a l q).of_ok h₂
    exact ⟨l ++ l', by rw [said', said, List.append_assoc], s⟩
  · rcases Attempt.bind_eq_error.1 h with h₁ | ⟨a, e', h₁, h₂⟩
    · obtain ⟨l, said, q⟩ := hx.of_error h₁
      exact ⟨l, said, herror error l q⟩
    · obtain ⟨l, said, q⟩ := hx.of_ok h₁
      obtain ⟨l', said', s⟩ := (hok a l q).of_error h₂
      exact ⟨l ++ l', by rw [said', said, List.append_assoc], s⟩

theorem ask_bind {x : Except Error α → Exchange d} {call : Act d.State α}
    (herror : ∀ error, S (.error error) [x (.error error)])
    (hok : ∀ a, Says (fun r l => S r (x (.ok a) :: l)) (f a)) : Says S (Scribe.ask x call >>= f) := by
  refine (ask x call).bind ?_ ?_
  · rintro error _ rfl
    exact herror error
  · rintro a _ rfl
    exact hok a

theorem look_bind {x : α → Exchange d} {call : Env d.State → α × Env d.State}
    (h : ∀ a, Says (fun r l => S r (x a :: l)) (f a)) :
    Says S (Attempt.ofState (Scribe.look x call) >>= f) := by
  refine (look x call).bind ?_ ?_
  · rintro error _ ⟨a, failed, -⟩
    cases failed
  · rintro a _ ⟨_, ⟨⟩, rfl⟩
    exact h a

theorem write_bind {record : Log.Record} {f : Unit → Act (Scribe d) β} (h : Says S (f ())) :
    Says S ((Act.write record : Act (Scribe d) Unit) >>= f) := by
  refine (write record).bind ?_ ?_
  · rintro error _ ⟨failed, -⟩
    cases failed
  · rintro _ _ ⟨-, rfl⟩
    exact h

theorem ofExcept_bind {y : Except Error α}
    (herror : ∀ error, y = .error error → S (.error error) [])
    (hok : ∀ a, y = .ok a → Says S (f a)) : Says S (Attempt.ofExcept y >>= f) := by
  refine bind (Q := fun r l => y = r ∧ l = []) (ofExcept ⟨rfl, rfl⟩) ?_ ?_
  · rintro error _ ⟨failed, rfl⟩
    exact herror error failed
  · rintro a _ ⟨found, rfl⟩
    exact hok a found

theorem undoing {undo : Env (Scribe d) → Env (Scribe d)} {P : Transcript d → Prop}
    {Q' : Except Error α → Transcript d → Prop} (hx : Says Q x) (hundo : Tells P undo)
    (hok : ∀ a l, Q (.ok a) l → Q' (.ok a) l)
    (herror : ∀ error l l', Q (.error error) l → P l' → Q' (.error error) (l ++ l')) :
    Says Q' (Attempt.undoing undo x) := by
  refine .of_cases (fun e a e' h => ?_) (fun e error e'' h => ?_)
  · obtain ⟨l, said, q⟩ := hx.of_ok (Attempt.undoing_eq_ok.1 h)
    exact ⟨l, said, hok a l q⟩
  · obtain ⟨e', failed, rfl⟩ := Attempt.undoing_eq_error.1 h
    obtain ⟨l, said, q⟩ := hx.of_error failed
    obtain ⟨l', said', p⟩ := hundo e'
    exact ⟨l ++ l', by rw [said', said, List.append_assoc], herror error l l' q p⟩

end Says

theorem tells_one (x : Exchange d) (call : Env d.State → Env d.State) :
    Tells (fun l => l = [x]) (Scribe.tell x call) := fun _ => ⟨_, rfl, rfl⟩

/-! ## What was answered -/

/-- The last answer to a question. -/
def Answered (question : α → Exchange d) (answer : α) (l : Transcript d) : Prop :=
  ∃ before after, l = before ++ question answer :: after ∧ ∀ other, question other ∉ after

theorem Answered.prepend {question : α → Exchange d} {answer : α} {l : Transcript d}
    (h : Answered question answer l) (l₀ : Transcript d) : Answered question answer (l₀ ++ l) := by
  obtain ⟨before, after, rfl, last⟩ := h
  exact ⟨l₀ ++ before, after, (List.append_assoc _ _ _).symm, last⟩

end

end GpuCompute
