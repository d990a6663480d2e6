import GpuCompute.Proofs.Production
import GpuCompute.Proofs.Queues
import GpuCompute.Proofs.Requests

/-!
# Making a resource is atomic

A manager has five methods that make a resource (`Factory`). Whatever the driver does, each of them
either fails and leaves everything as it was except for what the driver keeps and the log, without
any object having been made, or has the driver make exactly one object, adds one resource at the end of
those of its kind, and registers it (`Factory.commits_run`). A session that asks for a resource changes as
the method does (`Session.factories_atomic`).
-/

namespace GpuCompute

variable {d : Driver}

/-! ## Calls that make something -/

namespace Exchange

/-- Whether something was made. -/
def Creates : Exchange d → Prop
  | createInstance _ (.ok _) | registerCallbacks _ (.ok _) | createDevice _ _ _ (.ok _)
  | createBuffer _ _ _ (.ok _) | createPipeline _ _ (.ok _) | createBatch _ _ _ (.ok _) => True
  | _ => False

/-- The object that a call asks for, with its device. -/
def order? : Exchange d → Option (d.Device × Order d.transcribed)
  | createBuffer device size usage _ => some (device, .buffer size usage)
  | createPipeline device what _ => some (device, .pipeline what)
  | createBatch device family timestamps _ => some (device, .batch family timestamps)
  | _ => none

end Exchange

variable {device : d.Device} {order : Order d.transcribed} {e e' : Env d.transcribed.State}

theorem transcript_make_ok {x : Object d.transcribed}
    (h : d.transcribed.make device order e = .ok x e') :
    ∃ y : Exchange d, e'.driver.transcript = e.driver.transcript ++ [y] ∧
      y.order? = some (device, order) ∧ y.Creates := by
  cases order <;>
  · obtain ⟨object, made, -⟩ := Attempt.map_eq_ok.1 h
    obtain ⟨_, said, rfl⟩ := (Says.ask _ _).of_ok made
    exact ⟨_, said, rfl, trivial⟩

theorem transcript_make_error {error : Error}
    (h : d.transcribed.make device order e = .error error e') :
    ∃ y : Exchange d, e'.driver.transcript = e.driver.transcript ++ [y] ∧
      y.order? = some (device, order) ∧ ¬ y.Creates := by
  cases order <;>
  · obtain ⟨_, said, rfl⟩ := (Says.ask _ _).of_error (Attempt.map_eq_error.1 h)
    exact ⟨_, said, rfl, id⟩

/-! ## Pools with one more resource -/

namespace Pool

/-- A resource is added at the end of those of its kind, and nothing else changes but the
environment. -/
inductive Appends (p : Pool d) : ResourceId → Pool d → Prop
  | tensor (t : Tensor d) (e : Env d.State) :
    Appends p (.tensor p.tensors.length) { p with env := e, tensors := p.tensors ++ [t] }
  | algorithm (a : Algorithm d) (e : Env d.State) :
    Appends p (.algorithm p.algorithms.length)
      { p with env := e, algorithms := p.algorithms ++ [a] }
  | sequence (q : Sequence d) (e : Env d.State) :
    Appends p (.sequence p.sequences.length) { p with env := e, sequences := p.sequences ++ [q] }

variable {p p' : Pool d} {device : d.Device} {i : Nat}

theorem appends_addTensor {bytes : List UInt8} {count size : UInt64} {dataType : DataType}
    (h : addTensor device bytes count size dataType p = .ok i p') : p.Appends (.tensor i) p' := by
  obtain ⟨t, p₁, h₁, h⟩ := Attempt.bind_eq_ok.1 h
  obtain ⟨e, -, rfl⟩ := Attempt.within_eq_ok.1 h₁
  cases h
  exact .tensor t e

theorem appends_addAlgorithm {tensors : List Nat} {code : List UInt32} {workgroup : Extent}
    {pushConstants : List UInt8}
    (h : addAlgorithm device tensors code workgroup pushConstants p = .ok i p') :
    p.Appends (.algorithm i) p' := by
  rw [addAlgorithm, Attempt.get_bind] at h
  obtain ⟨a, p₁, h₁, h⟩ := Attempt.bind_eq_ok.1 h
  obtain ⟨e, -, rfl⟩ := Attempt.within_eq_ok.1 h₁
  cases h
  exact .algorithm a e

theorem appends_addSequence {adapter : AdapterHandle} {queue : Queue.Handle}
    {family timestamps : UInt32}
    (h : addSequence device adapter queue family timestamps p = .ok i p') :
    p.Appends (.sequence i) p' := by
  obtain ⟨q, p₁, h₁, h⟩ := Attempt.bind_eq_ok.1 h
  obtain ⟨e, -, rfl⟩ := Attempt.within_eq_ok.1 h₁
  cases h
  exact .sequence q e

/-- What a log record was written before is added to the same resources. -/
theorem Appends.of_withEnv {r : ResourceId} {e : Env d.State} (h : (p.withEnv e).Appends r p') :
    p.Appends r p' := by
  cases h with
  | tensor t e => exact .tensor t e
  | algorithm a e => exact .algorithm a e
  | sequence q e => exact .sequence q e

end Pool

/-! ## Methods -/

/-- A method of a manager that makes a resource, with its arguments. Tensors are given by number. -/
inductive Factory
  | tensor (data : Elements)
  | tensorOfBytes (bytes : List UInt8) (count size : UInt64) (dataType : DataType)
  | algorithm (tensors : List Nat) (code : List UInt32)
  | algorithmWith (tensors : List Nat) (code : List UInt32) (workgroup : Extent)
    (pushConstants : List UInt8)
  | sequence (queue : UInt64) (timestamps : UInt32)

namespace Factory

/-- What a manager does. -/
def run (m : Manager d) : Factory → Attempt (Pool d) (Nat × Manager d)
  | tensor data => m.tensor data
  | tensorOfBytes bytes count size dataType => m.tensorOfBytes bytes count size dataType
  | algorithm tensors code => m.algorithm tensors code
  | algorithmWith tensors code workgroup pushConstants =>
    m.algorithmWith tensors code workgroup pushConstants
  | sequence queue timestamps => m.sequence queue timestamps

/-- The resource that is made, by its number. -/
def identify : Factory → Nat → ResourceId
  | tensor _ | tensorOfBytes .. => .tensor
  | algorithm .. | algorithmWith .. => .algorithm
  | sequence .. => .sequence

/-- The tensors that the resource binds. -/
def binds : Factory → List Nat
  | algorithm tensors _ | algorithmWith tensors .. => tensors
  | _ => []

/-- What the driver is asked for, or why the method fails without asking. -/
def request (m : Manager d) (p : Pool d) : Factory → Except Error (d.Device × Order d)
  | tensor data => m.tensorRequest data.bytes (.ofNat data.words.length) (.ofNat data.type.size)
  | tensorOfBytes bytes count size _ => m.tensorRequest bytes count size
  | algorithm tensors code => m.defaultRequest p tensors code
  | algorithmWith tensors code workgroup pushConstants =>
    m.algorithmRequest p tensors code workgroup pushConstants
  | sequence queue timestamps => m.sequenceRequest queue timestamps

variable {m m' : Manager d} {p p' : Pool d} {i : Nat}

theorem produces_run (m : Manager d) (f : Factory) : Session.Produces m f.identify f.binds (f.run m) := by
  cases f with
  | tensor | tensorOfBytes => exact Session.produces_tensorOfBytes ..
  | algorithm => exact Session.produces_algorithm ..
  | algorithmWith => exact Session.produces_algorithmWith ..
  | sequence => exact Session.produces_sequence ..

theorem heeds_run (m : Manager d) (p : Pool d) (f : Factory) :
    Heeds Pool.env (f.run m) p (f.request m p) := by
  cases f with
  | tensor | tensorOfBytes => exact m.heeds_tensorOfBytes ..
  | algorithm => exact m.heeds_algorithm ..
  | algorithmWith => exact m.heeds_algorithmWith ..
  | sequence => exact m.heeds_sequence ..

theorem appends_algorithmWith {tensors : List Nat} {code : List UInt32} {workgroup : Extent}
    {pushConstants : List UInt8}
    (h : m.algorithmWith tensors code workgroup pushConstants p = .ok (i, m') p') :
    p.Appends (.algorithm i) p' := by
  obtain ⟨device, p₁, live, h₁⟩ := Attempt.bind_eq_ok.1 h
  obtain ⟨_, p₂, added, h₂⟩ := Attempt.bind_eq_ok.1 h₁
  obtain ⟨-, rfl⟩ := Attempt.ofExcept_eq_ok.1 live
  cases h₂
  exact Pool.appends_addAlgorithm added

theorem appends_tensorOfBytes {bytes : List UInt8} {count size : UInt64} {dataType : DataType}
    (h : m.tensorOfBytes bytes count size dataType p = .ok (i, m') p') :
    p.Appends (.tensor i) p' := by
  obtain ⟨device, p₁, live, h₁⟩ := Attempt.bind_eq_ok.1 h
  obtain ⟨_, p₂, added, h₂⟩ := Attempt.bind_eq_ok.1 h₁
  obtain ⟨-, rfl⟩ := Attempt.ofExcept_eq_ok.1 live
  cases h₂
  exact Pool.appends_addTensor added

/-- A method that succeeds adds a resource and changes no other. -/
theorem appends_of_run {f : Factory} (h : f.run m p = .ok (i, m') p') : p.Appends (f.identify i) p' := by
  cases f with
  | tensor | tensorOfBytes => exact appends_tensorOfBytes h
  | algorithm =>
    simp only [run, Manager.algorithm, Attempt.get_bind] at h
    obtain ⟨workgroup, p₁, h₁, h₂⟩ := Attempt.bind_eq_ok.1 h
    obtain ⟨-, rfl⟩ := Attempt.ofExcept_eq_ok.1 h₁
    exact appends_algorithmWith h₂
  | algorithmWith => exact appends_algorithmWith h
  | sequence =>
    obtain ⟨_, p₁, announced, h₁⟩ := Attempt.bind_eq_ok.1 h
    obtain ⟨device, p₂, live, h₂⟩ := Attempt.bind_eq_ok.1 h₁
    obtain ⟨queue, p₃, found, h₃⟩ := Attempt.bind_eq_ok.1 h₂
    obtain ⟨_, p₄, added, h₄⟩ := Attempt.bind_eq_ok.1 h₃
    obtain ⟨e, -, rfl⟩ := Attempt.within_eq_ok.1 announced
    obtain ⟨-, rfl⟩ := Attempt.ofExcept_eq_ok.1 live
    obtain ⟨-, rfl⟩ := Attempt.ofExcept_eq_ok.1 found
    cases h₄
    exact (Pool.appends_addSequence added).of_withEnv

/-- A method that fails changes nothing but the environment. -/
theorem withEnv_of_error {f : Factory} {error : Error} (h : f.run m p = .error error p') :
    p' = p.withEnv p'.env := by
  obtain ⟨e, -, rfl⟩ | ⟨_, _, -, -, refused⟩ := (produces_run m f).error h
  · rfl
  · cases refused <;> rfl

theorem isInit_of_ok {f : Factory} (h : f.run m p = .ok (i, m') p') : p'.isInit (f.identify i) := by
  obtain ⟨_, _, -, -, ⟨_, _, _, -, -, -, adds⟩, -⟩ := (produces_run m f).ok h
  exact Pool.isInit_iff.2 ⟨_, _, adds.slot, rfl⟩

/-! ## All or nothing -/

/-- What a method comes to: it fails, nothing was made, and only the environment is another one; or it
succeeds after one call, which made an object, for a resource that is added and registered. -/
inductive Commits (f : Factory) (m : Manager d.transcribed) (p : Pool d.transcribed) :
    EStateM.Result Error (Pool d.transcribed) (Nat × Manager d.transcribed) → Prop
  | fails {error : Error} {e : Env d.transcribed.State} {l : Transcript d}
    (said : e.driver.transcript = p.env.driver.transcript ++ l) (none : ∀ x ∈ l, ¬ x.Creates) :
    Commits f m p (.error error (p.withEnv e))
  | succeeds {i : Nat} {m' : Manager d.transcribed} {p' : Pool d.transcribed} {x : Exchange d}
    (said : p'.env.driver.transcript = p.env.driver.transcript ++ [x]) (creates : x.Creates)
    (asked : ∃ asked, f.request m p = .ok asked ∧ x.order? = some asked)
    (appends : p.Appends (f.identify i) p') (isInit : p'.isInit (f.identify i))
    (registers : Session.Registers m (f.identify i) m') : Commits f m p (.ok (i, m') p')

theorem commits_run (f : Factory) (m : Manager d.transcribed) (p : Pool d.transcribed) :
    Commits f m p (f.run m p) := by
  have heeds := f.heeds_run m p
  generalize hrequest : f.request m p = request at heeds
  cases heeds with
  | @refused error p' h quiet =>
    rw [h, withEnv_of_error h]
    refine .fails (l := []) ?_ (List.forall_mem_nil _)
    rw [quiet, List.append_nil]
  | @failed device order e₁ e₂ error p' quiet failed h after =>
    obtain ⟨x, said, -, none⟩ := transcript_make_error failed
    rw [h, withEnv_of_error h]
    refine .fails (l := [x]) ?_ (List.forall_mem_singleton.2 none)
    rw [after, said, quiet]
  | @made device order e₁ e₂ _ result p' quiet made h after =>
    obtain ⟨i, m'⟩ := result
    obtain ⟨x, said, asked, creates⟩ := transcript_make_ok made
    obtain ⟨_, _, -, -, -, registers, -⟩ := (produces_run m f).ok h
    rw [h]
    refine .succeeds ?_ creates ⟨_, hrequest, asked⟩ (appends_of_run h) (isInit_of_ok h) registers
    rw [after, said, quiet]

end Factory

/-! ## Operations -/

namespace Session

/-- The method by which an operation makes a resource, after the names of the manager and of the
resource; `none` if it makes none, or names something unknown. -/
def factory? (s : Session d) : Operation → Option (String × String × Factory)
  | .tensor n name data => some (n, name, .tensor data)
  | .tensorOfBytes n name bytes count size dataType =>
    some (n, name, .tensorOfBytes bytes count size dataType)
  | .algorithm n name tensors code => (s.tensorNumbers tensors).toOption.map fun numbers =>
    (n, name, .algorithm numbers code)
  | .algorithmWith n name tensors code workgroup pushConstants =>
    (s.tensorNumbers tensors).toOption.map fun numbers =>
      (n, name, .algorithmWith numbers code workgroup pushConstants)
  | .sequence n name queue timestamps => some (n, name, .sequence queue timestamps)
  | _ => none

theorem addAlgorithm_of_numbers {s : Session d} {n name : String} {names : List String}
    {make : List Nat → Manager d → Attempt (Pool d) (Nat × Manager d)} {numbers : List Nat}
    (h : (s.tensorNumbers names).toOption = some numbers) :
    addAlgorithm n name names make s = addResource n name .algorithm (make numbers) s := by
  unfold addAlgorithm
  rw [Attempt.get_bind]
  cases hn : s.tensorNumbers names with
  | error tensor => simp [hn, Except.toOption] at h
  | ok numbers' =>
    simp only [hn, Except.toOption, Option.some.injEq] at h
    rw [h]

theorem step_of_factory? {s : Session d} {o : Operation} {n name : String} {f : Factory}
    (h : s.factory? o = some (n, name, f)) :
    step o s = addResource n name f.identify (f.run ·) s := by
  cases o with
  | tensor | tensorOfBytes | sequence =>
    cases h
    rfl
  | algorithm | algorithmWith =>
    obtain ⟨numbers, hn, heq⟩ := Option.map_eq_some_iff.1 h
    cases heq
    exact addAlgorithm_of_numbers hn
  | _ => cases h

/-- **Methods that make resources are atomic.** In any state, a method that fails has made nothing, and
the session is the same but for its environment; one that succeeds has made one object, and then the
session has one more resource of the kind, held by a name, and the manager that tracks it. -/
theorem factories_atomic (s : Session d.transcribed) {o : Operation} {n name : String} {f : Factory}
    {m : Manager d.transcribed} (ho : s.factory? o = some (n, name, f))
    (hm : s.managers.lookup n = some m) :
    Factory.Commits f m s.pool (f.run m s.pool) ∧
    (∀ error p, f.run m s.pool = .error error p → step o s = .error error (s.withEnv p.env)) ∧
    ∀ i m' p, f.run m s.pool = .ok (i, m') p → step o s =
      .ok .created (({ s with pool := p }.setManager n m').onPool (.hold name (f.identify i))) := by
  rw [step_of_factory? ho]
  refine ⟨f.commits_run m s.pool, fun error p h => ?_, fun i m' p h => addResource_ok hm h⟩
  rw [addResource_error hm h, Factory.withEnv_of_error h]
  rfl

theorem factories_atomic_tensor :
    let s := steps threeQueues (start ⟨serving, []⟩ : Session InMemory.driver.transcribed)
    ∃ m m' p, Factory.Commits (.tensorOfBytes [1, 2, 3, 4] 1 4 .float) m s.pool (.ok (0, m') p) ∧
      step (.tensorOfBytes "m" "t" [1, 2, 3, 4] 1 4 .float) s = .ok .created
        (({ s with pool := p }.setManager "m" m').onPool (.hold "t" (.tensor 0))) := by
  intro s
  obtain ⟨m, hm⟩ : ∃ m, s.managers.lookup "m" = some m := ⟨_, rfl⟩
  obtain ⟨commits, -, succeeds⟩ := factories_atomic s
    (o := .tensorOfBytes "m" "t" [1, 2, 3, 4] 1 4 .float) rfl hm
  obtain ⟨m', p, made⟩ : ∃ m' p,
      (Factory.tensorOfBytes [1, 2, 3, 4] 1 4 .float).run m s.pool = .ok (0, m') p := by
    cases hm
    exact ⟨_, _, rfl⟩
  exact ⟨m, m', p, made ▸ commits, succeeds 0 m' p made⟩

end Session

end GpuCompute
