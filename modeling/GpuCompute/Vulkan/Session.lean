import GpuCompute.Session
import GpuCompute.Vulkan.Driver

/-!
# Sessions on the Vulkan driver

Besides the operations of every session, the failure script can be replaced, managers can be set up
from the process environment or on handles of the API, callbacks can be called, and objects of the
driver can be looked into.
-/

namespace GpuCompute.Vulkan

/-- The rules of a failure script for the API. -/
abbrev Rules : Type := List (String × List (Script.Rule Failure))

/-- An operation of a session on the Vulkan driver. -/
inductive Operation
  | common (o : GpuCompute.Operation)
  /-- Replaces the failure script; the calls are counted anew. -/
  | setScript (rules : Rules)
  /-- Makes a manager that the process environment describes. -/
  | createFromEnvironment (m : String) (environment : Environment) (selection : Selection)
  /-- Makes a manager on the handles of a kept instance and a kept device. The device gets an
  allocator of its own. -/
  | borrowRaw (m inst device : String) (adapter : AdapterHandle) (families : List UInt32)
    (config : Config)
  /-- The API calls the callback of a mechanism that was registered last, unless it was destroyed
  since. -/
  | fire (c : Diagnostics.CallbackCall)
  | describeObject (name : String)
  | describeDriver

/-- An answer of a session on the Vulkan driver. -/
inductive Reply (M : MemoryLibrary := .own)
  | common (r : GpuCompute.Reply (driverOn M))
  | scriptSet
  /-- What a callback returned. -/
  | callback (result : UInt32)
  | noCallback
  | buffer (b : Buffer)
  | pipeline (p : Pipeline)
  | batch (b : CommandBatch)
  | text (s : String)

variable {M : MemoryLibrary}

/-- A session on a host with a failure script. -/
def start (host : Host) (rules : Rules) : Session (driverOn M) :=
  Session.start ({ api := { host, script := .start rules } } : State)

/-- The API with another script. -/
def Api.withScript (rules : Rules) (a : Api) : Api := { a with script := .start rules }

/-- A manager on the handles of an instance and a device that are not its own. -/
def borrowRaw (config : Config) (inst : Nat) (adapter : AdapterHandle) (device : Nat)
    (families : List UInt32) : Act State (Manager (driverOn M)) := do
  let device ← wrapDevice M inst adapter device
  Manager.borrow (d := driverOn M) config inst adapter device families

/-- Calls the callback of a mechanism that was registered last, unless it was destroyed since. -/
def fire (c : Diagnostics.CallbackCall) : Act State (Reply M) := do
  match (← get).driver.api.callback? c.mechanism with
  | none => return .noCallback
  | some _ =>
    let result ← Attempt.ofState c.run
    return .callback result

/-- The pipeline, else the command batch, else the buffer of a name. -/
def describeObject (name : String) (s : Session (driverOn M)) : Reply M :=
  match s.pipelines.lookup name, s.batches.lookup name, s.buffers.lookup name with
  | some p, _, _ => .pipeline p
  | none, some b, _ => .batch b
  | none, none, some b => .buffer b
  | none, none, none => .common (.unknown name)

/-- One operation. -/
def step : Operation → Attempt (Session (driverOn M)) (Reply M)
  | .common o => Reply.common <$> Session.step o
  | .setScript rules => do
    modify (Session.onEnv fun (e : Env State) => e.onDriver (State.onApi (.withScript rules)))
    return .scriptSet
  | .createFromEnvironment m environment selection =>
    Reply.common <$>
      Session.addManager m (Manager.create (driverOn M) (.ofEnvironment environment) selection)
  | .borrowRaw m inst device adapter families config =>
    Reply.common <$>
      Session.withInstance inst fun inst => Session.withDevice device fun device =>
        Session.addManager m (borrowRaw config inst adapter (device : Device).handle families)
  | .fire c => Session.run (d := driverOn M) (fire c)
  | .describeObject name => return describeObject name (← get)
  | .describeDriver => return .text debug

end GpuCompute.Vulkan
