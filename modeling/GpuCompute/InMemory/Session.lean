import GpuCompute.InMemory.Driver
import GpuCompute.Session

/-!
# Sessions on the driver in memory

Besides the operations of every session, the failure script can be replaced.
-/

namespace GpuCompute.InMemory

/-- An operation of a session on the driver in memory. -/
inductive Operation
  | common (o : GpuCompute.Operation)
  /-- Replaces the failure script; the calls are counted anew. -/
  | setScript (rules : List (Fallible × List (Script.Rule Failure)))

/-- An answer of a session on the driver in memory. -/
inductive Reply
  | common (r : GpuCompute.Reply driver)
  | scriptSet

/-- A session on a driver with an offer and a failure script. -/
def start (offer : Offer) (rules : List (Fallible × List (Script.Rule Failure))) :
    Session driver :=
  Session.start ({ offer, script := .start rules } : State)

/-- The driver's state with another script. -/
def State.withScript (rules : List (Fallible × List (Script.Rule Failure))) (s : State) : State :=
  { s with script := .start rules }

/-- One operation. -/
def step : Operation → Attempt (Session driver) Reply
  | .common o => Reply.common <$> Session.step o
  | .setScript rules => do
    modify (Session.onEnv fun (e : Env State) => e.onDriver (State.withScript rules))
    return .scriptSet

end GpuCompute.InMemory
