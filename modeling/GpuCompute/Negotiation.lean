import GpuCompute.Env

/-!
# Negotiation

Asking a driver for capabilities by name. `Capability.negotiate` succeeds exactly when all requested
names are available; `Negotiation.run` also reports what was available and how it ended.
-/

namespace GpuCompute

/-- The requested names if all of them are available, and else the error that lists both sides. -/
def Capability.negotiate (kind : CapabilityKind) (requested available : List String) :
    Except Error (List String) :=
  let satisfied := intersect requested available
  if satisfied.length = requested.length then .ok satisfied
  else .error (.capabilityNegotiation kind requested available satisfied)

namespace Negotiation

/-- The record of what a driver offers. -/
def offered (kind : CapabilityKind) (available : List String) : Log.Record :=
  { level := .debug, message := "available capabilities",
    fields := [("kind", kind.words), ("count", toString available.length),
      ("available", Text.commaJoin available)] }

/-- The record of how a negotiation ended. -/
def concluded (kind : CapabilityKind) (requested : List String) :
    Except Error (List String) → Log.Record
  | .ok _ =>
    { level := .info, message := "all requested capabilities enabled",
      fields := [("kind", kind.words), ("count", toString requested.length)] }
  | .error e => { level := .error, message := e.message, fields := [("kind", kind.words)] }

/-- Negotiates and logs. -/
def run {σ : Type} (kind : CapabilityKind) (requested available : List String) :
    Act σ (List String) := do
  Act.write (offered kind available)
  let result := Capability.negotiate kind requested available
  Act.write (concluded kind requested result)
  Attempt.ofExcept result

end Negotiation

end GpuCompute
