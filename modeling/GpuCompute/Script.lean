/-!
# Failure scripts

A script decides which calls fail. A rule names a call and says at which of its occurrences it
fails, and how; occurrences are counted from one, and all calls count.
-/

namespace GpuCompute

/-- When a call fails and how. -/
structure Script.Rule (φ : Type) where
  /-- The occurrence at which the call fails; zero for each one. -/
  nth : Nat
  failure : φ

/-- The rules for each call, and the calls made so far. -/
structure Script (κ φ : Type) where
  rules : List (κ × List (Script.Rule φ)) := []
  made : List κ := []

namespace Script

variable {κ φ : Type}

/-- Whether a rule concerns an occurrence of its call. -/
def Rule.concerns (r : Rule φ) (occurrence : Nat) : Bool := r.nth == 0 || r.nth == occurrence

/-- The failure of a call at an occurrence: that of the first rule that concerns it. -/
def failureAt [BEq κ] (s : Script κ φ) (call : κ) (occurrence : Nat) : Option φ :=
  (((s.rules.lookup call).getD []).find? fun r => r.concerns occurrence).map (·.failure)

/-- Counts a call and tells whether and how it fails. -/
def ask [BEq κ] (s : Script κ φ) (call : κ) : Option φ × Script κ φ :=
  (s.failureAt call (s.made.count call + 1), { s with made := call :: s.made })

/-- A script with other rules, in which no call has been made. -/
def start (rules : List (κ × List (Rule φ))) : Script κ φ := { rules }

end Script

end GpuCompute
