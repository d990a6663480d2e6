import GpuCompute.Error
import GpuCompute.Log

/-!
# Environments and actions

An environment is a driver's state together with the log that all layers write to. An action may
change the environment and may fail; what it did before it failed stays. `Attempt.undoing` takes
a step back when what comes after it fails, which is how partly built things are taken down again.
-/

namespace GpuCompute

/-- A driver's state and the log, the oldest record first. -/
structure Env (σ : Type) where
  driver : σ
  log : List Log.Record := []

/-- A computation on a state that may fail and keeps what it did until then. -/
abbrev Attempt (σ α : Type) : Type := EStateM Error σ α

/-- An action: an attempt on an environment. -/
abbrev Act (σ α : Type) : Type := Attempt (Env σ) α

namespace Env

variable {σ : Type}

/-- Adds a record to the log. -/
def write (r : Log.Record) (e : Env σ) : Env σ := { e with log := e.log ++ [r] }

/-- Changes the driver's state. -/
def onDriver (f : σ → σ) (e : Env σ) : Env σ := { e with driver := f e.driver }

@[simp] theorem driver_write (r : Log.Record) (e : Env σ) : (e.write r).driver = e.driver := rfl

@[simp] theorem log_write (r : Log.Record) (e : Env σ) : (e.write r).log = e.log ++ [r] := rfl

@[simp] theorem driver_onDriver (f : σ → σ) (e : Env σ) :
    (e.onDriver f).driver = f e.driver := rfl

@[simp] theorem log_onDriver (f : σ → σ) (e : Env σ) : (e.onDriver f).log = e.log := rfl

end Env

namespace Attempt

variable {σ α : Type}

/-- Runs an attempt that follows a step; when it fails, `undo` takes the step back and the error
stays. -/
def undoing (undo : σ → σ) (act : Attempt σ α) : Attempt σ α := fun s =>
  match act s with
  | .ok a s => .ok a s
  | .error e s => .error e (undo s)

/-- Runs an attempt on a part of the state. -/
def within {τ : Type} (get : σ → τ) (set : σ → τ → σ) (act : Attempt τ α) : Attempt σ α := fun s =>
  match act (get s) with
  | .ok a t => .ok a (set s t)
  | .error e t => .error e (set s t)

/-- Runs an attempt; when it fails, another one runs in its place. -/
def otherwise (act alternative : Attempt σ α) : Attempt σ α := fun s =>
  match act s with
  | .ok a s => .ok a s
  | .error _ s => alternative s

/-- The value or error of an attempt, and the state it leaves. -/
def outcome (act : Attempt σ α) (s : σ) : Except Error α × σ :=
  match act s with
  | .ok a s => (.ok a, s)
  | .error e s => (.error e, s)

/-- An attempt that fails exactly when a value is an error. -/
def ofExcept : Except Error α → Attempt σ α
  | .ok a => fun s => .ok a s
  | .error e => fun s => .error e s

/-- A change of state that cannot fail and has a result. -/
def ofState (f : σ → α × σ) : Attempt σ α := fun s => .ok (f s).1 (f s).2

end Attempt

namespace Act

variable {σ : Type}

/-- Writes a record to the log. -/
def write (r : Log.Record) : Act σ Unit := modify (Env.write r)

/-- Writes a record of level debug. -/
def debug (message : String) (fields : List (String × String) := []) : Act σ Unit :=
  write { level := .debug, message, fields }

/-- Writes a record of level info. -/
def info (message : String) (fields : List (String × String) := []) : Act σ Unit :=
  write { level := .info, message, fields }

end Act

end GpuCompute
