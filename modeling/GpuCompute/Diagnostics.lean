import GpuCompute.Env
import GpuCompute.Text.Utf8

/-!
# Messages of validation layers

A driver reports through two mechanisms, which mark the severity of a message by flags of their own.
Both callbacks write the message to the log and let the reported call go on.
-/

namespace GpuCompute.Diagnostics

/-- How severe a validation message is. -/
inductive Severity
  | debug
  | info
  | warning
  | error
  deriving DecidableEq

namespace Severity

/-- The severity's identifier. -/
def label : Severity → String
  | .debug => "Debug"
  | .info => "Info"
  | .warning => "Warning"
  | .error => "Error"

/-- The level at which a message is logged. -/
def level : Severity → Log.Level
  | .debug => .debug
  | .info => .info
  | .warning => .warn
  | .error => .error

end Severity

/-- The two reporting mechanisms. -/
inductive Mechanism
  | report
  | utils
  deriving DecidableEq

/-- The mechanism's name. -/
def Mechanism.name : Mechanism → String
  | .report => "report"
  | .utils => "utils"

/-- Whether any of the bits of a mask is set. -/
def anyBit (flags mask : UInt32) : Bool := flags &&& mask != 0

/-- The severity of a report's flags. -/
def reportSeverity (flags : UInt32) : Severity :=
  if anyBit flags 0x8 then .error
  else if anyBit flags 0x6 then .warning
  else if anyBit flags 0x1 then .info
  else .debug

/-- The severity of a messenger's flags. -/
def utilsSeverity (flags : UInt32) : Severity :=
  if anyBit flags 0x1000 then .error
  else if anyBit flags 0x100 then .warning
  else if anyBit flags 0x10 then .info
  else .debug

/-- The severity of flags of a mechanism. -/
def Mechanism.severity : Mechanism → UInt32 → Severity
  | .report => reportSeverity
  | .utils => utilsSeverity

/-- The record of a validation message. -/
def validationRecord (severity : Severity) (source id message : String) : Log.Record :=
  { level := severity.level, message, fields := [("source", source), ("id", id)],
    origin := .validationLayer }

/-- The text at a pointer to bytes that a zero byte ends; nothing at the null pointer. -/
def textAt : Option (List UInt8) → String
  | none => ""
  | some bytes => Text.decodeLossy (bytes.takeWhile (· != 0))

/-- A call of a callback by the driver. -/
structure CallbackCall where
  mechanism : Mechanism
  flags : UInt32
  /-- The layer prefix of a report, the message's identifier of a messenger. -/
  id : Option (List UInt8)
  message : Option (List UInt8)

/-- What the callbacks return: the reported call goes on. -/
def goOn : UInt32 := 0

/-- The record that a callback writes. -/
def CallbackCall.record (c : CallbackCall) : Log.Record :=
  validationRecord (c.mechanism.severity c.flags) c.mechanism.name (textAt c.id) (textAt c.message)

/-- A callback: it logs the message and lets the reported call go on. -/
def CallbackCall.run {σ : Type} (c : CallbackCall) (e : Env σ) : UInt32 × Env σ :=
  (goOn, e.write c.record)

end GpuCompute.Diagnostics
