import GpuCompute.Text.Debug

/-!
# Faults in JSON texts

Why a JSON text was refused, either because it is no JSON or because it does not describe a value of
the type that is read. `ReadError.message` is the wording.
-/

namespace GpuCompute.Json

/-- What was being read when the text ended. -/
inductive Unfinished
  | value
  | object
  | list
  | string

/-- Something that was found where a value of another type was expected. -/
inductive Found
  | integer (n : Int)
  /-- A number with a fraction or exponent, in its shortest decimal form. -/
  | real (text : String)
  | boolean (b : Bool)
  | string (s : String)
  | null
  | list
  | object

/-- Why a text was refused. -/
inductive ReadError
  /-- The text ends too early. -/
  | unfinished (what : Unfinished)
  /-- No value starts here. -/
  | expectedValue
  /-- A word starts like `true`, `false` or `null` but goes on differently. -/
  | expectedWord
  | expectedColon
  /-- A member of an object is followed neither by a comma nor by the end of the object. -/
  | expectedObjectEnd
  /-- An element of a list is followed neither by a comma nor by the end of the list. -/
  | expectedListEnd
  | keyNotString
  | trailingComma
  | trailingCharacters
  | invalidNumber
  | numberOutOfRange
  | invalidEscape
  /-- The first half of a surrogate pair is not followed by another escape. -/
  | missingSecondSurrogate
  /-- Half of a surrogate pair stands where it has no partner. -/
  | loneSurrogate
  | controlCharacter
  /-- A value of another type. -/
  | wrongType (found : Found) (expected : String)
  /-- An integer that the expected type does not hold. -/
  | wrongInteger (n : Int) (expected : String)
  /-- A list with too few elements. -/
  | wrongLength (n : Nat) (expected : String)
  | missingMember (name : String)
  | duplicateMember (name : String)
  | unknownVariant (name : String) (known : List String)

/-- What was being read, in words. -/
def Unfinished.words : Unfinished → String
  | .value => "a value"
  | .object => "an object"
  | .list => "a list"
  | .string => "a string"

/-- What was found, in words. -/
def Found.words : Found → String
  | .integer n => s!"integer `{n}`"
  | .real text => s!"floating point `{text}`"
  | .boolean b => "boolean `" ++ Text.showBool b ++ "`"
  | .string s => "string " ++ Text.quote s
  | .null => "null"
  | .list => "sequence"
  | .object => "map"

/-- The wording of a fault. -/
def ReadError.message : ReadError → String
  | .unfinished what => "EOF while parsing " ++ what.words
  | .expectedValue => "expected value"
  | .expectedWord => "expected ident"
  | .expectedColon => "expected `:`"
  | .expectedObjectEnd => "expected `,` or `\x7d`"
  | .expectedListEnd => "expected `,` or `]`"
  | .keyNotString => "key must be a string"
  | .trailingComma => "trailing comma"
  | .trailingCharacters => "trailing characters"
  | .invalidNumber => "invalid number"
  | .numberOutOfRange => "number out of range"
  | .invalidEscape => "invalid escape"
  | .missingSecondSurrogate => "unexpected end of hex escape"
  | .loneSurrogate => "lone leading surrogate in hex escape"
  | .controlCharacter => "control character (\\u0000-\\u001F) found while parsing a string"
  | .wrongType found expected => s!"invalid type: {found.words}, expected {expected}"
  | .wrongInteger n expected => s!"invalid value: integer `{n}`, expected {expected}"
  | .wrongLength n expected => s!"invalid length {n}, expected {expected}"
  | .missingMember name => s!"missing field `{name}`"
  | .duplicateMember name => s!"duplicate field `{name}`"
  | .unknownVariant name known =>
    s!"unknown variant `{name}`, expected one of " ++
      Text.commaJoin (known.map fun k => s!"`{k}`")

end GpuCompute.Json
