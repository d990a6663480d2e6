import GpuCompute.Decimal.Layout
import GpuCompute.Text.Debug

/-!
# Writing JSON

The compact form of values: no blanks, members in a given order, and in strings escapes only where
they are needed.
-/

namespace GpuCompute.Json

open GpuCompute.Binary

/-- A hexadecimal digit. -/
def hexDigit (n : Nat) : Char := Nat.digitChar n

/-- A character inside a string. -/
def writeChar (c : Char) : List Char :=
  if c = '"' then ['\\', '"']
  else if c = '\\' then ['\\', '\\']
  else if c = '\x08' then ['\\', 'b']
  else if c = '\x0C' then ['\\', 'f']
  else if c = '\n' then ['\\', 'n']
  else if c = '\r' then ['\\', 'r']
  else if c = '\t' then ['\\', 't']
  else if c.toNat < 0x20 then
    ['\\', 'u', '0', '0', hexDigit (c.toNat / 16), hexDigit (c.toNat % 16)]
  else [c]

/-- A string. -/
def writeText (s : String) : List Char := '"' :: s.toList.flatMap writeChar ++ ['"']

/-- A truth value. -/
def writeBool (b : Bool) : List Char :=
  if b then ['t', 'r', 'u', 'e'] else ['f', 'a', 'l', 's', 'e']

/-- A natural number. -/
def writeNat (n : Nat) : List Char := Nat.toDigits 10 n

/-- A 32-bit float, given by its bits: its shortest decimal, and `null` for what is not finite. -/
def writeSingle (bits : UInt32) : List Char :=
  let code := bits.toNat % single.signWeight
  if code < single.infinity then
    Decimal.write single .single (single.signWeight ≤ bits.toNat) code
  else ['n', 'u', 'l', 'l']

/-- Written values with commas between them. -/
def commaSeparated : List (List Char) → List Char
  | [] => []
  | [v] => v
  | v :: vs => v ++ ',' :: commaSeparated vs

/-- A list of written values. -/
def writeList (values : List (List Char)) : List Char := '[' :: commaSeparated values ++ [']']

/-- A member with a written value. -/
def writeMember (m : String × List Char) : List Char := writeText m.1 ++ ':' :: m.2

/-- An object with written values. -/
def writeObject (members : List (String × List Char)) : List Char :=
  '\x7b' :: commaSeparated (members.map writeMember) ++ ['\x7d']

end GpuCompute.Json
