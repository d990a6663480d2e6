import GpuCompute.Text.Unprinted

/-!
# Quoted text

A text in double quotes, on one line, in which quotes, backslashes and characters without a printed
form are escaped: some by a letter, the others by their number in hexadecimal digits without padding.
-/

namespace GpuCompute.Text

/-- The hexadecimal digits of a number, in lower case and without padding. -/
def hex (n : Nat) : String := String.ofList (Nat.toDigits 16 n)

/-- A character as it stands in quoted text. -/
def quoteChar (c : Char) : String :=
  match c with
  | '"' => "\\\""
  | '\\' => "\\\\"
  | '\n' => "\\n"
  | '\r' => "\\r"
  | '\t' => "\\t"
  | '\x00' => "\\0"
  | c => if isUnprinted c then "\\u\x7b" ++ hex c.toNat ++ "\x7d" else c.toString

/-- A text in double quotes. -/
def quote (s : String) : String := "\"" ++ String.join (s.toList.map quoteChar) ++ "\""

end GpuCompute.Text
