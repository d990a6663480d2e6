/-!
# Blank characters and words

A word is a maximal run of characters that are not blank; blank means the Unicode property
`White_Space`. `words` cuts a text into its words.
-/

namespace GpuCompute.Text

/-- The characters with the Unicode property `White_Space`. -/
def isBlank (c : Char) : Bool :=
  let n := c.toNat
  (0x09 ≤ n && n ≤ 0x0D) || n == 0x20 || n == 0x85 || n == 0xA0 || n == 0x1680 ||
    (0x2000 ≤ n && n ≤ 0x200A) || n == 0x2028 || n == 0x2029 || n == 0x202F || n == 0x205F ||
    n == 0x3000

/-- Puts a character that is not blank before the words of the text that follows it: it joins the
first word if that text starts with a word, and else is a word of its own. -/
def joinFirst (c : Char) (rest : List Char) (ws : List (List Char)) : List (List Char) :=
  match rest, ws with
  | d :: _, w :: ws => if isBlank d then [c] :: w :: ws else (c :: w) :: ws
  | _, ws => [c] :: ws

/-- The words of a text, in order. -/
def words : List Char → List (List Char)
  | [] => []
  | c :: rest => if isBlank c then words rest else joinFirst c rest (words rest)

/-- The words of a string. -/
def wordsOf (s : String) : List String := (words s.toList).map String.ofList

end GpuCompute.Text
