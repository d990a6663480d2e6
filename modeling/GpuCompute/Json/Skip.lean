import GpuCompute.Json.Number

/-!
# Skipping values

A value that nobody asks for is checked for its form only. The lists and objects that are open at a
point are kept as a stack, so that a value may be nested as deeply as the text allows.
-/

namespace GpuCompute.Json

/-- What encloses a value. -/
inductive Frame
  | list
  | object

/-- Where a text stands: before a value, or after one. -/
inductive Place
  | before
  | after

/-- The fault of a text that ends inside a list or an object. -/
def Frame.unfinished : Frame → ReadError
  | .list => .unfinished .list
  | .object => .unfinished .object

/-- The fault of an element or a member that is not followed by a comma or the end. -/
def Frame.expectedEnd : Frame → ReadError
  | .list => .expectedListEnd
  | .object => .expectedObjectEnd

/-- The character that ends a list or an object. -/
def Frame.close : Frame → Char
  | .list => ']'
  | .object => '\x7d'

/-- Skips a member's name and the colon after it. -/
def skipKey (s : List Char) : Except ReadError (List Char) :=
  match skipBlank s with
  | [] => .error (.unfinished .object)
  | c :: s =>
    if c = '"' then
      match skipString s with
      | .error e => .error e
      | .ok s =>
        match skipBlank s with
        | [] => .error (.unfinished .object)
        | c :: s => if c = ':' then .ok s else .error .expectedColon
    else .error .keyNotString

/-- Skips what precedes the next value inside a frame: a name in an object, nothing in a list. -/
def Frame.skipLabel : Frame → List Char → Except ReadError (List Char)
  | .list, s => .ok s
  | .object, s => skipKey s

/-- Skips a value that is neither a list nor an object and starts with `c`. -/
def skipScalar (c : Char) (s : List Char) : Except ReadError (List Char) :=
  if c = 'n' then readWord ['u', 'l', 'l'] s
  else if c = 't' then readWord ['r', 'u', 'e'] s
  else if c = 'f' then readWord ['a', 'l', 's', 'e'] s
  else if c = '"' then skipString s
  else if c = '-' then skipNumber s
  else if (digitValue? c).isSome then skipNumber (c :: s)
  else .error .expectedValue

/-- The frame that a character opens. -/
def Frame.opened? (c : Char) : Option Frame :=
  if c = '[' then some .list else if c = '\x7b' then some .object else none

theorem length_skipKey_lt {s r : List Char} (h : skipKey s = .ok r) : r.length < s.length := by
  unfold skipKey at h
  have hs := length_skipBlank_le s
  split at h
  · simp at h
  · next c t ht =>
    rw [ht, List.length_cons] at hs
    split at h
    · split at h
      · simp at h
      · next u hu =>
        have := length_skipString_lt hu
        have hb := length_skipBlank_le u
        split at h
        · simp at h
        · next d v hv =>
          rw [hv, List.length_cons] at hb
          split at h
          · simp only [Except.ok.injEq] at h
            subst h
            omega
          · simp at h
    · simp at h

theorem length_skipLabel_le {f : Frame} {s r : List Char} (h : f.skipLabel s = .ok r) :
    r.length ≤ s.length := by
  cases f with
  | list => simp only [Frame.skipLabel, Except.ok.injEq] at h; simp [h]
  | object => exact Nat.le_of_lt (length_skipKey_lt h)

theorem length_skipScalar_le {c : Char} {s r : List Char} (h : skipScalar c s = .ok r) :
    r.length ≤ s.length := by
  unfold skipScalar at h
  split at h
  · exact length_readWord_le h
  split at h
  · exact length_readWord_le h
  split at h
  · exact length_readWord_le h
  split at h
  · exact Nat.le_of_lt (length_skipString_lt h)
  split at h
  · exact Nat.le_of_lt (length_skipNumber_lt h)
  split at h
  · exact Nat.le_of_lt_succ (length_skipNumber_lt h)
  · simp at h

/-- Skips the rest of a value inside the frames of a stack, innermost first, until the stack is
empty. -/
def skip (stack : List Frame) (place : Place) (s : List Char) : Except ReadError (List Char) :=
  match place, stack with
  | .after, [] => .ok s
  | .after, f :: outer =>
    match _h : skipBlank s with
    | [] => .error f.unfinished
    | c :: r =>
      if c = ',' then
        match _hl : f.skipLabel r with
        | .error e => .error e
        | .ok t => skip (f :: outer) .before t
      else if c = f.close then skip outer .after r
      else .error f.expectedEnd
  | .before, stack =>
    match _h : skipBlank s with
    | [] => .error (.unfinished .value)
    | c :: r =>
      match Frame.opened? c with
      | none =>
        match _hl : skipScalar c r with
        | .error e => .error e
        | .ok t => skip stack .after t
      | some f =>
        match _hb : skipBlank r with
        | [] => .error f.unfinished
        | d :: t =>
          if d = f.close then skip stack .after t
          else
            match _hl : f.skipLabel (d :: t) with
            | .error e => .error e
            | .ok u => skip (f :: stack) .before u
termination_by s.length
decreasing_by
  all_goals
    have hs := length_skipBlank_le s
    simp only [*, List.length_cons] at hs
  · have := length_skipLabel_le _hl
    omega
  · omega
  · have := length_skipScalar_le _hl
    omega
  all_goals
    have hr := length_skipBlank_le r
    simp only [*, List.length_cons] at hr
  · omega
  · have := length_skipLabel_le _hl
    simp only [List.length_cons] at this
    omega

/-- Skips one value. -/
def skipValue (s : List Char) : Except ReadError (List Char) := skip [] .before s

end GpuCompute.Json
