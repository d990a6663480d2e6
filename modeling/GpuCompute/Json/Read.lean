import GpuCompute.Json.Skip

/-!
# Reading typed values

A value is read straight into the type that is wanted, and the first fault in reading order is
reported: a value of the wrong type before a fault of form further on. Records are read from an
object, whose members may come in any order and among others that are skipped, or from a list with
the members in their declared order. A variant without data is read from its name.
-/

namespace GpuCompute.Json

open GpuCompute.Binary

/-- A reader takes the characters still to be read and returns a value with those left. -/
abbrev Reader (α : Type) := List Char → Except ReadError (α × List Char)

/-! ## Scalars -/

/-- The fault of the value at the start of a text, which is not of the expected type. -/
def wrongValue (expected : String) (s : List Char) : ReadError :=
  let report : Except ReadError Found → ReadError := fun found =>
    match found with
    | .ok found => .wrongType found expected
    | .error e => e
  match s with
  | 'n' :: s => report ((readWord ['u', 'l', 'l'] s).map fun _ => .null)
  | 't' :: s => report ((readWord ['r', 'u', 'e'] s).map fun _ => .boolean true)
  | 'f' :: s => report ((readWord ['a', 'l', 's', 'e'] s).map fun _ => .boolean false)
  | '"' :: s => report ((readString [] s).map fun p => .string (String.ofList p.1))
  | '-' :: s => report ((readNumber true s).map fun p => p.1.found)
  | '[' :: _ => .wrongType .list expected
  | '\x7b' :: _ => .wrongType .object expected
  | s => if startsWithDigit s then report ((readNumber false s).map fun p => p.1.found)
    else .expectedValue

/-- Reads `true` or `false`. -/
def readBool : Reader Bool := fun s =>
  match skipBlank s with
  | [] => .error (.unfinished .value)
  | 't' :: s => (readWord ['r', 'u', 'e'] s).map fun s => (true, s)
  | 'f' :: s => (readWord ['a', 'l', 's', 'e'] s).map fun s => (false, s)
  | s => .error (wrongValue "a boolean" s)

/-- Reads a string. -/
def readText : Reader String := fun s =>
  match skipBlank s with
  | [] => .error (.unfinished .value)
  | '"' :: s => (readString [] s).map fun p => (String.ofList p.1, p.2)
  | s => .error (wrongValue "a string" s)

/-- Reads a number that `accept` takes. -/
def readNumeric {α : Type} (expected : String) (accept : Number → Except ReadError α) :
    Reader α := fun s =>
  let finish : Except ReadError (Number × List Char) → Except ReadError (α × List Char) :=
    fun result => do
      let (n, s) ← result
      let a ← accept n
      return (a, s)
  match skipBlank s with
  | [] => .error (.unfinished .value)
  | '-' :: s => finish (readNumber true s)
  | s => if startsWithDigit s then finish (readNumber false s)
    else .error (wrongValue expected s)

/-- The natural number that a number is, if it is less than `limit`. -/
def Number.below (limit : Nat) (expected : String) (n : Number) : Except ReadError Nat :=
  match n with
  | .natural k => if k < limit then .ok k else .error (.wrongInteger k expected)
  | .negative k => .error (.wrongInteger (-k) expected)
  | n => .error (.wrongType n.found expected)

/-- Reads an integer of 32 bits without sign. -/
def readUInt32 : Reader UInt32 :=
  readNumeric "u32" fun n => (n.below UInt32.size "u32").map UInt32.ofNat

/-- Reads an integer of 64 bits without sign. -/
def readUInt64 : Reader UInt64 :=
  readNumeric "usize" fun n => (n.below UInt64.size "usize").map UInt64.ofNat

/-- The bits of the 32-bit float nearest to a number. -/
def Number.toSingle (n : Number) : UInt32 :=
  match n with
  | .natural k => UInt32.ofNat (single.round k 1)
  | .negative k => UInt32.ofNat (single.signWeight + single.round k 1)
  | .real minus code =>
    let size := single.ofScaled (double.value code)
    UInt32.ofNat (if minus then single.signWeight + size else size)

/-- Reads a float of 32 bits. -/
def readSingle : Reader UInt32 := readNumeric "f32" fun n => .ok n.toSingle

/-- Reads `null`. -/
def readNull : Reader Unit := fun s =>
  match skipBlank s with
  | [] => .error (.unfinished .value)
  | 'n' :: s => (readWord ['u', 'l', 'l'] s).map fun s => ((), s)
  | s => .error (wrongValue "unit" s)

/-! ## Lists -/

/-- Moves to the next element of a list, or tells that the list ends here. -/
def nextElement (first : Bool) (s : List Char) : Except ReadError (Option (List Char)) :=
  match skipBlank s with
  | [] => .error (.unfinished .list)
  | c :: r =>
    if c = ']' then .ok none
    else if first then .ok (some (c :: r))
    else if c = ',' then
      match skipBlank r with
      | [] => .error (.unfinished .value)
      | d :: t => if d = ']' then .error .trailingComma else .ok (some (d :: t))
    else .error .expectedListEnd

/-- Reads the end of a list. -/
def endList (s : List Char) : Except ReadError (List Char) :=
  match skipBlank s with
  | [] => .error (.unfinished .list)
  | c :: r =>
    if c = ']' then .ok r
    else if c = ',' then
      match skipBlank r with
      | ']' :: _ => .error .trailingComma
      | _ => .error .trailingCharacters
    else .error .trailingCharacters

/-- Reads at most `count` elements up to the end of a list. -/
def readElements {α : Type} (item : Reader α) :
    (count : Nat) → (first : Bool) → List Char → Except ReadError (List α × List Char)
  | 0, _, _ => .error (.unfinished .list)
  | count + 1, first, s => do
    match ← nextElement first s with
    | none => return ([], s)
    | some s =>
      let (a, s) ← item s
      let (as, s) ← readElements item count false s
      return (a :: as, s)

/-- Reads a list. Its elements are fewer than its characters. -/
def readList {α : Type} (item : Reader α) : Reader (List α) := fun s =>
  match skipBlank s with
  | [] => .error (.unfinished .value)
  | '[' :: s => do
    let (as, s) ← readElements item (s.length + 1) true s
    let s ← endList s
    return (as, s)
  | s => .error (wrongValue "a sequence" s)

/-- Reads a list of `n` elements; `index` of them were read before. -/
def readExactly {α : Type} (item : Reader α) (expected : String) :
    (n index : Nat) → List Char → Except ReadError (List α × List Char)
  | 0, _, s => .ok ([], s)
  | n + 1, index, s => do
    match ← nextElement (index == 0) s with
    | none => .error (.wrongLength index expected)
    | some s =>
      let (a, s) ← item s
      let (as, s) ← readExactly item expected n (index + 1) s
      return (a :: as, s)

/-- Reads a list of exactly `n` elements. -/
def readArray {α : Type} (item : Reader α) (n : Nat) : Reader (List α) := fun s =>
  let expected := s!"an array of length {n}"
  match skipBlank s with
  | [] => .error (.unfinished .value)
  | '[' :: s => do
    let (as, s) ← readExactly item expected n 0 s
    let s ← endList s
    return (as, s)
  | s => .error (wrongValue expected s)

/-! ## Records -/

/-- A member of a record that is being read into a `σ`. -/
structure Member (σ : Type) where
  name : String
  /-- Whether the member was read before. -/
  isGiven : σ → Bool
  /-- Reads the member's value into the record. -/
  read : σ → Reader σ

/-- How a record is read. -/
structure RecordShape (σ : Type) where
  name : String
  members : List (Member σ)
  /-- The record before anything is read. -/
  start : σ
  /-- Whether a list may end before the last member. -/
  mayEndEarly : Bool

/-- Moves past the opening quote of the next member's name, or tells that the object ends here. -/
def nextKey (first : Bool) (s : List Char) : Except ReadError (Option (List Char)) :=
  let key : List Char → Except ReadError (Option (List Char)) := fun s =>
    match s with
    | '"' :: s => .ok (some s)
    | _ => .error .keyNotString
  match skipBlank s with
  | [] => .error (.unfinished .object)
  | c :: r =>
    if c = '\x7d' then .ok none
    else if first then key (c :: r)
    else if c = ',' then
      match skipBlank r with
      | [] => .error (.unfinished .value)
      | d :: t => if d = '\x7d' then .error .trailingComma else key (d :: t)
    else .error .expectedObjectEnd

/-- Reads the colon after a member's name. -/
def readColon (s : List Char) : Except ReadError (List Char) :=
  match skipBlank s with
  | [] => .error (.unfinished .object)
  | c :: s => if c = ':' then .ok s else .error .expectedColon

/-- Reads the end of an object. -/
def endObject (s : List Char) : Except ReadError (List Char) :=
  match skipBlank s with
  | [] => .error (.unfinished .object)
  | c :: s =>
    if c = '\x7d' then .ok s
    else if c = ',' then .error .trailingComma
    else .error .trailingCharacters

/-- Reads a member of which the name was read: into the record if it has such a member, which must
not have been read before. -/
def readMember {σ : Type} (members : List (Member σ)) (name : String) (record : σ) : Reader σ :=
  fun s =>
    match members.find? (·.name == name) with
    | some m =>
      if m.isGiven record then .error (.duplicateMember name)
      else do
        let s ← readColon s
        m.read record s
    | none => do
      let s ← readColon s
      let s ← skipValue s
      return (record, s)

/-- Reads at most `count` members up to the end of an object. -/
def readMembers {σ : Type} (members : List (Member σ)) :
    (count : Nat) → (first : Bool) → σ → Reader σ
  | 0, _, _, _ => .error (.unfinished .object)
  | count + 1, first, record, s => do
    match ← nextKey first s with
    | none => return (record, s)
    | some s =>
      let (name, s) ← readString [] s
      let (record, s) ← readMember members (String.ofList name) record s
      readMembers members count false record s

/-- Reads members from a list, in order; `index` of them were read before. -/
def readPositional {σ : Type} (shape : RecordShape σ) :
    List (Member σ) → (index : Nat) → σ → Reader σ
  | [], _, record, s => .ok (record, s)
  | m :: members, index, record, s => do
    match ← nextElement (index == 0) s with
    | none =>
      if shape.mayEndEarly then return (record, s)
      else
        .error (.wrongLength index s!"struct {shape.name} with {shape.members.length} elements")
    | some s =>
      let (record, s) ← m.read record s
      readPositional shape members (index + 1) record s

/-- Reads a record from an object or a list. -/
def readRecord {σ : Type} (shape : RecordShape σ) : Reader σ := fun s =>
  match skipBlank s with
  | [] => .error (.unfinished .value)
  | '[' :: s => do
    let (record, s) ← readPositional shape shape.members 0 shape.start s
    let s ← endList s
    return (record, s)
  | '\x7b' :: s => do
    let (record, s) ← readMembers shape.members (s.length + 1) true shape.start s
    let s ← endObject s
    return (record, s)
  | s => .error (wrongValue ("struct " ++ shape.name) s)

/-- The value of a member that a complete record must have. -/
def require {α : Type} (name : String) : Option α → Except ReadError α
  | some a => .ok a
  | none => .error (.missingMember name)

/-! ## Variants -/

/-- The variant of a name. -/
def variantOf {α : Type} (known : List (String × α)) (name : String) : Except ReadError α :=
  match known.find? (·.1 == name) with
  | some v => .ok v.2
  | none => .error (.unknownVariant name (known.map (·.1)))

/-- Reads a variant without data: its name, or an object with the name as its only member and the
value `null`. -/
def readVariant {α : Type} (known : List (String × α)) : Reader α := fun s =>
  match skipBlank s with
  | [] => .error (.unfinished .value)
  | '"' :: s => do
    let (name, s) ← readString [] s
    let a ← variantOf known (String.ofList name)
    return (a, s)
  | '\x7b' :: s =>
    match skipBlank s with
    | [] => .error (.unfinished .object)
    | '"' :: s => do
      let (name, s) ← readString [] s
      let a ← variantOf known (String.ofList name)
      let s ← readColon s
      let ((), s) ← readNull s
      match skipBlank s with
      | [] => .error (.unfinished .object)
      | c :: s => if c = '\x7d' then return (a, s) else .error .expectedValue
    | c :: _ => .error (if c = '\x7d' then .expectedValue else .keyNotString)
  | _ => .error .expectedValue

/-! ## Whole texts -/

/-- Reads a text that holds one value and blanks around it. -/
def readAll {α : Type} (reader : Reader α) (text : String) : Except ReadError α := do
  let (a, s) ← reader text.toList
  if (skipBlank s).isEmpty then return a else .error .trailingCharacters

end GpuCompute.Json
