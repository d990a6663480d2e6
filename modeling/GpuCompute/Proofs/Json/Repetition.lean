import GpuCompute.Proofs.Json.Records
import GpuCompute.Proofs.Json.Spans

/-!
# Members that are named twice

A record remembers which of its members were read (`Tracked`). So an object from which a record is
read names none of them twice, however the names are spelled (`distinct_of_readRecord`).
-/

namespace GpuCompute.Json

variable {σ : Type} {b r s t u v w : List Char} {value item : List Char}
variable {members : List (Member σ)} {shape : RecordShape σ} {record record' : σ}

/-- The item of an object has this name, spelled in some way. -/
def Names (item : List Char) (name : String) : Prop :=
  ∃ spelling value, Spells spelling name.toList ∧ IsMember spelling value item

/-- Reading a member takes one value, after which the member is given like those before it. -/
structure Tracked (members : List (Member σ)) : Prop where
  spans : ∀ m ∈ members, ∀ record, Spans (m.read record)
  given : ∀ m ∈ members, ∀ {record record' s r}, m.read record s = .ok (record', r) →
    m.isGiven record' = true
  keeps : ∀ m ∈ members, ∀ {record record' s r}, m.read record s = .ok (record', r) →
    ∀ m' ∈ members, m'.isGiven record = true → m'.isGiven record' = true

/-- A name is read as what it stands for. -/
theorem Names.eq_of_readString {name : String} {k : List Char} (h : Names item name)
    (quote : item ++ v = '"' :: u) (key : readString [] u = .ok (k, w)) :
    String.ofList k = name := by
  obtain ⟨spelling, value, spells, b, b', -, -, rfl⟩ := h
  rw [List.cons_append, List.append_assoc, List.cons_append] at quote
  cases quote
  rw [readString_append spells] at key
  cases key
  exact String.ofList_toList

/-- A member that is read is read to the end of its value, and was not read before. -/
theorem readMember_spec (tracked : Tracked members) (holds : Frame.object.Holds value item)
    (hvalue : IsValue value) (ends : Ends v) {k : List Char} {name : String}
    (quote : item ++ v = '"' :: u) (key : readString [] u = .ok (k, w))
    (read : readMember members name record w = .ok (record', r)) :
    r = v ∧
      (∀ m, members.find? (·.name == name) = some m →
        m.isGiven record = false ∧ m.isGiven record' = true) ∧
      ∀ m ∈ members, m.isGiven record = true → m.isGiven record' = true := by
  obtain ⟨spelling, quotable, b, b', hb, hb', rfl⟩ := holds
  simp only [List.cons_append, List.append_assoc] at quote
  cases quote
  have skipped := (skipString_of_readString key).symm.trans (skipString_quotable quotable _)
  cases skipped
  unfold readMember at read
  rw [readColon_append hb] at read
  split at read
  · next m found =>
    have mem := List.mem_of_find?_eq_some found
    split at read
    · cases read
    next new =>
    change m.read record _ = _ at read
    refine ⟨(tracked.spans m mem record).rest_eq hb' hvalue ends read, fun m' found' => ?_,
      tracked.keeps m mem read⟩
    cases found.symm.trans found'
    exact ⟨Bool.eq_false_iff.2 new, tracked.given m mem read⟩
  · next missing =>
    obtain ⟨_, ⟨⟩, read⟩ := exists_of_bind_ok read
    obtain ⟨r', skipped, same⟩ := exists_of_bind_ok read
    cases same
    rw [skipValue_append hb' hvalue ends] at skipped
    cases skipped
    exact ⟨rfl, fun m found => (by cases missing.symm.trans found), fun _ _ given => given⟩

theorem exists_of_readMembers {count : Nat} {first : Bool} {p : σ × List Char}
    (next : nextKey first s = .ok (some u)) (h : readMembers members count first record s = .ok p) :
    ∃ n k w record' r, readString [] u = .ok (k, w) ∧
      readMember members (String.ofList k) record w = .ok (record', r) ∧
      readMembers members n false record' r = .ok p := by
  cases count with
  | zero => cases h
  | succ n =>
    obtain ⟨_, next', h⟩ := exists_of_bind_ok h
    cases next.symm.trans next'
    obtain ⟨⟨k, w⟩, key, h⟩ := exists_of_bind_ok h
    obtain ⟨⟨record', r⟩, read, h⟩ := exists_of_bind_ok h
    exact ⟨n, k, w, record', r, key, read, h⟩

/-- After one member of an object that is read, the known member that it names is given. -/
theorem readMembers_step (tracked : Tracked members) (holds : Frame.object.Holds value item)
    (hvalue : IsValue value) (hb : Blanks b) (ends : Ends v) {count : Nat} {first : Bool}
    {p : σ × List Char} (next : nextKey first s = nextKey true (b ++ (item ++ v)))
    (h : readMembers members count first record s = .ok p) :
    ∃ n record', readMembers members n false record' v = .ok p ∧
      (∀ name m, Names item name → members.find? (·.name == name) = some m →
        m.isGiven record = false ∧ m.isGiven record' = true) ∧
      ∀ m ∈ members, m.isGiven record = true → m.isGiven record' = true := by
  obtain ⟨u, quote⟩ : ∃ u, item ++ v = '"' :: u := by
    obtain ⟨_, -, b, b', -, -, rfl⟩ := holds
    exact ⟨_, rfl⟩
  rw [quote, nextKey_first (skipBlank_append_cons hb rfl u)] at next
  obtain ⟨n, k, w, record', r, key, read, others⟩ := exists_of_readMembers next h
  obtain ⟨rfl, known, keeps⟩ := readMember_spec tracked holds hvalue ends quote key read
  refine ⟨n, record', others, fun name m names found => known m ?_, keeps⟩
  rwa [names.eq_of_readString quote key]

/-- Known members that are read from the rest of an object were not read before, and none of them is
named twice. -/
theorem distinct_of_readMembers (tracked : Tracked members) {values items : List (List Char)}
    (layout : Separated items t) (hvalues : ∀ v ∈ values, IsValue v)
    (hitems : List.Forall₂ Frame.object.Holds values items) {count : Nat} {first : Bool}
    {p : σ × List Char} (next : nextKey first s = nextKey true (t ++ '\x7d' :: w))
    (h : readMembers members count first record s = .ok p) :
    (∀ item ∈ items, ∀ name m, Names item name → members.find? (·.name == name) = some m →
        m.isGiven record = false) ∧
      items.Pairwise fun x y => ∀ name, Names x name → Names y name →
        members.find? (·.name == name) = none := by
  induction layout generalizing values record count first s with
  | @last b item b' before after =>
    obtain ⟨value, _, holds, ⟨⟩, rfl⟩ := List.forall₂_cons_right_iff.1 hitems
    have ends : Ends ('\x7d' :: w) := .of_close .object w
    rw [List.append_assoc, List.append_assoc] at next
    obtain ⟨n, record', -, known, -⟩ := readMembers_step tracked holds
      (hvalues value List.mem_cons_self) before (ends.append after) next h
    refine ⟨fun x hx name m names found => ?_, List.pairwise_singleton _ _⟩
    cases List.mem_singleton.1 hx
    exact (known name m names found).1
  | @cons b item b' t items before after layout ih =>
    obtain ⟨value, values, holds, others, rfl⟩ := List.forall₂_cons_right_iff.1 hitems
    rw [List.append_assoc, List.append_assoc, List.append_assoc, List.cons_append] at next
    obtain ⟨n, record', read, known, keeps⟩ := readMembers_step tracked holds
      (hvalues value List.mem_cons_self) before ((Ends.of_comma (t ++ '\x7d' :: w)).append after) next h
    have quoted : ∀ item ∈ items, ∃ s, item = '"' :: s := fun item hitem => by
      obtain ⟨_, -, holds⟩ := exists_left_of_mem others hitem
      obtain ⟨_, -, b, b', -, -, rfl⟩ := holds
      exact ⟨_, rfl⟩
    obtain ⟨r, hr⟩ := layout.skipBlank_eq quoted ('\x7d' :: w)
    obtain ⟨new, distinct⟩ := ih (fun v hv => hvalues v (.tail _ hv)) others
      ((nextKey_comma after hr).trans (nextKey_first hr).symm) read
    refine ⟨List.forall_mem_cons.2 ⟨fun name m names found => (known name m names found).1,
      fun x hx name m names found => ?_⟩, List.pairwise_cons.2 ⟨fun y hy name first second => ?_,
      distinct⟩⟩
    · by_contra given
      have later := keeps m (List.mem_of_find?_eq_some found) (by simpa using given)
      exact Bool.false_ne_true ((new x hx name m names found).symm.trans later)
    · cases found : members.find? (·.name == name) with
      | none => rfl
      | some m =>
        have earlier := (known name m first found).2
        exact absurd ((new y hy name m second found).symm.trans earlier) Bool.false_ne_true

/-- An object from which a record is read names no known member twice. -/
theorem distinct_of_readRecord (tracked : Tracked shape.members) {values items : List (List Char)}
    (hvalues : ∀ v ∈ values, IsValue v) (hitems : List.Forall₂ Frame.object.Holds values items)
    (layout : Frame.object.Encloses items v) (hb : Blanks b) {p : σ × List Char}
    (h : readRecord shape (b ++ (v ++ w)) = .ok p) :
    items.Pairwise fun x y => ∀ name, Names x name → Names y name →
      shape.members.find? (·.name == name) = none := by
  obtain ⟨t, enclosed, rfl⟩ := layout
  cases enclosed with
  | none => exact .nil
  | some layout =>
    rw [List.cons_append, List.append_assoc] at h
    have read := (readRecord_brace (skipBlank_append_cons hb rfl _)).symm.trans h
    obtain ⟨q, read, -⟩ := exists_of_bind_ok read
    exact (distinct_of_readMembers tracked layout hvalues hitems rfl read).2

end GpuCompute.Json
