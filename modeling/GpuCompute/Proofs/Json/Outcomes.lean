import GpuCompute.Proofs.Json.Records
import GpuCompute.Proofs.Json.Spans

/-!
# Outcomes of reading records

What every member that is read keeps holds of the record that is read (`readRecord_induction`). An
object whose last member is refused is refused for the same reason (`readRecord_refused`).
-/

namespace GpuCompute.Json

variable {σ : Type} {b r s t u v w rest : List Char} {item : List Char} {items : List (List Char)}
variable {members : List (Member σ)} {shape : RecordShape σ} {record record' : σ} {e : ReadError}

/-! ## Records that are read -/

/-- What holds of a record and is kept by every member that is read. -/
structure Keeps (P : σ → Prop) (members : List (Member σ)) : Prop where
  read : ∀ m ∈ members, ∀ {record record' s r}, P record → m.read record s = .ok (record', r) →
    P record'

variable {P : σ → Prop}

theorem readMember_induction (keeps : Keeps P members) (start : P record) {name : String}
    (h : readMember members name record s = .ok (record', r)) : P record' := by
  unfold readMember at h
  split at h
  · next m found =>
    split at h
    · cases h
    · obtain ⟨u, -, h⟩ := exists_of_bind_ok h
      exact keeps.read m (List.mem_of_find?_eq_some found) start h
  · obtain ⟨u, -, h⟩ := exists_of_bind_ok h
    obtain ⟨v, -, h⟩ := exists_of_bind_ok h
    cases h
    exact start

theorem readMembers_induction (keeps : Keeps P members) (start : P record) {count : Nat}
    {first : Bool} (h : readMembers members count first record s = .ok (record', r)) :
    P record' := by
  induction count generalizing first record s with
  | zero => cases h
  | succ n ih =>
    obtain ⟨next, -, h⟩ := exists_of_bind_ok h
    cases next with
    | none =>
      cases h
      exact start
    | some u =>
      obtain ⟨⟨name, v⟩, -, h⟩ := exists_of_bind_ok h
      obtain ⟨⟨record₁, w⟩, read, h⟩ := exists_of_bind_ok h
      exact ih (readMember_induction keeps start read) h

theorem readPositional_induction (keeps : Keeps P members) (start : P record) {index : Nat}
    (h : readPositional shape members index record s = .ok (record', r)) : P record' := by
  induction members generalizing index record s with
  | nil =>
    cases h
    exact start
  | cons m members ih =>
    obtain ⟨next, -, h⟩ := exists_of_bind_ok h
    cases next with
    | none =>
      dsimp only at h
      split at h
      · cases h
        exact start
      · cases h
    | some u =>
      obtain ⟨⟨record₁, w⟩, read, h⟩ := exists_of_bind_ok h
      exact ih ⟨fun m hm => keeps.read m (.tail _ hm)⟩
        (keeps.read m List.mem_cons_self start read) h

/-- What holds at the start and is kept by every member holds of the record that is read. -/
theorem readRecord_induction (keeps : Keeps P shape.members) (start : P shape.start)
    (h : readRecord shape s = .ok (record, r)) : P record := by
  unfold readRecord at h
  split at h
  · cases h
  · obtain ⟨⟨record₁, u⟩, read, h⟩ := exists_of_bind_ok h
    obtain ⟨v, -, h⟩ := exists_of_bind_ok h
    cases h
    exact readPositional_induction keeps start read
  · obtain ⟨⟨record₁, u⟩, read, h⟩ := exists_of_bind_ok h
    obtain ⟨v, -, h⟩ := exists_of_bind_ok h
    cases h
    exact readMembers_induction keeps start read
  · cases h

/-! ## Records that are refused -/

theorem Gathers.append {items' : List (List Char)} {record'' : σ}
    (h : Gathers members items record record') (h' : Gathers members items' record' record'') :
    Gathers members (items ++ items') record record'' := by
  induction h with
  | nil => exact h'
  | cons first _ ih => exact .cons first (ih h')

/-- A member of an object that is refused when it is read. -/
def Refuses (members : List (Member σ)) (item : List Char) (record : σ) (e : ReadError) : Prop :=
  ∀ rest, Ends rest → ∃ s name u, item ++ rest = '"' :: s ∧ readString [] s = .ok (name, u) ∧
    readMember members (String.ofList name) record u = .error e

theorem readMembers_error {first : Bool} {n : Nat} {name : List Char}
    (next : nextKey first s = .ok (some r)) (key : readString [] r = .ok (name, t))
    (h : readMember members (String.ofList name) record t = .error e) :
    readMembers members (n + 1) first record s = .error e := by
  simp only [readMembers, next, key, h, bind, Except.bind]

theorem Refuses.exists_quote (h : Refuses members item record e) : ∃ s, item = '"' :: s := by
  obtain ⟨s, -, -, quote, -⟩ := h [] (fun _ hc => by cases hc)
  exact ⟨s, by rwa [List.append_nil] at quote⟩

/-- The members before the last one are read, and then the last one is refused. -/
theorem readMembers_refused {count : Nat} {first : Bool} (layout : Separated (items ++ [item]) t)
    (h : Gathers members items record record') (refuses : Refuses members item record' e)
    (enough : items.length < count) (next : nextKey first s = nextKey true (t ++ '\x7d' :: rest)) :
    readMembers members count first record s = .error e := by
  obtain ⟨n, rfl⟩ : ∃ n, count = n + 1 := ⟨count - 1, by omega⟩
  induction h generalizing n first s t with
  | nil =>
    cases layout with
    | @last b v b' before after =>
      have ends : Ends ('\x7d' :: rest) := .of_close .object rest
      obtain ⟨u, name, w, quote, key, read⟩ := refuses _ (ends.append after)
      rw [List.append_assoc, List.append_assoc, quote] at next
      have key₁ := next.trans (nextKey_first (skipBlank_append_cons before rfl u))
      exact readMembers_error key₁ key read
    | cons _ _ layout => cases layout
  | @cons first items _ _ _ takes others ih =>
    rw [List.cons_append] at layout
    generalize hall : items ++ [item] = all at layout
    cases layout with
    | last => cases items <;> cases hall
    | @cons b v b' t _ before after layout =>
      subst hall
      obtain ⟨n, rfl⟩ : ∃ k, n = k + 1 := by
        rw [List.length_cons] at enough
        exact ⟨n - 1, by omega⟩
      have quoted : ∀ i ∈ items ++ [item], ∃ s, i = '"' :: s := fun i hi => by
        obtain hi | hi := List.mem_append.1 hi
        · exact others.exists_quote hi
        · rw [List.mem_singleton.1 hi]
          exact refuses.exists_quote
      obtain ⟨r, hr⟩ := layout.skipBlank_eq quoted ('\x7d' :: rest)
      obtain ⟨u, name, w, quote, key, read⟩ :=
        takes.readString_readMember ((Ends.of_comma (t ++ '\x7d' :: rest)).append after)
      rw [List.append_assoc, List.append_assoc, List.append_assoc, List.cons_append, quote] at next
      have key₁ := next.trans (nextKey_first (skipBlank_append_cons before rfl u))
      rw [readMembers_cons key₁ key read]
      exact ih layout refuses ((nextKey_comma after hr).trans (nextKey_first hr).symm) n
        (Nat.lt_of_succ_lt_succ enough)

/-- An object is refused for the same reason as its last member. -/
theorem readRecord_refused (layout : Frame.object.Encloses (items ++ [item]) v)
    (h : Gathers shape.members items shape.start record)
    (refuses : Refuses shape.members item record e) (hb : Blanks b) (rest : List Char) :
    readRecord shape (b ++ (v ++ rest)) = .error e := by
  obtain ⟨t, enclosed, rfl⟩ := layout
  have layout : Separated (items ++ [item]) t := by
    generalize hall : items ++ [item] = all at enclosed
    cases enclosed with
    | none => cases items <;> cases hall
    | some layout => exact layout
  have length := layout.length_le
  rw [List.length_append, List.length_singleton] at length
  have enough : items.length < (t ++ '\x7d' :: rest).length + 1 := by
    simp only [List.length_append, List.length_cons]
    omega
  have read : readMembers shape.members ((t ++ '\x7d' :: rest).length + 1) true shape.start
      (t ++ '\x7d' :: rest) = .error e := readMembers_refused layout h refuses enough rfl
  rw [List.cons_append, List.append_assoc]
  refine (readRecord_brace (skipBlank_append_cons hb rfl _)).trans ?_
  change (readMembers shape.members ((t ++ '\x7d' :: rest).length + 1) true shape.start
    (t ++ '\x7d' :: rest)).bind _ = _
  rw [read, Except.bind]

end GpuCompute.Json
