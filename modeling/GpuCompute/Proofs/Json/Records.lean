import GpuCompute.Proofs.Json.Reading

/-!
# Reading records

A record is read from a list of the values of its first members (`Fills`), or from an object, whose
members come in any order and among others that are skipped (`Gathers`). `readRecord_list` and
`readRecord_object` say what the record is afterwards.
-/

namespace GpuCompute.Json

variable {σ : Type} {b r s t u v rest : List Char} {items : List (List Char)}
variable {members : List (Member σ)} {shape : RecordShape σ} {record record' : σ}

/-! ## Lists of values -/

/-- The values of the first members of a record, with the record before and after they are read. -/
inductive Fills : List (Member σ) → List (List Char) → σ → σ → Prop
  | nil {members : List (Member σ)} {record : σ} : Fills members [] record record
  | cons {m : Member σ} {members : List (Member σ)} {v : List Char} {vs : List (List Char)}
    {record record' record'' : σ} (first : Reads (m.read record) record' v)
    (rest : Fills members vs record' record'') : Fills (m :: members) (v :: vs) record record''

theorem Fills.opens (h : Fills members items record record') : ∀ v ∈ items, Opens v := by
  induction h with
  | nil => exact List.forall_mem_nil _
  | cons first _ ih => exact List.forall_mem_cons.2 ⟨first.opens, ih⟩

theorem readPositional_cons {m : Member σ} {index : Nat}
    (next : nextElement (index == 0) s = .ok (some r)) (h : m.read record r = .ok (record', t)) :
    readPositional shape (m :: members) index record s =
      readPositional shape members (index + 1) record' t := by
  simp only [readPositional, next, h, bind, Except.bind]

/-- A list may end after any member. -/
theorem readPositional_close (early : shape.mayEndEarly = true) (hb : Blanks b) (index : Nat)
    (rest : List Char) :
    readPositional shape members index record (b ++ ']' :: rest) =
      .ok (record, b ++ ']' :: rest) := by
  cases members with
  | nil => rfl
  | cons m members =>
    simp only [readPositional, nextElement_close _ hb, bind, Except.bind]
    exact if_pos early

theorem readPositional_separated {index : Nat} (early : shape.mayEndEarly = true)
    (layout : Separated items t) (h : Fills members items record record')
    (next : nextElement (index == 0) s = nextElement true (t ++ ']' :: rest)) :
    ∃ b, Blanks b ∧
      readPositional shape members index record s = .ok (record', b ++ ']' :: rest) := by
  induction layout generalizing members record index s with
  | @last b v b' before after =>
    obtain _ | @⟨m, members, _, _, _, _, _, first, ⟨⟩⟩ := h
    have read := first.reads .nil ((Ends.of_close .list rest).append after)
    rw [List.append_assoc, List.append_assoc, nextElement_first before first.opens] at next
    exact ⟨b', after, (readPositional_cons next read).trans (readPositional_close early after _ _)⟩
  | @cons b v b' t items before after layout ih =>
    obtain _ | @⟨m, members, _, _, _, _, _, first, others⟩ := h
    obtain ⟨r, hr⟩ := layout.nextElement_eq others.opens (']' :: rest)
    have comma : nextElement (index + 1 == 0) (b' ++ ',' :: (t ++ ']' :: rest)) =
        nextElement true (t ++ ']' :: rest) := (nextElement_comma after hr).trans hr.symm
    obtain ⟨b₁, h₁, read'⟩ := ih others comma
    have read := first.reads .nil ((Ends.of_comma (t ++ ']' :: rest)).append after)
    rw [List.append_assoc, List.append_assoc, List.append_assoc, List.cons_append,
      nextElement_first before first.opens] at next
    exact ⟨b₁, h₁, (readPositional_cons next read).trans read'⟩

theorem readRecord_bracket (h : skipBlank s = '[' :: r) :
    readRecord shape s = (readPositional shape shape.members 0 shape.start r).bind fun p =>
      (endList p.2).map fun s => (p.1, s) := by
  simp only [readRecord, h]
  rfl

/-- A record is read from a list of the values of its first members. -/
theorem readRecord_list (early : shape.mayEndEarly = true) (layout : Frame.list.Encloses items v)
    (h : Fills shape.members items shape.start record) (hb : Blanks b) (rest : List Char) :
    readRecord shape (b ++ (v ++ rest)) = .ok (record, rest) := by
  obtain ⟨t, enclosed, rfl⟩ := layout
  obtain ⟨b', h', read⟩ : ∃ b, Blanks b ∧
      readPositional shape shape.members 0 shape.start (t ++ ']' :: rest) =
        .ok (record, b ++ ']' :: rest) := by
    cases enclosed with
    | none ht =>
      generalize shape.members = members at h ⊢
      cases h
      exact ⟨t, ht, readPositional_close early ht 0 rest⟩
    | some layout => exact readPositional_separated early layout h rfl
  rw [List.cons_append, List.append_assoc]
  refine (readRecord_bracket (skipBlank_append_cons hb rfl _)).trans ?_
  change (readPositional shape shape.members 0 shape.start (t ++ ']' :: rest)).bind _ = _
  rw [read, Except.bind, endList_append h']
  rfl

/-! ## Objects -/

/-- A member of an object, with the record before and after it is read: a known member that was not
read before, or a member with another name. -/
inductive Takes (members : List (Member σ)) : List Char → σ → σ → Prop
  | known {m : Member σ} {name : String} {spelling value item : List Char} {record record' : σ}
    (spelled : Spells spelling name.toList) (found : members.find? (·.name == name) = some m)
    (new : m.isGiven record = false) (read : Reads (m.read record) record' value)
    (layout : IsMember spelling value item) : Takes members item record record'
  | unknown {name : String} {spelling value item : List Char} {record : σ}
    (spelled : Spells spelling name.toList) (missing : members.find? (·.name == name) = none)
    (hvalue : IsValue value) (layout : IsMember spelling value item) :
    Takes members item record record

/-- The members of an object, with the record before and after they are read. -/
inductive Gathers (members : List (Member σ)) : List (List Char) → σ → σ → Prop
  | nil {record : σ} : Gathers members [] record record
  | cons {item : List Char} {items : List (List Char)} {record record' record'' : σ}
    (first : Takes members item record record') (rest : Gathers members items record' record'') :
    Gathers members (item :: items) record record''

theorem readColon_append (hb : Blanks b) (s : List Char) : readColon (b ++ ':' :: s) = .ok s := by
  have found : skipBlank (b ++ ':' :: s) = ':' :: s := skipBlank_append_cons hb rfl s
  simp only [readColon, found, if_true]

/-- A member is read from the first character of its name to the last of its value. -/
theorem Takes.readString_readMember {item : List Char} (h : Takes members item record record')
    (ends : Ends rest) :
    ∃ s name u, item ++ rest = '"' :: s ∧ readString [] s = .ok (name, u) ∧
      readMember members (String.ofList name) record u = .ok (record', rest) := by
  cases h with
  | @known m name spelling value _ _ _ spelled found new read layout =>
    obtain ⟨b, b', hb, hb', rfl⟩ := layout
    simp only [List.cons_append, List.append_assoc]
    refine ⟨_, name.toList, _, rfl, readString_append spelled [] _, ?_⟩
    simp only [String.ofList_toList, readMember, found, new, Bool.false_eq_true, if_false,
      readColon_append hb, bind, Except.bind]
    exact read.reads hb' ends
  | @unknown name spelling value _ _ spelled missing hvalue layout =>
    obtain ⟨b, b', hb, hb', rfl⟩ := layout
    simp only [List.cons_append, List.append_assoc]
    refine ⟨_, name.toList, _, rfl, readString_append spelled [] _, ?_⟩
    simp only [String.ofList_toList, readMember, missing, readColon_append hb,
      skipValue_append hb' hvalue ends, bind, Except.bind]
    rfl

theorem nextKey_first (h : skipBlank s = '"' :: r) : nextKey true s = .ok (some r) := by
  simp only [nextKey, h]
  rfl

theorem nextKey_comma (hb : Blanks b) (h : skipBlank s = '"' :: r) :
    nextKey false (b ++ ',' :: s) = .ok (some r) := by
  have found : skipBlank (b ++ ',' :: s) = ',' :: s := skipBlank_append_cons hb rfl s
  simp only [nextKey, found, h]
  rfl

theorem nextKey_close (first : Bool) (hb : Blanks b) (s : List Char) :
    nextKey first (b ++ '\x7d' :: s) = .ok none := by
  have found : skipBlank (b ++ '\x7d' :: s) = '\x7d' :: s := skipBlank_append_cons hb rfl s
  simp only [nextKey, found, if_true]

theorem readMembers_cons {first : Bool} {n : Nat} {name : List Char}
    (next : nextKey first s = .ok (some r)) (key : readString [] r = .ok (name, t))
    (h : readMember members (String.ofList name) record t = .ok (record', u)) :
    readMembers members (n + 1) first record s = readMembers members n false record' u := by
  simp only [readMembers, next, key, h, bind, Except.bind]

theorem readMembers_close {first : Bool} {n : Nat} (hb : Blanks b) (rest : List Char) :
    readMembers members (n + 1) first record (b ++ '\x7d' :: rest) =
      .ok (record, b ++ '\x7d' :: rest) := by
  simp only [readMembers, nextKey_close first hb, bind, Except.bind]
  rfl

/-- A member starts with the quote of its name. -/
theorem Gathers.exists_quote {item : List Char} (h : Gathers members items record record')
    (hitem : item ∈ items) : ∃ s, item = '"' :: s := by
  induction h with
  | nil => cases hitem
  | cons first _ ih =>
    cases hitem with
    | head => cases first with
      | known _ _ _ _ layout | unknown _ _ _ layout =>
        obtain ⟨b, b', -, -, rfl⟩ := layout
        exact ⟨_, rfl⟩
    | tail _ hitem => exact ih hitem

theorem Separated.skipBlank_eq (layout : Separated items t) (h : ∀ item ∈ items, ∃ s, item = '"' :: s)
    (s : List Char) : ∃ r, skipBlank (t ++ s) = '"' :: r := by
  obtain ⟨b, item, u, hb, first, rfl, -⟩ := layout.exists_head
  obtain ⟨s', rfl⟩ := h item (List.mem_of_mem_head? first)
  rw [List.append_assoc]
  exact ⟨_, skipBlank_append_cons hb rfl _⟩

/-- The members are read up to the end of the object, which is left. -/
theorem readMembers_separated {count : Nat} {first : Bool} (layout : Separated items t)
    (h : Gathers members items record record') (enough : items.length < count)
    (next : nextKey first s = nextKey true (t ++ '\x7d' :: rest)) :
    ∃ b, Blanks b ∧
      readMembers members count first record s = .ok (record', b ++ '\x7d' :: rest) := by
  induction layout generalizing record count first s with
  | @last b v b' before after =>
    obtain _ | ⟨takes, ⟨⟩⟩ := h
    obtain ⟨n, rfl⟩ : ∃ n, count = n + 2 := by
      rw [List.length_singleton] at enough
      exact ⟨count - 2, by omega⟩
    have ends : Ends ('\x7d' :: rest) := .of_close .object rest
    obtain ⟨u, name, w, quote, key, read⟩ := takes.readString_readMember (ends.append after)
    rw [List.append_assoc, List.append_assoc, quote] at next
    have key₁ := next.trans (nextKey_first (skipBlank_append_cons before rfl u))
    exact ⟨b', after, (readMembers_cons key₁ key read).trans (readMembers_close after rest)⟩
  | @cons b v b' t items before after layout ih =>
    obtain _ | ⟨takes, others⟩ := h
    obtain ⟨n, rfl⟩ : ∃ n, count = n + 1 := by
      rw [List.length_cons] at enough
      exact ⟨count - 1, by omega⟩
    obtain ⟨r, hr⟩ := layout.skipBlank_eq (fun _ => others.exists_quote) ('\x7d' :: rest)
    obtain ⟨b₁, h₁, read'⟩ := ih others (Nat.lt_of_succ_lt_succ enough)
      ((nextKey_comma after hr).trans (nextKey_first hr).symm)
    obtain ⟨u, name, w, quote, key, read⟩ :=
      takes.readString_readMember ((Ends.of_comma (t ++ '\x7d' :: rest)).append after)
    rw [List.append_assoc, List.append_assoc, List.append_assoc, List.cons_append, quote] at next
    have key₁ := next.trans (nextKey_first (skipBlank_append_cons before rfl u))
    exact ⟨b₁, h₁, (readMembers_cons key₁ key read).trans read'⟩

theorem endObject_append (hb : Blanks b) (rest : List Char) :
    endObject (b ++ '\x7d' :: rest) = .ok rest := by
  have found : skipBlank (b ++ '\x7d' :: rest) = '\x7d' :: rest := skipBlank_append_cons hb rfl rest
  simp only [endObject, found, if_true]

theorem readRecord_brace (h : skipBlank s = '\x7b' :: r) :
    readRecord shape s =
      (readMembers shape.members (r.length + 1) true shape.start r).bind fun p =>
        (endObject p.2).map fun s => (p.1, s) := by
  simp only [readRecord, h]
  rfl

/-- A record is read from an object with its members in any order. -/
theorem readRecord_object (layout : Frame.object.Encloses items v)
    (h : Gathers shape.members items shape.start record) (hb : Blanks b) (rest : List Char) :
    readRecord shape (b ++ (v ++ rest)) = .ok (record, rest) := by
  obtain ⟨t, enclosed, rfl⟩ := layout
  obtain ⟨b', h', read⟩ : ∃ b, Blanks b ∧
      readMembers shape.members ((t ++ '\x7d' :: rest).length + 1) true shape.start
        (t ++ '\x7d' :: rest) = .ok (record, b ++ '\x7d' :: rest) := by
    cases enclosed with
    | none ht =>
      cases h
      exact ⟨t, ht, readMembers_close ht rest⟩
    | some layout =>
      refine readMembers_separated layout h ?_ rfl
      have := layout.length_le
      simp only [List.length_append, List.length_cons]
      omega
  rw [List.cons_append, List.append_assoc]
  refine (readRecord_brace (skipBlank_append_cons hb rfl _)).trans ?_
  change (readMembers shape.members ((t ++ '\x7d' :: rest).length + 1) true shape.start
    (t ++ '\x7d' :: rest)).bind _ = _
  rw [read, Except.bind, endObject_append h']
  rfl

/-! ## Whole texts -/

/-- A text that holds one value is read with blanks around the value. -/
theorem readAll_append {α : Type} (reader : Reader α) {a : α}
    (h : ∀ rest, reader (b ++ (v ++ rest)) = .ok (a, rest)) {b' : List Char} (hb' : Blanks b') :
    readAll reader (String.ofList (b ++ (v ++ b'))) = .ok a := by
  have ended : skipBlank b' = [] := by
    rw [← List.append_nil b', skipBlank_append hb']
    rfl
  rw [readAll, String.toList_ofList, h]
  simp only [bind, Except.bind, ended, List.isEmpty_nil, if_true]
  rfl

end GpuCompute.Json
