import GpuCompute.Session

/-!
# Entries under names

A list of entries in which no name stands twice can be taken apart at a name that is in use. What a
session does to such lists is described along this.
-/

namespace GpuCompute.Session

variable {α : Type} {name : String} {a a' : α} {l l₁ l₂ : List (String × α)}

/-- The names of entries. -/
def namesOf (l : List (String × α)) : List String := l.map (·.1)

theorem mem_of_lookup (h : l.lookup name = some a) : (name, a) ∈ l := by
  induction l with
  | nil => cases h
  | cons x l ih =>
    obtain ⟨k, b⟩ := x
    rw [List.lookup_cons] at h
    split at h
    next hk =>
      cases h
      rw [beq_iff_eq.1 hk]
      exact List.mem_cons_self
    next => exact List.mem_cons_of_mem _ (ih h)

theorem lookup_of_mem (nodup : (namesOf l).Nodup) (h : (name, a) ∈ l) : l.lookup name = some a := by
  induction l with
  | nil => cases h
  | cons x l ih =>
    obtain ⟨hx, nodup⟩ := List.nodup_cons.1 nodup
    rw [List.lookup_cons]
    rcases List.mem_cons.1 h with rfl | h
    · simp
    · have hmem : name ∈ namesOf l := List.mem_map_of_mem h
      have hne : name ≠ x.1 := by
        rintro rfl
        exact hx hmem
      rw [beq_false_of_ne hne]
      exact ih nodup h

theorem not_mem_names_of_lookup (h : l.lookup name = none) : name ∉ namesOf l := by
  intro hmem
  obtain ⟨x, hx, rfl⟩ := List.mem_map.1 hmem
  rw [List.lookup_eq_none_iff] at h
  simpa using h x hx

/-- An entry and the others around it. -/
theorem mem_around {β : Type} {b x : β} {l₁ l₂ : List β} (h : x ∈ l₁ ++ b :: l₂) :
    x = b ∨ x ∈ l₁ ++ l₂ := by
  rcases List.mem_append.1 h with h | h
  · exact .inr (List.mem_append_left _ h)
  · rcases List.mem_cons.1 h with rfl | h
    · exact .inl rfl
    · exact .inr (List.mem_append_right _ h)

theorem mem_of_around {β : Type} {b x : β} {l₁ l₂ : List β} (h : x ∈ l₁ ++ l₂) :
    x ∈ l₁ ++ b :: l₂ := by
  rcases List.mem_append.1 h with h | h
  · exact List.mem_append_left _ h
  · exact List.mem_append_right _ (List.mem_cons_of_mem _ h)

/-- An entry that was replaced, and the others. -/
theorem mem_replace {β : Type} {a b x : β} {l₁ l₂ : List β} (h : x ∈ l₁ ++ b :: l₂) :
    x = b ∨ x ∈ l₁ ++ a :: l₂ := (mem_around h).imp_right mem_of_around

theorem mem_of_mem_store {x : String × α} (h : x ∈ store name a l) : x.2 = a ∨ x ∈ l := by
  rcases List.mem_append.1 h with h | h
  · exact .inr (List.mem_filter.1 h).1
  · rw [List.mem_singleton.1 h]
    exact .inl rfl

/-- The list taken apart at a name. -/
structure Splits (name : String) (a : α) (l l₁ l₂ : List (String × α)) : Prop where
  eq : l = l₁ ++ (name, a) :: l₂
  left : name ∉ namesOf l₁
  right : name ∉ namesOf l₂

theorem exists_splits (nodup : (namesOf l).Nodup) (h : l.lookup name = some a) :
    ∃ l₁ l₂, Splits name a l l₁ l₂ := by
  obtain ⟨l₁, l₂, rfl⟩ := List.append_of_mem (mem_of_lookup h)
  refine ⟨l₁, l₂, rfl, ?_, ?_⟩ <;>
    simp only [namesOf, List.map_append, List.map_cons, List.nodup_append, List.nodup_cons] at nodup
  · intro h
    exact nodup.2.2 name h name List.mem_cons_self rfl
  · exact nodup.2.1.1

theorem without_of_not_mem (h : name ∉ namesOf l) : without name l = l := by
  refine List.filter_eq_self.2 fun x hx => ?_
  rw [bne_iff_ne]
  rintro rfl
  exact h (List.mem_map_of_mem hx)

theorem update_of_not_mem (a : α) (h : name ∉ namesOf l) : update name a l = l := by
  refine Eq.trans (List.map_congr_left fun x hx => if_neg ?_) (List.map_id l)
  rintro rfl
  exact h (List.mem_map_of_mem hx)

namespace Splits

theorem without (h : Splits name a l l₁ l₂) : Session.without name l = l₁ ++ l₂ := by
  have h₁ := without_of_not_mem h.left
  have h₂ := without_of_not_mem h.right
  rw [Session.without] at h₁ h₂ ⊢
  rw [h.eq, List.filter_append, h₁, List.filter_cons_of_neg (by simp), h₂]

theorem update (h : Splits name a l l₁ l₂) (a' : α) :
    Session.update name a' l = l₁ ++ (name, a') :: l₂ := by
  have h₁ := update_of_not_mem a' h.left
  have h₂ := update_of_not_mem a' h.right
  rw [Session.update] at h₁ h₂ ⊢
  rw [h.eq, List.map_append, h₁, List.map_cons, h₂, if_pos rfl]

theorem store (h : Splits name a l l₁ l₂) (a' : α) :
    Session.store name a' l = l₁ ++ l₂ ++ [(name, a')] := by
  rw [Session.store, h.without]

end Splits

/-! ## What a name stands for -/

variable {n : String}

theorem lookup_without_of_ne (h : name ≠ n) (l : List (String × α)) :
    (without n l).lookup name = l.lookup name := by
  induction l with
  | nil => rfl
  | cons x l ih =>
    obtain ⟨k, b⟩ := x
    unfold without at ih ⊢
    by_cases hk : k = n
    · rw [List.filter_cons_of_neg (by simp [hk]), ih, List.lookup_cons, beq_false_of_ne (hk ▸ h)]
    · rw [List.filter_cons_of_pos (by simpa using hk), List.lookup_cons, List.lookup_cons, ih]

theorem lookup_without_self (name : String) (l : List (String × α)) :
    (without name l).lookup name = none := by
  refine List.lookup_eq_none_iff.2 fun x hx => ?_
  have hne := (List.mem_filter.1 hx).2
  rw [bne_iff_ne] at hne
  exact bne_iff_ne.2 (Ne.symm hne)

theorem lookup_store_of_ne (h : name ≠ n) (a : α) (l : List (String × α)) :
    (store n a l).lookup name = l.lookup name := by
  rw [store, List.lookup_append, lookup_without_of_ne h, List.lookup_cons, beq_false_of_ne h]
  exact Option.or_none

theorem lookup_store_self (name : String) (a : α) (l : List (String × α)) :
    (store name a l).lookup name = some a := by
  rw [store, List.lookup_append, lookup_without_self, List.lookup_cons, beq_self_eq_true]
  rfl

theorem lookup_update_of_ne (h : name ≠ n) (a : α) (l : List (String × α)) :
    (update n a l).lookup name = l.lookup name := by
  induction l with
  | nil => rfl
  | cons x l ih =>
    obtain ⟨k, b⟩ := x
    unfold update at ih ⊢
    by_cases hk : k = n
    · rw [List.map_cons, if_pos hk, List.lookup_cons, List.lookup_cons, ih, hk, beq_false_of_ne h]
    · rw [List.map_cons, if_neg hk, List.lookup_cons, List.lookup_cons, ih]

theorem lookup_update_self (h : l.lookup name = some a') (a : α) :
    (update name a l).lookup name = some a := by
  induction l with
  | nil => cases h
  | cons x l ih =>
    obtain ⟨k, b⟩ := x
    unfold update at ih ⊢
    rw [List.lookup_cons] at h
    by_cases hk : k = name
    · rw [List.map_cons, if_pos hk, List.lookup_cons, beq_self_eq_true]
    · rw [beq_false_of_ne (Ne.symm hk)] at h
      rw [List.map_cons, if_neg hk, List.lookup_cons, beq_false_of_ne (Ne.symm hk), ih h]

theorem update_self (nodup : (namesOf l).Nodup) (h : l.lookup name = some a) :
    update name a l = l := by
  obtain ⟨l₁, l₂, hl⟩ := exists_splits nodup h
  rw [hl.update, ← hl.eq]

/-! ## Names stay different -/

theorem nodup_without (name : String) (nodup : (namesOf l).Nodup) :
    (namesOf (without name l)).Nodup :=
  nodup.sublist (List.filter_sublist.map _)

theorem nodup_store (name : String) (a : α) (nodup : (namesOf l).Nodup) :
    (namesOf (store name a l)).Nodup := by
  unfold store namesOf
  rw [List.map_append, List.nodup_append]
  refine ⟨nodup_without name nodup, by simp, ?_⟩
  intro k hk k' hk' heq
  obtain ⟨x, hx, rfl⟩ := List.mem_map.1 hk
  have := (List.mem_filter.1 hx).2
  simp_all

theorem namesOf_update (name : String) (a : α) (l : List (String × α)) :
    namesOf (update name a l) = namesOf l := by
  unfold namesOf update
  rw [List.map_map]
  refine List.map_congr_left fun x _ => ?_
  by_cases h : x.1 = name <;> simp [h]

theorem without_update (name : String) (a : α) (l : List (String × α)) :
    without name (update name a l) = without name l := by
  induction l with
  | nil => rfl
  | cons x l ih =>
    unfold without update at ih ⊢
    by_cases h : x.1 = name <;> simp [h, ih]

theorem without_without (name : String) (l : List (String × α)) :
    without name (without name l) = without name l := by
  unfold without
  rw [List.filter_filter]
  simp

theorem without_store (name : String) (a : α) (l : List (String × α)) :
    without name (store name a l) = without name l := by
  have none : without name [(name, a)] = [] := by simp [without]
  have both : without name (store name a l) =
      without name (without name l) ++ without name [(name, a)] := List.filter_append ..
  rw [both, none, without_without, List.append_nil]

/-! ## Other values -/

variable {β : Type} (f : α → β)

/-- The entries with other values. -/
def mapped (l : List (String × α)) : List (String × β) := l.map fun x => (x.1, f x.2)

theorem lookup_mapped (name : String) (l : List (String × α)) :
    (mapped f l).lookup name = (l.lookup name).map f := by
  induction l with
  | nil => rfl
  | cons x l ih =>
    unfold mapped at ih ⊢
    rw [List.map_cons, List.lookup_cons, List.lookup_cons]
    split
    · rfl
    · exact ih

theorem without_mapped (name : String) (l : List (String × α)) :
    without name (mapped f l) = mapped f (without name l) := by
  unfold without mapped
  rw [List.filter_map]
  rfl

theorem update_mapped (name : String) (a : α) (l : List (String × α)) :
    update name (f a) (mapped f l) = mapped f (update name a l) := by
  unfold update mapped
  rw [List.map_map, List.map_map]
  refine List.map_congr_left fun x _ => ?_
  by_cases h : x.1 = name <;> simp [h]

theorem namesOf_mapped (l : List (String × α)) : namesOf (mapped f l) = namesOf l := by
  unfold namesOf mapped
  rw [List.map_map]
  rfl

/-- What stands under one name, and the rest. -/
theorem flatMap_perm (nodup : (namesOf l).Nodup) (g : α → List β) (name : String) :
    (l.flatMap fun x => g x.2).Perm
      ((l.lookup name).elim [] g ++ (without name l).flatMap fun x => g x.2) := by
  cases h : l.lookup name with
  | none => rw [without_of_not_mem (not_mem_names_of_lookup h), Option.elim_none, List.nil_append]
  | some a =>
    obtain ⟨l₁, l₂, hl⟩ := exists_splits nodup h
    rw [hl.without, hl.eq, List.flatMap_append, List.flatMap_cons, List.flatMap_append]
    exact List.perm_append_comm_assoc _ _ _

end GpuCompute.Session
