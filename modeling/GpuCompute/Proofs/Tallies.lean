import Mathlib.Algebra.BigOperators.Group.List.Lemmas
import Mathlib.Data.UInt

/-!
# Tallies

A tally counts keys as they come: a key that is new goes to the end of the list with the count one, and
the count of any other grows by one. Requests for queues and the sizes of descriptor pools are tallies.
What a tally comes to is one equation: each key once, where it first appears, with the number of times it
appears (`tally_eq`).
-/

namespace GpuCompute

variable {κ : Type} [DecidableEq κ]

/-! ## Keys by first appearance -/

namespace Tally

theorem eraseDups_concat (keys : List κ) (key : κ) :
    (keys ++ [key]).eraseDups =
      if key ∈ keys then keys.eraseDups else keys.eraseDups ++ [key] := by
  rw [List.eraseDups_append]
  split <;> simp_all [List.removeAll, List.eraseDups_cons]

/-- Keys without their repetitions are in the order in which they first appear. -/
theorem pairwise_idxOf_eraseDups (keys : List κ) :
    keys.eraseDups.Pairwise fun a b => keys.idxOf a < keys.idxOf b := by
  induction keys using List.reverseRecOn with
  | nil => exact .nil
  | append_singleton keys key ih =>
    have old : ∀ a ∈ keys.eraseDups, (keys ++ [key]).idxOf a = keys.idxOf a := fun a ha =>
      List.idxOf_append_of_mem (List.mem_eraseDups.1 ha)
    have ih : keys.eraseDups.Pairwise fun a b =>
        (keys ++ [key]).idxOf a < (keys ++ [key]).idxOf b :=
      ih.imp_of_mem fun {a b} ha hb h => by rwa [old a ha, old b hb]
    rw [eraseDups_concat]
    split
    case isTrue => exact ih
    case isFalse new =>
      refine List.pairwise_append.2 ⟨ih, List.pairwise_singleton _ _, fun a ha b hb => ?_⟩
      -- The new key comes after all that were there.
      cases List.mem_singleton.1 hb
      rw [old a ha, List.idxOf_append_of_notMem new]
      exact Nat.lt_add_right _ (List.idxOf_lt_length_of_mem (List.mem_eraseDups.1 ha))

theorem nodup_eraseDups (keys : List κ) : keys.eraseDups.Nodup :=
  (pairwise_idxOf_eraseDups keys).imp fun h same => (same ▸ h).ne rfl

theorem sum_count_eraseDups (keys : List κ) :
    (keys.eraseDups.map keys.count).sum = keys.length := by
  have perm : keys.eraseDups.Perm keys.dedup :=
    (List.perm_ext_iff_of_nodup (nodup_eraseDups keys) keys.nodup_dedup).2 fun a => by
      rw [List.mem_eraseDups, List.mem_dedup]
  rw [(perm.map keys.count).sum_eq, List.sum_map_count_dedup_eq_length]

/-! ## Tallies -/

/-- A tally with one more occurrence of a key. -/
def add (key : κ) : List (κ × UInt32) → List (κ × UInt32)
  | [] => [(key, 1)]
  | e :: es => if e.1 = key then (e.1, e.2 + 1) :: es else e :: add key es

/-- The tally of a list of keys. -/
def tally (keys : List κ) : List (κ × UInt32) := keys.foldl (fun t key => add key t) []

variable {key : κ} {keys : List κ} {f : κ → UInt32}

theorem add_of_notMem (new : key ∉ keys) :
    add key (keys.map fun k => (k, f k)) = (keys.map fun k => (k, f k)) ++ [(key, 1)] := by
  induction keys with
  | nil => rfl
  | cons k keys ih =>
    rw [List.mem_cons, not_or] at new
    rw [List.map_cons, add, if_neg (Ne.symm new.1), ih new.2, List.cons_append]

theorem add_of_mem (distinct : keys.Nodup) (old : key ∈ keys) :
    add key (keys.map fun k => (k, f k)) =
      keys.map fun k => (k, if k = key then f k + 1 else f k) := by
  induction keys with
  | nil => cases old
  | cons k keys ih =>
    obtain ⟨apart, distinct⟩ := List.nodup_cons.1 distinct
    rw [List.map_cons, List.map_cons, add]
    by_cases same : k = key
    · -- The key does not appear again, so that no other count changes.
      have rest : ∀ k' ∈ keys, k' ≠ key := fun k' h same' => apart (same ▸ same' ▸ h)
      rw [if_pos same, if_pos same]
      exact congrArg _ (List.map_congr_left fun k' h => by rw [if_neg (rest k' h)])
    · rw [if_neg same, if_neg same,
        ih distinct ((List.mem_cons.1 old).resolve_left (Ne.symm same))]

theorem count_concat (keys : List κ) (key k : κ) :
    (keys ++ [key]).count k = if k = key then keys.count k + 1 else keys.count k := by
  rw [List.count_append, List.count_singleton]
  by_cases same : k = key
  · rw [if_pos same, if_pos (beq_iff_eq.2 same.symm)]
  · rw [if_neg same, if_neg fun h => same (beq_iff_eq.1 h).symm, Nat.add_zero]

theorem tally_eq (keys : List κ) :
    tally keys = keys.eraseDups.map fun key => (key, .ofNat (keys.count key)) := by
  induction keys using List.reverseRecOn with
  | nil => rfl
  | append_singleton keys key ih =>
    have concat : tally (keys ++ [key]) = add key (tally keys) := List.foldl_append ..
    rw [concat, ih, eraseDups_concat]
    split
    case isTrue old =>
      rw [add_of_mem (nodup_eraseDups keys) (List.mem_eraseDups.2 old)]
      refine List.map_congr_left fun k _ => congrArg (k, ·) ?_
      rw [count_concat]
      split
      case isTrue => rw [UInt32.ofNat_add]; rfl
      case isFalse => rfl
    case isFalse new =>
      rw [add_of_notMem (fun h => new (List.mem_eraseDups.1 h)), List.map_append]
      congr 1
      · refine List.map_congr_left fun k hk => ?_
        have other : k ≠ key := fun same => new (same ▸ List.mem_eraseDups.1 hk)
        rw [count_concat, if_neg other]
      · rw [List.map_singleton, count_concat, if_pos rfl, List.count_eq_zero.2 new]
        rfl

/-- A tally kept in records is the tally itself. -/
theorem foldl_eq {ρ : Type} {step : κ → List ρ → List ρ} {record : κ × UInt32 → ρ}
    (h : ∀ key t, step key (t.map record) = (add key t).map record) (keys : List κ) :
    keys.foldl (fun t key => step key t) [] =
      keys.eraseDups.map fun key => record (key, .ofNat (keys.count key)) := by
  have hom : keys.foldl (fun t key => step key t) ([].map record) = (tally keys).map record :=
    List.foldl_hom (List.map record) fun t key => h key t
  exact hom.trans (by rw [tally_eq, List.map_map]; rfl)

example : tally [2, 0, 2] = [(2, 2), (0, 1)] := by decide

end Tally

end GpuCompute
