import GpuCompute.Negotiation
import Mathlib.Data.List.Count

/-!
# What is negotiated

Of the requested names those are satisfied that are available, each as often as it was requested. A
negotiation only compares how many names were requested with how many are satisfied; that this tells
whether all of them are available is shown here (`Capability.negotiation_decides`).
-/

namespace GpuCompute

namespace Capability

variable {requested available available' names : List String} {name : String}

theorem intersect_sublist : (intersect requested available).Sublist requested := List.filter_sublist

/-- A name is satisfied as often as it was requested, or not at all. -/
theorem count_intersect (requested available : List String) (name : String) :
    (intersect requested available).count name =
      if name ∈ available then requested.count name else 0 := by
  unfold intersect
  split
  · next offered => exact List.count_filter (List.contains_iff_mem.2 offered)
  · next missing =>
    refine List.count_eq_zero.2 fun mem => missing ?_
    exact List.contains_iff_mem.1 (List.mem_filter.1 mem).2

theorem intersect_eq_self_iff : intersect requested available = requested ↔ requested ⊆ available := by
  unfold intersect
  rw [List.filter_eq_self]
  simp [List.subset_def]

/-- Only the lengths are compared, but they tell whether all is available. -/
theorem length_intersect_iff :
    (intersect requested available).length = requested.length ↔ requested ⊆ available := by
  rw [← intersect_eq_self_iff]
  exact ⟨fun h => List.filter_sublist.eq_of_length h, congrArg _⟩

/-- It matters which names are available, but neither where they stand nor how often. -/
theorem intersect_congr (same : ∀ name, name ∈ available' ↔ name ∈ available) :
    intersect requested available' = intersect requested available := by
  refine List.filter_congr fun name _ => ?_
  rw [Bool.eq_iff_iff, List.contains_iff_mem, List.contains_iff_mem, same]

theorem negotiate_of_subset (h : requested ⊆ available) (kind : CapabilityKind) :
    negotiate kind requested available = .ok requested := by
  unfold negotiate
  dsimp only
  rw [if_pos (length_intersect_iff.2 h), intersect_eq_self_iff.2 h]

theorem negotiate_of_missing (h : ¬ requested ⊆ available) (kind : CapabilityKind) :
    negotiate kind requested available =
      .error (.capabilityNegotiation kind requested available (intersect requested available)) := by
  unfold negotiate
  dsimp only
  rw [if_neg fun same => h (length_intersect_iff.1 same)]

theorem negotiate_eq_ok_iff {kind : CapabilityKind} :
    negotiate kind requested available = .ok names ↔ requested ⊆ available ∧ names = requested := by
  by_cases h : requested ⊆ available
  · rw [negotiate_of_subset h]
    simp [h, eq_comm]
  · rw [negotiate_of_missing h]
    simp [h]

theorem negotiate_eq_error_iff {kind : CapabilityKind} {error : Error} :
    negotiate kind requested available = .error error ↔ ¬ requested ⊆ available ∧
      error = .capabilityNegotiation kind requested available (intersect requested available) := by
  by_cases h : requested ⊆ available
  · rw [negotiate_of_subset h]
    simp [h]
  · rw [negotiate_of_missing h]
    simp [h, eq_comm]

/-- The names that are satisfied, if some are missing. -/
structure Satisfied (requested available satisfied : List String) : Prop where
  /-- They stand in requested order. -/
  sublist : satisfied.Sublist requested
  /-- They are the requested names that are available, as often as they were requested. -/
  count : ∀ name, satisfied.count name = if name ∈ available then requested.count name else 0
  fewer : satisfied.length < requested.length

theorem satisfied_intersect (h : ¬ requested ⊆ available) :
    Satisfied requested available (intersect requested available) where
  sublist := intersect_sublist
  count := count_intersect requested available
  fewer :=
    Nat.lt_of_le_of_ne intersect_sublist.length_le fun same => h (length_intersect_iff.1 same)

/-- **A negotiation succeeds exactly when all requested names are available.** Then its result is the
request itself. Otherwise its error lists both sides and the satisfied names. Of what is available only
matters which names there are. That it is logged makes no difference. -/
theorem negotiation_decides (kind : CapabilityKind) (requested available : List String) :
    (∀ names, negotiate kind requested available = .ok names ↔
      (∀ name ∈ requested, name ∈ available) ∧ names = requested) ∧
    ((∃ name ∈ requested, name ∉ available) → ∃ satisfied,
      negotiate kind requested available =
        .error (.capabilityNegotiation kind requested available satisfied) ∧
      Satisfied requested available satisfied) ∧
    (∀ available', (∀ name, name ∈ available' ↔ name ∈ available) →
      (∀ names, negotiate kind requested available' = .ok names ↔
        negotiate kind requested available = .ok names) ∧
      ∀ satisfied, negotiate kind requested available' =
          .error (.capabilityNegotiation kind requested available' satisfied) ↔
        negotiate kind requested available =
          .error (.capabilityNegotiation kind requested available satisfied)) ∧
    ∀ {σ : Type} (e : Env σ), ∃ e', (Negotiation.run kind requested available).outcome e =
      (negotiate kind requested available, e') ∧ e'.driver = e.driver := by
  refine ⟨fun names => negotiate_eq_ok_iff, ?missing, ?set, ?logged⟩
  case missing =>
    rintro ⟨name, requests, missing⟩
    have h : ¬ requested ⊆ available := fun all => missing (all requests)
    exact ⟨_, negotiate_of_missing h kind, satisfied_intersect h⟩
  case set =>
    intro available' same
    have subset : requested ⊆ available' ↔ requested ⊆ available := by
      simp only [List.subset_def, same]
    refine ⟨fun names => ?_, fun satisfied => ?_⟩
    · rw [negotiate_eq_ok_iff, negotiate_eq_ok_iff, subset]
    · rw [negotiate_eq_error_iff, negotiate_eq_error_iff, subset, intersect_congr same]
      simp
  case logged =>
    intro σ e
    have same (r : Except Error (List String)) (e : Env σ) :
        (Attempt.ofExcept r).outcome e = (r, e) := by cases r <;> rfl
    exact ⟨_, same _ _, rfl⟩

end Capability

end GpuCompute
