import GpuCompute.Proofs.Queues
import GpuCompute.Proofs.Tallies

/-!
# Requested and fetched queues

A device is made with requests for queues, which are a tally of its families, and its queues are then
fetched from slots. The two are computed separately and yet agree: the slots are those that the requests
provide, each of them once (`Queue.allots_requests`).
-/

namespace GpuCompute

open Tally

namespace Queue

variable {before families : List UInt32} {family index : UInt32}

/-! ## Requests -/

/-- The request that an entry of a tally stands for. -/
def Request.ofEntry (entry : UInt32 × UInt32) : Request := ⟨entry.1, entry.2⟩

theorem add_ofEntry (family : UInt32) (t : List (UInt32 × UInt32)) :
    Request.add family (t.map Request.ofEntry) = (Tally.add family t).map Request.ofEntry := by
  induction t with
  | nil => rfl
  | cons entry t ih =>
    rw [List.map_cons, Request.add, Tally.add, ih, apply_ite (List.map Request.ofEntry)]
    rfl

theorem requests_eq (families : List UInt32) :
    requests families = families.eraseDups.map fun f => ⟨f, .ofNat (families.count f)⟩ :=
  Tally.foldl_eq add_ofEntry families

theorem mem_requests {r : Request} :
    r ∈ requests families ↔ r.family ∈ families ∧ r.count = .ofNat (families.count r.family) := by
  rw [requests_eq, List.mem_map]
  constructor
  · rintro ⟨f, hf, rfl⟩
    exact ⟨List.mem_eraseDups.1 hf, rfl⟩
  · rintro ⟨hf, hcount⟩
    exact ⟨r.family, List.mem_eraseDups.2 hf, by rw [← hcount]⟩

/-- In a list that is not too long, no count wraps around. -/
theorem toNat_ofNat_count (short : families.length < UInt32.size) (family : UInt32) :
    (UInt32.ofNat (families.count family)).toNat = families.count family :=
  UInt32.toNat_ofNat_of_lt' (lt_of_le_of_lt List.count_le_length short)

theorem sum_requests (short : families.length < UInt32.size) :
    ((requests families).map fun r => r.count.toNat).sum = families.length := by
  rw [requests_eq, List.map_map, ← sum_count_eraseDups families]
  exact congrArg List.sum (List.map_congr_left fun f _ => toNat_ofNat_count short f)

/-! ## Slots -/

/-- Slots of a family have the indices from the number of entries before them on. -/
theorem mem_slotsAfter (short : before.length + families.length < UInt32.size) :
    (family, index) ∈ slotsAfter before families ↔ before.count family ≤ index.toNat ∧
      index.toNat < before.count family + families.count family := by
  induction families generalizing before with
  | nil =>
    simp only [slotsAfter, List.not_mem_nil, List.count_nil, false_iff]
    omega
  | cons f rest ih =>
    have later : (f :: before).length + rest.length < UInt32.size := by
      simp only [List.length_cons] at short ⊢
      omega
    rw [slotsAfter, List.mem_cons, ih later, Prod.mk.injEq, List.count_cons, List.count_cons]
    by_cases same : f = family
    · subst same
      have first : index = .ofNat (before.count f) ↔ index.toNat = before.count f := by
        have fits : before.count f < UInt32.size :=
          lt_of_le_of_lt List.count_le_length (by omega)
        rw [← UInt32.toNat_inj, UInt32.toNat_ofNat_of_lt' fits]
      simp only [first, true_and, beq_self_eq_true, if_true]
      omega
    · have other : ¬ family = f := Ne.symm same
      simp only [other, false_and, false_or, beq_iff_eq, same, if_false, Nat.add_zero]

theorem nodup_slotsAfter (short : before.length + families.length < UInt32.size) :
    (slotsAfter before families).Nodup := by
  induction families generalizing before with
  | nil => exact List.nodup_nil
  | cons f rest ih =>
    have short : (f :: before).length + rest.length < UInt32.size := by
      simp only [List.length_cons] at short ⊢
      omega
    refine List.nodup_cons.2 ⟨fun again => ?_, ih short⟩
    -- What comes later of the same family has a larger index.
    have fits : before.count f < UInt32.size :=
      lt_of_le_of_lt List.count_le_length (by simp only [List.length_cons] at short; omega)
    have := ((mem_slotsAfter short).1 again).1
    rw [List.count_cons_self, UInt32.toNat_ofNat_of_lt' fits] at this
    omega

theorem mem_slots (short : families.length < UInt32.size) :
    (family, index) ∈ slots families ↔ index.toNat < families.count family := by
  rw [slots_eq, mem_slotsAfter (by simpa using short)]
  simp

/-! ## Agreement -/

/-- Requests and slots of a list of families agree. -/
structure Allots (families : List UInt32) (requests : List Request) (slots : List (UInt32 × UInt32)) :
    Prop where
  /-- Each family is requested once, in the order of first appearance. -/
  ordered : requests.Pairwise fun r r' => families.idxOf r.family < families.idxOf r'.family
  distinct : (requests.map Request.family).Nodup
  requested : ∀ family, (∃ r ∈ requests, r.family = family) ↔ family ∈ families
  count : ∀ r ∈ requests, r.count.toNat = families.count r.family
  sum : (requests.map fun r => r.count.toNat).sum = families.length
  /-- The slot of an entry has the number of earlier entries of its family. -/
  length : slots.length = families.length
  slot : ∀ k family, families[k]? = some family →
    ∃ index, slots[k]? = some (family, index) ∧ index.toNat = (families.take k).count family
  /-- The slots are those that were requested, each of them once. -/
  nodup : slots.Nodup
  provided : ∀ family index, (family, index) ∈ slots ↔
    ∃ r ∈ requests, r.family = family ∧ index.toNat < r.count.toNat

theorem allots_requests (short : families.length < UInt32.size) :
    Allots families (requests families) (slots families) where
  ordered := by
    rw [requests_eq]
    exact List.pairwise_map.2 (pairwise_idxOf_eraseDups families)
  distinct := by
    rw [requests_eq, List.map_map]
    exact (List.map_id _).symm ▸ nodup_eraseDups families
  requested family := by
    constructor
    · rintro ⟨r, hr, rfl⟩
      exact (mem_requests.1 hr).1
    · exact fun h => ⟨⟨family, .ofNat (families.count family)⟩, mem_requests.2 ⟨h, rfl⟩, rfl⟩
  count r hr := by rw [(mem_requests.1 hr).2, toNat_ofNat_count short]
  sum := sum_requests short
  length := length_slots families
  slot k family hk := by
    refine ⟨_, by rw [getElem?_slots, hk]; rfl, UInt32.toNat_ofNat_of_lt' ?_⟩
    exact lt_of_le_of_lt ((List.take_sublist k families).count_le family)
      (lt_of_le_of_lt List.count_le_length short)
  nodup := slots_eq families ▸ nodup_slotsAfter (by simpa using short)
  provided family index := by
    rw [mem_slots short]
    constructor
    · intro h
      have present : family ∈ families := List.count_pos_iff.1 (Nat.zero_lt_of_lt h)
      exact ⟨⟨family, .ofNat (families.count family)⟩, mem_requests.2 ⟨present, rfl⟩, rfl,
        (toNat_ofNat_count short family).symm ▸ h⟩
    · rintro ⟨r, hr, rfl, h⟩
      rwa [(mem_requests.1 hr).2, toNat_ofNat_count short] at h

end Queue

/-! ## Calls -/

variable {d : Driver}

/-- The device, the family and the index that a call for a queue names. -/
def Exchange.fetched? : Exchange d → Option (d.Device × UInt32 × UInt32)
  | .queue device family index _ => some (device, family, index)
  | _ => none

namespace Bootstrap

theorem Fetches.map_fetched {device : d.Device} {slots : List (UInt32 × UInt32)}
    {queues : List Queue.Handle} {l : Transcript d} (h : Fetches device slots queues l) :
    l.map Exchange.fetched? = slots.map fun slot => some (device, slot) := by
  induction h with
  | nil => rfl
  | cons h ih => rw [List.map_cons, List.map_cons, ih]; rfl

/-- Queues are fetched by one call for each slot, in the order of the slots, and by no other calls. -/
theorem calls_fetchQueues (device : d.Device) (families : List UInt32)
    (e : Env d.transcribed.State) :
    ∃ l, (fetchQueues d.transcribed device families e).2.driver.transcript =
        e.driver.transcript ++ l ∧
      l.map Exchange.fetched? = (Queue.slots families).map fun slot => some (device, slot) :=
  (fetches_fetchFrom device [] families e).imp fun _ h => ⟨h.1, h.2.map_fetched⟩

/-- The device of a plan is requested with the queues of its families. -/
theorem queues_describeDevice {inst : d.Instance} {config : Config} {selection : Selection}
    {e e' : Env d.State} {plan : DevicePlan}
    (h : describeDevice d inst config selection e = .ok plan e') :
    plan.descriptor.queues = Queue.requests plan.families := by
  unfold describeDevice at h
  simp only [Attempt.bind_eq_ok] at h
  obtain ⟨_, _, -, _, _, -, _, _, -, _, _, -, _, _, -, _, _, -, _, _, -, _, _, -, _, _, -, h⟩ := h
  cases h
  rfl

end Bootstrap

end GpuCompute
