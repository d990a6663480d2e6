import GpuCompute.Proofs.Vulkan.Calls

/-!
# Handles that may be used

A handle of the API may be used if it was handed out before, has not been destroyed since, and the same
holds of what it rests on: its device, the pool it was taken from, the instance (`Live`). `Fine` says of
a call that this is so of all handles that appear in it. `Api.Goes gone a a'` says that the calls
between two states of the API are fine, and that apart from `gone` nothing was ended that stood before;
`Api.Yields parts a a'` says moreover that certain things were made.
-/

namespace GpuCompute.Vulkan

variable {tr : List Event} {t : Thing} {rests : List Thing} {request : Request} {outcome : Outcome}
  {a a' a'' : Api} {gone gone' : List Thing}

/-! ## Things in a trace -/

/-- The handle of a thing. -/
def Thing.handle : Thing → Nat
  | .inst h | .report h | .messenger h | .device h | .object _ h | .descriptorSet h
  | .commandBuffer h => h

/-- A thing was made, resting on others, and was not ended. -/
structure Stands (tr : List Event) (t : Thing) (rests : List Thing) : Prop where
  made : ∃ e ∈ tr, e.made? = some t ∧ e.request.parents = rests
  lasts : ∀ e ∈ tr, t ∉ e.request.ends

/-- A thing stands, and so does all that it rests on. -/
inductive Live (tr : List Event) : Thing → Prop
  | mk {t : Thing} {rests : List Thing} (stands : Stands tr t rests)
    (parents : ∀ p ∈ rests, Live tr p) : Live tr t

/-- All handles that appear in a call may be used. -/
def Fine (before : List Event) (event : Event) : Prop :=
  ∀ t ∈ event.request.uses, Live before t

theorem Live.stands (h : Live tr t) : ∃ rests, Stands tr t rests := by
  cases h with
  | mk stands => exact ⟨_, stands⟩

instance : Decidable (Stands tr t rests) :=
  decidable_of_iff ((∃ e ∈ tr, e.made? = some t ∧ e.request.parents = rests) ∧
    ∀ e ∈ tr, t ∉ e.request.ends) ⟨fun h => ⟨h.1, h.2⟩, fun h => ⟨h.1, h.2⟩⟩

/-- What stands on nothing may be used. -/
theorem Live.of_stands_nil (h : Stands tr t []) : Live tr t := .mk h fun _ hp => nomatch hp

theorem live_of_stands {p : Thing} (h : Stands tr t [p]) (hp : Live tr p) : Live tr t :=
  .mk h fun q hq => by rwa [List.mem_singleton.1 hq]

/-- What a call ends appears in it. -/
theorem uses_of_ends (h : t ∈ request.ends) : t ∈ request.uses := by
  cases request with
  | freeCommandBuffers device pool buffers => exact .tail _ (.tail _ h)
  | destroyInstance | destroyDevice => exact h
  | destroyDebugReport | destroyMessenger | destroy => exact .tail _ h
  | _ => cases h

theorem handle_of_product {id : Nat} (h : request.product? id = some t) : t.handle = id := by
  cases request with
  | createInstance | createDebugReport | createMessenger | createDevice =>
    cases h
    rfl
  | create device what =>
    cases what <;> cases h <;> rfl
  | _ => cases h

/-- What rests on something is made by calls that end nothing. -/
theorem ends_of_product {id : Nat} (h : request.product? id = some t) : request.ends = [] := by
  cases request <;> first | rfl | cases h

/-- Things apart from objects rest on instances. -/
theorem role_of_parents {id : Nat} (h : request.product? id = some t) (ht : t.role ≠ .object)
    {p : Thing} (hp : p ∈ request.parents) : p.role ≠ .object := by
  cases request with
  | createDebugReport | createMessenger | createDevice =>
    rw [List.mem_singleton.1 hp]
    simp [Thing.role]
  | create device what => cases what <;> cases h <;> exact absurd rfl ht
  | _ => cases hp

/-- A thing and what it rests on. -/
structure Part where
  thing : Thing
  rests : List Thing

namespace Api

/-! ## States of the API -/

/-- All calls were fine, and no handle was handed out that is still to come. -/
structure Good (a : Api) : Prop where
  fine : Always Fine a.trace
  old : ∀ e ∈ a.trace, ∀ t, e.made? = some t → t.handle < a.next

theorem Good.lt_of_stands (h : a.Good) (ht : Stands a.trace t rests) : t.handle < a.next := by
  obtain ⟨e, he, hmade, -⟩ := ht.made
  exact h.old e he t hmade

theorem Good.lt_of_ended (h : a.Good) {e : Event} (he : e ∈ a.trace) (ht : t ∈ e.request.ends) :
    t.handle < a.next := by
  obtain ⟨before, after, htrace⟩ := List.append_of_mem he
  obtain ⟨rests, ⟨e', he', hmade, -⟩, -⟩ := (h.fine before e after htrace t (uses_of_ends ht)).stands
  refine h.old e' ?_ t hmade
  rw [htrace]
  exact List.mem_append_left _ he'

/-- The calls between two states are fine and have ended nothing that stood before, apart from some
things. -/
structure Goes (gone : List Thing) (a a' : Api) : Prop where
  before : a.Good
  after : a'.Good
  next : a.next ≤ a'.next
  stands : ∀ {t rests}, Stands a.trace t rests → t ∉ gone → Stands a'.trace t rests

namespace Goes

theorem refl (h : a.Good) : Goes [] a a := ⟨h, h, Nat.le_refl _, fun h _ => h⟩

/-- What is ended later and did not stand at first does not count. -/
theorem trans (h : Goes gone a a') (h' : Goes gone' a' a'')
    (hgone : ∀ t ∈ gone', t ∈ gone ∨ a.next ≤ t.handle) : Goes gone a a'' := by
  refine ⟨h.before, h'.after, Nat.le_trans h.next h'.next, fun ht hn => ?_⟩
  refine h'.stands (h.stands ht hn) fun hmem => ?_
  rcases hgone _ hmem with hmem | hle
  · exact hn hmem
  · have lt := h.before.lt_of_stands ht
    omega

theorem then_ (h : Goes gone a a') (h' : Goes [] a' a'') : Goes gone a a'' :=
  h.trans h' fun _ hmem => by cases hmem

theorem after_ (h : Goes [] a a') (h' : Goes gone a' a'') : Goes gone a a'' := by
  refine ⟨h.before, h'.after, Nat.le_trans h.next h'.next, fun ht hn => ?_⟩
  exact h'.stands (h.stands ht (by simp)) hn

theorem mono (h : Goes gone a a') (hgone : ∀ t ∈ gone, t ∈ gone') : Goes gone' a a' :=
  ⟨h.before, h.after, h.next, fun ht hn => h.stands ht fun hmem => hn (hgone _ hmem)⟩

theorem live (h : Goes [] a a') (ht : Live a.trace t) : Live a'.trace t := by
  induction ht with
  | mk stands _ ih => exact .mk (h.stands stands (by simp)) ih

/-- When only objects are ended, instances and devices are not touched. -/
theorem live_of_role (h : Goes gone a a') (hgone : ∀ t ∈ gone, t.role = .object)
    (ht : Live a.trace t) (hrole : t.role ≠ .object) : Live a'.trace t := by
  induction ht with
  | @mk t rests stands _ ih =>
    refine .mk (h.stands stands fun hmem => hrole (hgone _ hmem)) fun p hp => ih p hp ?_
    obtain ⟨e, -, hmade, rfl⟩ := stands.made
    obtain ⟨id, -, hproduct⟩ := Option.bind_eq_some_iff.1 hmade
    exact role_of_parents hproduct hrole hp

end Goes

/-! ## What is made -/

/-- The calls between two states are fine and have ended nothing that stood before, and new things stand
after them. -/
structure Yields (parts : List Part) (a a' : Api) : Prop where
  goes : Goes [] a a'
  made : ∀ p ∈ parts, Stands a'.trace p.thing p.rests ∧ a.next ≤ p.thing.handle

namespace Yields

variable {parts parts' : List Part}

theorem nil (h : Goes [] a a') : Yields [] a a' := ⟨h, fun _ hp => by cases hp⟩

theorem then_ (h : Yields parts a a') (h' : Goes [] a' a'') : Yields parts a a'' :=
  ⟨h.goes.then_ h', fun p hp => ⟨h'.stands (h.made p hp).1 (by simp), (h.made p hp).2⟩⟩

theorem after_ (h : Goes [] a a') (h' : Yields parts a' a'') : Yields parts a a'' :=
  ⟨h.then_ h'.goes, fun p hp => ⟨(h'.made p hp).1, Nat.le_trans h.next (h'.made p hp).2⟩⟩

theorem trans (h : Yields parts a a') (h' : Yields parts' a' a'') :
    Yields (parts ++ parts') a a'' := by
  refine ⟨h.goes.then_ h'.goes, fun p hp => ?_⟩
  rcases List.mem_append.1 hp with hp | hp
  · exact (h.then_ h'.goes).made p hp
  · exact (after_ h.goes h').made p hp

/-- What was made may be ended again. -/
theorem goes_undone (h : Yields parts a a') (h' : Goes gone a' a'')
    (hgone : ∀ t ∈ gone, ∃ p ∈ parts, p.thing = t) : Goes [] a a'' := by
  refine h.goes.trans h' fun t ht => ?_
  obtain ⟨p, hp, rfl⟩ := hgone t ht
  exact .inr (h.made p hp).2

/-- What was made may be used as far as what it rests on may be used. -/
theorem live {p : Part} (h : Yields parts a a') (hp : p ∈ parts)
    (hrests : ∀ q ∈ p.rests, Live a'.trace q) : Live a'.trace p.thing :=
  .mk (h.made p hp).1 hrests

end Yields

/-! ## Calls -/

theorem goes_of_adds (h : Adds request outcome a a') (good : a.Good)
    (live : ∀ t ∈ request.uses, Live a.trace t) : Goes request.ends a a' := by
  have le : a.next ≤ a'.next := by
    rw [h.next]
    cases hid : outcome.handle? with
    | none => simp
    | some id => simp [h.fresh id hid]
  refine ⟨good, ⟨?_, ?_⟩, le, ?_⟩
  · rw [h.trace]
    exact Always.snoc_iff.2 ⟨good.fine, live⟩
  · intro e he t ht
    rw [h.trace] at he
    rcases List.mem_append.1 he with he | he
    · exact Nat.lt_of_lt_of_le (good.old e he t ht) le
    · rw [List.mem_singleton.1 he] at ht
      obtain ⟨id, hid, hproduct⟩ := Option.bind_eq_some_iff.1 ht
      change outcome.handle? = some id at hid
      rw [handle_of_product hproduct, h.next, hid, h.fresh id hid]
      simp
  · rintro t rests ⟨⟨e, he, hmade⟩, lasts⟩ hgone
    rw [h.trace]
    refine ⟨⟨e, List.mem_append_left _ he, hmade⟩, fun e' he' => ?_⟩
    rcases List.mem_append.1 he' with he' | he'
    · exact lasts e' he'
    · rw [List.mem_singleton.1 he']
      exact hgone

theorem goes_call (request : Request) (good : a.Good) (live : ∀ t ∈ request.uses, Live a.trace t) :
    Goes request.ends a (a.call request) := goes_of_adds (adds_call request a) good live

/-- A call that hands out a handle, if only by mistake. -/
theorem yields_of_adds {id : Nat} (h : Adds request outcome a a') (good : a.Good)
    (live : ∀ t ∈ request.uses, Live a.trace t) (hid : outcome.handle? = some id)
    (ht : request.product? id = some t) : Yields [⟨t, request.parents⟩] a a' := by
  have ends := ends_of_product ht
  have goes := goes_of_adds h good live
  rw [ends] at goes
  refine ⟨goes, fun p hp => ?_⟩
  rw [List.mem_singleton.1 hp]
  have handle : t.handle = a.next := (handle_of_product ht).trans (h.fresh id hid)
  refine ⟨⟨⟨⟨request, outcome⟩, ?_, ?_, rfl⟩, fun e he hmem => ?_⟩, Nat.le_of_eq handle.symm⟩
  · rw [h.trace]
    simp
  · exact Option.bind_eq_some_iff.2 ⟨id, hid, ht⟩
  · rw [h.trace] at he
    rcases List.mem_append.1 he with he | he
    · have lt : t.handle < a.next := good.lt_of_ended he hmem
      omega
    · rw [List.mem_singleton.1 he, ends] at hmem
      cases hmem

end Api

end GpuCompute.Vulkan
