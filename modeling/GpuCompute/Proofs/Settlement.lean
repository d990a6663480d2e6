import GpuCompute.Proofs.Coverage
import GpuCompute.Proofs.Disposal

/-!
# Nothing is left when a device is released

A manager that manages its resources destroys what is left of them before it releases its device. For
this to be complete nothing may escape: an object that was made is destroyed, or it is in the slot of a
resource, which has a holder and is tracked by the manager of its device (`Session.Settled`). Each move
keeps this as long as no two managers use the same device (`Session.Settled.of_move`), and so does each run
(`Session.settlement`).
-/

namespace GpuCompute

open Trace Recorder

variable {d : Driver} {life : d.Lifetimes}

namespace Session

open Manager

variable {P : Permit d.recorded} {s s' : Session d.recorded}
  {known l : List (Manager d.recorded)} {r : ResourceId}

/-- Nothing escapes the managers of a session. `known` are the managers that were made so far. -/
structure Settled (life : d.Lifetimes) (known : List (Manager d.recorded))
    (s : Session d.recorded) : Prop where
  account : s.Accounted life
  settles : Always (Settles known) s.trace
  covers : s.pool.Covers
  /-- What has its object has a holder. -/
  held : ∀ {r}, s.pool.isInit r → s.pool.isHeld r
  /-- A manager with resource management tracks what has its object on the manager's device. -/
  tracked : ∀ {x r slot}, x ∈ s.managers → x.2.config.manageResources → s.pool.slot? r = some slot →
    s.pool.isInit r → x.2.deviceId? = some slot.device.id → x.2.Tracks r
  /-- No two managers have the same device, and what they have has not ended. -/
  nodup : (deviceIds (s.managers.map (·.2))).Nodup
  lasting : ∀ {x id}, x ∈ s.managers → x.2.deviceId? = some id → ¬ Ended s.trace id
  /-- Where devices come from. -/
  hired : ∀ {x id}, x ∈ s.managers → x.2.deviceId? = some id →
    ∃ m ∈ known, m.deviceId? = some id ∧ m.config = x.2.config
  served : ∀ {r slot}, s.pool.slot? r = some slot → slot.device.id ∈ deviceIds known
  ended : ∀ {id}, Ended s.trace id → id ∈ deviceIds known

/-- Calls of the driver that destroy nothing. -/
def lending : DriverCall → Prop
  | .createInstance .. | .createDevice .. | .probeDevice _ | .survey .. => True
  | _ => False

namespace Settled

/-- As long as no device ends, it is enough to look at slots and holders. -/
theorem of_append (h : s.Settled life known) (account : s'.Accounted life) {T : Trace}
    (hT : s'.trace = s.trace ++ T) (lasts : ∀ id, ¬ Ended T id) (covers : s'.pool.Covers)
    (held : ∀ r, s'.pool.isInit r → s'.pool.isHeld r)
    (staff : ∀ x' ∈ s'.managers, ∃ x ∈ s.managers, x'.2.config = x.2.config ∧
      x'.2.deviceId? = x.2.deviceId?)
    (nodup : (deviceIds (s'.managers.map (·.2))).Nodup)
    (tracked : ∀ x' ∈ s'.managers, x'.2.config.manageResources → ∀ r slot,
      s'.pool.slot? r = some slot → s'.pool.isInit r → x'.2.deviceId? = some slot.device.id →
      x'.2.Tracks r)
    (served : ∀ r slot, s'.pool.slot? r = some slot → slot.device.id ∈ deviceIds known) :
    s'.Settled life known := by
  have ends (id : Nat) : Ended s'.trace id ↔ Ended s.trace id := by
    rw [hT, ended_append_iff]
    exact or_iff_left (lasts id)
  refine ⟨account, ?_, covers, @held, ?_, nodup, ?_, ?_, fun hslot => served _ _ hslot, ?_⟩
  · rw [hT]
    refine always_settles_append h.settles ?_
    rintro event hmem id rfl
    exact lasts id (.inl hmem)
  · intro x r slot hx manages hslot hinit hid
    exact tracked x hx manages r slot hslot hinit hid
  · intro x' id hx' hid
    obtain ⟨x, hx, -, same⟩ := staff x' hx'
    rw [ends]
    exact h.lasting hx (same ▸ hid)
  · intro x' id hx' hid
    obtain ⟨x, hx, config, same⟩ := staff x' hx'
    rw [config]
    exact h.hired hx (same ▸ hid)
  · intro id hid
    exact h.ended ((ends id).1 hid)

/-- Moves that make and destroy nothing: slots stay, what has its object keeps a holder, and managers
go or stay as they are, apart from what they track in vain. -/
theorem of_idle (h : s.Settled life known) (account : s'.Accounted life) {T : Trace}
    (hT : s'.trace = s.trace ++ T) (idle : Idle T) (slots : s'.pool.slot? = s.pool.slot?)
    (held : ∀ r, s.pool.isInit r → s.pool.isHeld r → s'.pool.isHeld r)
    (nodup : (deviceIds (s'.managers.map (·.2))).Nodup)
    (managers : ∀ x' ∈ s'.managers, ∃ x ∈ s.managers, (x'.2.config = x.2.config ∧
      x'.2.deviceId? = x.2.deviceId?) ∧ ∀ r, s.pool.isInit r → x.2.Tracks r → x'.2.Tracks r) :
    s'.Settled life known := by
  have inits (r : ResourceId) : s'.pool.isInit r = s.pool.isInit r := by
    rw [Pool.isInit_eq, Pool.isInit_eq, slots]
  refine h.of_append account hT (fun _ => not_ended_of_idle idle) (h.covers.bare hT idle.bare slots)
    (fun r hr => ?_) (fun x' hx' => ?_) nodup ?_ fun r slot hslot => h.served (slots ▸ hslot)
  · rw [inits] at hr
    exact held r hr (h.held hr)
  · obtain ⟨x, hx, same, -⟩ := managers x' hx'
    exact ⟨x, hx, same⟩
  · intro x' hx' manages r slot hslot hinit hid
    obtain ⟨x, hx, ⟨config, same⟩, tracks⟩ := managers x' hx'
    rw [slots] at hslot
    rw [inits] at hinit
    exact tracks r hinit (h.tracked hx (config ▸ manages) hslot hinit (same ▸ hid))

theorem mem_known_append (m : Manager d.recorded) {id : Nat} (h : id ∈ deviceIds known) :
    id ∈ deviceIds (known ++ [m]) := by
  rw [deviceIds_append]
  exact List.mem_append_left _ h

/-- A manager is added, on a device that no manager had before. -/
theorem of_addManager (h : s.Settled life known) (account : s'.Accounted life) {T : Trace}
    (hT : s'.trace = s.trace ++ T) (idle : Idle T) (slots : s'.pool.slot? = s.pool.slot?)
    (held : s'.pool.isHeld = s.pool.isHeld) {name : String} {m : Manager d.recorded}
    (managers : s'.managers = s.managers ++ [(name, m)])
    (nodup : (deviceIds (known ++ [m])).Nodup) : s'.Settled life (known ++ [m]) := by
  have fresh {id : Nat} (hid : m.deviceId? = some id) : id ∉ deviceIds known := by
    rw [deviceIds_append, deviceIds_singleton, hid, List.nodup_append] at nodup
    exact fun hmem => nodup.2.2 id hmem id (by simp) rfl
  have inits (r : ResourceId) : s'.pool.isInit r = s.pool.isInit r := by
    rw [Pool.isInit_eq, Pool.isInit_eq, slots]
  have lasts (id : Nat) : Ended s'.trace id ↔ Ended s.trace id := by
    rw [hT, ended_append_idle idle]
  have cases {x : String × Manager d.recorded} (hx : x ∈ s'.managers) :
      x ∈ s.managers ∨ x = (name, m) := by
    rw [managers, List.mem_append, List.mem_singleton] at hx
    exact hx
  refine ⟨account, ?_, h.covers.bare hT idle.bare slots, ?_, ?_, ?_, ?_, ?_, ?_, ?_⟩
  · rw [hT]
    refine always_settles_append (fun before event after hl m' hm' id manages hid heq => ?_)
      (ne_release_of_idle idle)
    rcases List.mem_append.1 hm' with hm' | hm'
    · exact h.settles before event after hl m' hm' id manages hid heq
    · rw [List.mem_singleton.1 hm'] at hid
      refine absurd (h.ended (.inl ?_)) (fresh hid)
      rw [← heq, hl]
      exact List.mem_append_right _ List.mem_cons_self
  · intro r hr
    rw [inits] at hr
    rw [held]
    exact h.held hr
  · intro x r slot hx manages hslot hinit hid
    rw [slots] at hslot
    rw [inits] at hinit
    rcases cases hx with hx | rfl
    · exact h.tracked hx manages hslot hinit hid
    · exact absurd (h.served hslot) (fresh hid)
  · rw [managers, List.map_append, deviceIds_append, List.nodup_append]
    rw [deviceIds_append, List.nodup_append] at nodup
    refine ⟨h.nodup, nodup.2.1, fun id hid => nodup.2.2 id ?_⟩
    obtain ⟨y, hy, hyid⟩ := mem_deviceIds.1 hid
    obtain ⟨x, hx, rfl⟩ := List.mem_map.1 hy
    obtain ⟨m', hm', hid', -⟩ := h.hired hx hyid
    exact mem_deviceIds.2 ⟨m', hm', hid'⟩
  · intro x id hx hid
    rw [lasts]
    rcases cases hx with hx | rfl
    · exact h.lasting hx hid
    · exact fun hended => fresh hid (h.ended hended)
  · intro x id hx hid
    rcases cases hx with hx | rfl
    · obtain ⟨m', hm', hid', config⟩ := h.hired hx hid
      exact ⟨m', List.mem_append_left _ hm', hid', config⟩
    · exact ⟨m, List.mem_append_right _ (List.mem_singleton.2 rfl), hid, rfl⟩
  · intro r slot hslot
    exact mem_known_append m (h.served (slots ▸ hslot))
  · intro id hid
    exact mem_known_append m (h.ended ((lasts id).1 hid))

theorem destroy (h : s.Settled life known) (account : (s.onPool (.destroy r)).Accounted life) :
    (s.onPool (.destroy r)).Settled life known := by
  obtain ⟨T, hT, calls⟩ := h.account.pool.trace_destroy r
  have he := Pool.empties_destroy r s.pool
  have inits {r'} (hr : (s.pool.destroy r).isInit r') : s.pool.isInit r' :=
    (Pool.Destroys.of_destroy r s.pool).isInit hr
  refine h.of_append account hT ?_ (h.covers.destroy h.account.pool r) ?_ (fun x hx => ⟨x, hx, rfl, rfl⟩)
    h.nodup ?_ ?_
  · rintro id (hmem | hmem) <;> obtain ⟨_, _, -, -, -, heq⟩ := calls _ hmem <;> cases heq
  · intro r' hr'
    change (s.pool.destroy r).isHeld r'
    rw [he.isHeld]
    exact h.held (inits hr')
  · intro x hx manages r' slot hslot hinit hid
    obtain ⟨slot', hslot', hdevice, -⟩ := he.slot_before hslot
    exact h.tracked hx manages hslot' (inits hinit) (hdevice ▸ hid)
  · intro r' slot hslot
    obtain ⟨slot', hslot', hdevice, -⟩ := he.slot_before hslot
    exact hdevice ▸ h.served hslot'

variable {n name : String} {m m' : Manager d.recorded} {l₁ l₂ : List (String × Manager d.recorded)}

theorem deviceIds_replace (same : m'.deviceId? = m.deviceId?) :
    deviceIds ((l₁ ++ (n, m') :: l₂).map (·.2)) = deviceIds ((l₁ ++ (n, m) :: l₂).map (·.2)) := by
  simp only [deviceIds, List.map_append, List.map_cons, List.filterMap_append,
    List.filterMap_cons, same]

/-- Another manager than the one at a place has another device. -/
theorem deviceId_ne (h : s.Settled life known) (hm : s.managers = l₁ ++ (n, m) :: l₂)
    {x : String × Manager d.recorded} (hx : x ∈ l₁ ++ l₂) {id : Nat} (hid : m.deviceId? = some id) :
    x.2.deviceId? ≠ some id := by
  intro hxid
  have nodup := h.nodup
  rw [hm, List.map_append, List.map_cons, ← List.singleton_append, deviceIds_append,
    deviceIds_append, deviceIds_singleton, hid, List.nodup_append, List.nodup_append] at nodup
  have mem {l : List (String × Manager d.recorded)} (h : x ∈ l) :
      id ∈ deviceIds (l.map (·.2)) := mem_deviceIds.2 ⟨x.2, List.mem_map_of_mem h, hxid⟩
  rcases List.mem_append.1 hx with hx | hx
  · exact nodup.2.2 id (mem hx) id (List.mem_append_left _ (by simp)) rfl
  · exact nodup.2.1.2.2 id (by simp) id (mem hx) rfl

theorem of_makes (h : s.Settled life known) (hm : s.managers = l₁ ++ (n, m) :: l₂)
    {device : Ownership d.recorded.Device} {order : Order d.recorded} {p : Pool d.recorded}
    (hd : m.device = some device) (made : s.pool.Makes device.handle order r p) (like : m.Like m')
    (old : ∀ r, m.Tracks r → m'.Tracks r) (new : m.config.manageResources → m'.Tracks r)
    {s' : Session d.recorded} (account : s'.Accounted life)
    (hp : s'.pool = p.withHeld (s.pool.held ++ [(name, r)]))
    (managers : s'.managers = l₁ ++ (n, m') :: l₂) : s'.Settled life known := by
  have hid : m.deviceId? = some device.handle.id := deviceId?_eq_some.2 ⟨device, hd, rfl⟩
  have hmem : (n, m) ∈ s.managers := hm ▸ List.mem_append_right _ List.mem_cons_self
  obtain ⟨T₁, T₂, x, hT, idle₁, idle₂, -, -⟩ := made.trace_append life
  have covers : s'.pool.Covers := by
    rw [hp]
    exact (h.covers.of_makes life made).bare (List.append_nil _).symm nofun rfl
  obtain ⟨e₁, y, e₂, -, -, -, adds⟩ := made
  have slots {r' slot} (hslot : s'.pool.slot? r' = some slot) :
      (r' = r ∧ slot = ⟨device.handle, some y⟩) ∨ (r' ≠ r ∧ s.pool.slot? r' = some slot) := by
    rw [hp, Pool.slot?_withHeld] at hslot
    by_cases heq : r' = r
    · subst heq
      rw [adds.slot, Option.some.injEq] at hslot
      exact .inl ⟨rfl, hslot.symm⟩
    · exact .inr ⟨heq, adds.others r' heq ▸ hslot⟩
  have inits {r'} (hne : r' ≠ r) (hinit : s'.pool.isInit r') : s.pool.isInit r' := by
    rwa [Pool.isInit_eq, hp, Pool.slot?_withHeld, adds.others r' hne, ← Pool.isInit_eq] at hinit
  have staff (x) (hx : x ∈ s'.managers) : ∃ x' ∈ s.managers, (x.2.config = x'.2.config ∧
      x.2.deviceId? = x'.2.deviceId?) ∧ ∀ r, x'.2.Tracks r → x.2.Tracks r := by
    rw [managers] at hx
    obtain rfl | hx := mem_replace (a := (n, m)) hx
    · exact ⟨(n, m), hmem, ⟨like.config, like.deviceId?⟩, old⟩
    · exact ⟨x, hm ▸ hx, ⟨rfl, rfl⟩, fun _ => id⟩
  refine h.of_append account (T := T₁ ++ ⟨.create device.handle.id order.creation, true⟩ :: T₂) ?_ ?_ covers
    ?_ (fun x hx => ?_) ?_ ?_ ?_
  · change s'.pool.env.driver.trace = _
    rw [hp]
    exact hT
  · intro id
    rw [ended_append_iff, ← List.singleton_append, ended_append_iff]
    rintro (hended | hended | hended)
    · exact not_ended_of_idle idle₁ hended
    · simp [Ended] at hended
    · exact not_ended_of_idle idle₂ hended
  · intro r' hinit
    by_cases heq : r' = r
    · rw [hp, heq]
      exact Pool.isHeld_iff.2 ⟨(name, r), List.mem_append_right _ (List.mem_singleton.2 rfl), .inl rfl⟩
    · have hheld := adds.isHeld r' (h.held (inits heq hinit))
      obtain ⟨holder, hholder, carries⟩ := Pool.isHeld_iff.1 hheld
      rw [hp]
      exact Pool.isHeld_iff.2 ⟨holder, List.mem_append_left _ (adds.held ▸ hholder), carries⟩
  · obtain ⟨x', hx', same, -⟩ := staff x hx
    exact ⟨x', hx', same⟩
  · rw [managers, deviceIds_replace like.deviceId?, ← hm]
    exact h.nodup
  · intro x hx manages r' slot hslot hinit hxid
    rcases slots hslot with ⟨rfl, rfl⟩ | ⟨hne, hslot⟩
    · rw [managers] at hx
      rcases mem_around hx with rfl | hx
      · exact new (like.config ▸ manages)
      · exact absurd hxid (h.deviceId_ne hm hx hid)
    · obtain ⟨x', hx', ⟨config, same⟩, tracks⟩ := staff x hx
      exact tracks r' (h.tracked hx' (config ▸ manages) hslot (inits hne hinit) (same ▸ hxid))
  · intro r' slot hslot
    rcases slots hslot with ⟨rfl, rfl⟩ | ⟨-, hslot⟩
    · obtain ⟨m₀, hm₀, hid₀, -⟩ := h.hired hmem hid
      exact mem_deviceIds.2 ⟨m₀, hm₀, hid₀⟩
    · exact h.served hslot

/-- A manager lets go of its device, on which nothing is left if it manages its resources. -/
theorem of_shut (h : s.Settled life known) (unique : (deviceIds known).Nodup)
    (hm : s.managers = l₁ ++ (n, m) :: l₂) {device : Ownership d.recorded.Device}
    (hd : m.device = some device) (closed : m'.device = none)
    (gone : m.config.manageResources →
      ∀ r, m.Tracks r → s.pool.isHeld r → s.pool.isInit r = false)
    (account : s'.Accounted life) (hp : s'.pool = s.pool.withEnv (m.shut device s.pool.env))
    (managers : s'.managers = l₁ ++ (n, m') :: l₂) : s'.Settled life known := by
  have hid : m.deviceId? = some device.handle.id := deviceId?_eq_some.2 ⟨device, hd, rfl⟩
  have hmem : (n, m) ∈ s.managers := hm ▸ List.mem_append_right _ List.mem_cons_self
  obtain ⟨m₀, hm₀, hid₀, config₀⟩ := h.hired hmem hid
  obtain ⟨T, hT, shuts⟩ := trace_shut life m device s.pool.env
  have trace : s'.trace = s.trace ++ (⟨.releaseDevice device.handle.id, true⟩ :: T) := by
    change s'.pool.env.driver.trace = _
    rw [hp]
    exact hT
  have ends (id : Nat) : Ended s'.trace id → Ended s.trace id ∨ id = device.handle.id := by
    rw [trace, ended_append_iff]
    exact Or.imp_right shuts.eq_of_ended
  have slots : s'.pool.slot? = s.pool.slot? := by rw [hp, Pool.slot?_withEnv]
  have inits (r : ResourceId) : s'.pool.isInit r = s.pool.isInit r := by
    rw [Pool.isInit_eq, Pool.isInit_eq, slots]
  have staff {x id} (hx : x ∈ s'.managers) (hxid : x.2.deviceId? = some id) :
      x ∈ s.managers ∧ id ≠ device.handle.id := by
    rw [managers] at hx
    rcases mem_around hx with rfl | hx
    · obtain ⟨o, ho, -⟩ := deviceId?_eq_some.1 hxid
      rw [closed] at ho
      cases ho
    · refine ⟨hm ▸ mem_of_around hx, ?_⟩
      rintro rfl
      exact h.deviceId_ne hm hx hid hxid
  refine ⟨account, ?_, h.covers.bare trace shuts.bare slots, ?_, ?_, ?_, ?_, ?_, ?_, ?_⟩
  · rw [trace, ← List.singleton_append, ← List.append_assoc]
    refine always_settles_append (Always.snoc_iff.2 ⟨h.settles, ?_⟩) ?_
    · -- The device is that of the manager, which has destroyed what it tracks.
      rintro m₁ hm₁ id manages hid₁ ⟨⟩ kind object made
      obtain rfl := Manager.eq_of_nodup unique hm₀ hm₁ hid₀ hid₁
      rcases h.covers _ _ _ made with destroyed | ended | ⟨r, slot, x, hslot, hx, rfl⟩
      · exact destroyed
      · exact absurd ended (h.lasting hmem hid)
      · have hinit : s.pool.isInit r := Pool.isInit_iff.2 ⟨slot, x, hslot, hx⟩
        have place := (made.unique (h.account.pool.made hslot hx)).2
        have tracks := h.tracked hmem (config₀ ▸ manages) hslot hinit (place ▸ hid)
        rw [gone (config₀ ▸ manages) r tracks (h.held hinit)] at hinit
        cases hinit
    · exact fun event hevent id => shuts.ne_release hevent
  · intro r hinit
    rw [inits] at hinit
    rw [hp, Pool.isHeld_withEnv]
    exact h.held hinit
  · intro x r slot hx manages hslot hinit hxid
    rw [slots] at hslot
    rw [inits] at hinit
    exact h.tracked (staff hx hxid).1 manages hslot hinit hxid
  · refine h.nodup.sublist ?_
    have none : m'.deviceId? = none := by rw [deviceId?, closed, Option.map_none]
    rw [managers, hm]
    simp only [deviceIds, List.map_append, List.map_cons, List.filterMap_append,
      List.filterMap_cons, none, hid]
    exact List.Sublist.append_left (List.sublist_cons_self _ _) _
  · intro x id hx hxid hended
    rcases ends id hended with hended | rfl
    · exact h.lasting (staff hx hxid).1 hxid hended
    · exact (staff hx hxid).2 rfl
  · intro x id hx hxid
    exact h.hired (staff hx hxid).1 hxid
  · intro r slot hslot
    exact h.served (slots ▸ hslot)
  · intro id hended
    rcases ends id hended with hended | rfl
    · exact h.ended hended
    · exact mem_deviceIds.2 ⟨m₀, hm₀, hid₀⟩

/-- **Each move keeps what has to be destroyed in sight**, if no two managers use the same device and
the caller releases and destroys nothing by itself. -/
theorem of_move (h : s.Settled life known) (hm : Move (.lending d.recorded lending) s l s')
    (unique : (deviceIds (known ++ l)).Nodup) : s'.Settled life (known ++ l) := by
  have account := h.account.of_move hm
  have same (x) (hx : x ∈ s.managers) : ∃ y ∈ s.managers, (x.2.config = y.2.config ∧
      x.2.deviceId? = y.2.deviceId?) ∧ ∀ r, s.pool.isInit r → y.2.Tracks r → x.2.Tracks r :=
    ⟨x, hx, ⟨rfl, rfl⟩, fun _ _ tracks => tracks⟩
  have idles {e : Env d.recorded.State} (hidles : s.pool.env.driver.Idles life e.driver)
      (account : (s.withEnv e).Accounted life) : (s.withEnv e).Settled life known := by
    obtain ⟨T, hT, idle⟩ := hidles.trace
    exact h.of_idle account hT idle rfl (fun _ _ held => held) h.nodup same
  cases hm with
  | creates made =>
    obtain ⟨hidles, -⟩ : s.pool.env.driver.Idles life _ ∧ _ := idles_creates made
    obtain ⟨T, hT, idle⟩ := hidles.trace
    exact h.of_addManager account hT idle rfl rfl rfl unique
  | borrows hi hx may made =>
    have hidles : s.pool.env.driver.Idles life _ := idles_asked made.asked
    obtain ⟨T, hT, idle⟩ := hidles.trace
    exact h.of_addManager account hT idle rfl rfl rfl unique
  | turns turn =>
    rw [List.append_nil]
    exact idles (idles_idled (idled_turn turn)) account
  | keeps hx =>
    rw [List.append_nil]
    exact h.of_idle account (List.append_nil _).symm nofun rfl (fun _ _ held => held) h.nodup same
  | makes hm hd may made like old new =>
    rw [List.append_nil]
    exact h.of_makes hm hd made like old new account rfl rfl
  | destroys r =>
    rw [List.append_nil]
    exact h.destroy account
  | reholds hkept =>
    rw [List.append_nil]
    exact h.of_idle account (List.append_nil _).symm nofun rfl hkept h.nodup same
  | edits ht buffer =>
    rw [List.append_nil]
    refine h.of_idle account (List.append_nil _).symm nofun (Pool.slot?_set ht buffer)
      (fun _ _ held => held) h.nodup same
  | @prunes n m m' l₁ l₂ hm like useful =>
    rw [List.append_nil]
    refine h.of_idle account (List.append_nil _).symm nofun rfl (fun _ _ held => held) ?_ fun x hx => ?_
    · change (deviceIds ((l₁ ++ (n, m') :: l₂).map (·.2))).Nodup
      rw [deviceIds_replace like.deviceId?, ← hm]
      exact h.nodup
    · obtain rfl | hx := mem_replace (a := (n, m)) hx
      · refine ⟨(n, m), hm ▸ List.mem_append_right _ List.mem_cons_self,
          ⟨like.config, like.deviceId?⟩, fun r hinit tracks => useful r tracks ?_⟩
        rw [Pool.isUsable, h.held hinit, hinit]
        rfl
      · exact same x (hm ▸ hx)
  | closes hm hd closed left gone stay =>
    rw [List.append_nil] at unique ⊢
    exact h.of_shut unique hm hd closed gone account rfl rfl
  | @forgets n m l₁ l₂ hm closed =>
    rw [List.append_nil]
    have sublist : List.Sublist (l₁ ++ l₂) s.managers := by
      rw [hm]
      exact List.Sublist.append_left (List.sublist_cons_self _ _) _
    refine h.of_idle account (List.append_nil _).symm nofun rfl (fun _ _ held => held) ?_ fun x hx => ?_
    · exact h.nodup.sublist ((sublist.map _).filterMap _)
    · exact same x (sublist.subset hx)
  | lendsInstance may made =>
    rw [List.append_nil]
    have hidles : s.pool.env.driver.Idles life _ :=
      idles_idled (.of_ok (.createInstance _ _) made)
    obtain ⟨T, hT, idle⟩ := hidles.trace
    exact h.of_idle account hT idle rfl (fun _ _ held => held) h.nodup same
  | lendsDevice hi may made =>
    rw [List.append_nil]
    obtain ⟨hidles, -⟩ : s.pool.env.driver.Idles life _ ∧ _ := idles_createDevice made
    obtain ⟨T, hT, idle⟩ := hidles.trace
    exact h.of_idle account hT idle rfl (fun _ _ held => held) h.nodup same
  | endsInstance hi may stay => exact may.elim
  | releasesDevice hx may stay => exact may.elim
  | endsDevice hx may stay => exact may.elim

end Settled

/-! ## Runs -/

theorem settled_start {inner : d.State} (sound : life.Sound inner) :
    (recordedStart inner).Settled life [] := by
  refine ⟨accounted_start sound, Always.nil, ?_, ?_, fun hx => absurd hx managers_start, .nil,
    fun hx => absurd hx managers_start, fun hx => absurd hx managers_start,
    fun hs => absurd hs slot?_start, ?_⟩
  · intro kind device object made
    exact absurd made.lt_length (Nat.not_lt_zero _)
  · intro r hinit
    obtain ⟨s, x, hs, -⟩ := Pool.isInit_iff.1 hinit
    exact absurd hs slot?_start
  · rintro id (hmem | hmem) <;> cases hmem

theorem settled_recordedRun {inner : d.State} (sound : life.Sound inner) {ops : List Operation}
    (hlending : ∀ c, .call c ∈ ops → lending c)
    (unique : (deviceIds (madeManagers ops (recordedStart inner))).Nodup) :
    (recordedRun inner ops).Settled life (madeManagers ops (recordedStart inner)) := by
  have obs := observesAll_lending (d := d.recorded) lending
    (fun c hc => ⟨?_, hlending c hc⟩) (recordedStart inner)
  · have run := (reaches_steps (named_start _) obs).moves
    refine run.induct (I := fun known s => (deviceIds known).Nodup → s.Settled life known) ?_
      (k := []) (fun _ => settled_start sound) unique
    intro known s l s' hm h unique
    refine (h ?_).of_move hm unique
    rw [deviceIds_append, List.nodup_append] at unique
    exact unique.1
  · cases c <;> first | rfl | exact (hlending _ hc).elim

/-- At a release of the device of a manager with resource management nothing is left on the device. -/
theorem Settled.cleared_before (h : s.Settled life known) {m : Manager d.recorded} (hm : m ∈ known)
    (manages : m.config.manageResources) {id : Nat} (hid : m.deviceId? = some id)
    {before after : Trace} (hs : s.trace = before ++ ⟨.releaseDevice id, true⟩ :: after) :
    Cleared before id := by
  have lawful : Always Lawful before := by
    have lawful := h.account.pool.lawful
    rw [show s.pool.env.driver.trace = _ from hs] at lawful
    exact (Always.append_iff.1 lawful).1
  intro kind object made
  have place {device : Nat} (hmem : (⟨.destroy device kind object, true⟩ : Event) ∈ before) :
      device = id := by
    obtain ⟨first, last, rfl⟩ := List.append_of_mem hmem
    exact (made.unique ((lawful _ _ _ rfl _ _ _ rfl).1.append _)).2
  obtain ⟨device, hmem⟩ := h.settles before _ after hs m hm id manages hid rfl kind object made
  refine ⟨?_, fun _ => place⟩
  rw [place hmem] at hmem
  exact Nat.le_antisymm (destroyed_once lawful id) (List.count_pos_iff.2 hmem)

theorem madeManagers_append (os os' : List Operation) (s : Session d) :
    madeManagers (os ++ os') s = madeManagers os s ++ madeManagers os' (steps os s) := by
  induction os generalizing s with
  | nil => rfl
  | cons o os ih =>
    rw [List.cons_append, madeManagers, ih, madeManagers, steps_cons, List.append_assoc]

theorem recordedRun_append (inner : d.State) (ops : List Operation) (o : Operation) :
    recordedRun inner (ops ++ [o]) = (step o).after (recordedRun inner ops) := by
  unfold recordedRun steps
  rw [List.foldl_append]
  rfl

/-- What is done to a manager that is torn down, by destroying or dropping it. -/
theorem trace_teardown {name : String} {m : Manager d} {o : Operation} {s : Session d}
    (hm : s.managers.lookup name = some m) (hd : m.device.isSome)
    (ho : o = .destroyManager name ∨ o = .dropManager name) :
    ((step o).after s).pool = (m.destroy s.pool).2 := by
  rcases ho with rfl | rfl
  · unfold step
    rw [after_withManager, hm]
    rfl
  · unfold step
    rw [after_withManager, hm]
    change (dropManager name s).pool = _
    unfold dropManager
    rw [hm]
    change m.drop s.pool = _
    unfold Manager.drop Manager.isDestroyed
    rw [if_neg]
    simp [Option.isSome_iff_ne_none.1 hd]

/-- **Nothing is left when a device is released.** No two managers use the same device, and the caller
releases and destroys nothing by itself; otherwise anything may happen in any order, and any call may
fail. Then at each release of the device of a manager with resource management, whatever was made on
the device has been destroyed exactly once. Such a release comes with the destruction of the manager,
and with its drop. -/
theorem settlement (life : d.Lifetimes) {inner : d.State} (sound : life.Sound inner)
    {ops : List Operation} (hlending : ∀ c, .call c ∈ ops → lending c)
    (unique : (deviceIds (madeManagers ops (recordedStart inner))).Nodup) :
    let s := recordedRun inner ops
    (∀ m ∈ madeManagers ops (recordedStart inner), m.config.manageResources →
      ∀ id, m.deviceId? = some id →
      ∀ before after, s.trace = before ++ ⟨.releaseDevice id, true⟩ :: after → Cleared before id) ∧
    ∀ name m, s.managers.lookup name = some m → m.config.manageResources →
      ∀ id, m.deviceId? = some id → ∀ o, o = .destroyManager name ∨ o = .dropManager name →
      ∃ before after, ((step o).after s).trace =
        s.trace ++ before ++ ⟨.releaseDevice id, true⟩ :: after ∧ Cleared (s.trace ++ before) id := by
  intro s
  have h : s.Settled life _ := settled_recordedRun sound hlending unique
  refine ⟨fun m hm manages id hid before after hs => h.cleared_before hm manages hid hs, ?_⟩
  intro name m hm manages id hid o ho
  obtain ⟨device, hd, rfl⟩ := deviceId?_eq_some.1 hid
  obtain ⟨m₀, hm₀, hid₀, config⟩ := h.hired (mem_of_lookup hm) hid
  have more : madeManagers (ops ++ [o]) (recordedStart inner) =
      madeManagers ops (recordedStart inner) := by
    rw [madeManagers_append]
    obtain rfl | rfl := ho <;> exact List.append_nil _
  have after : ((step o).after s).Settled life
      (madeManagers ops (recordedStart inner)) := by
    rw [← more, ← recordedRun_append]
    refine settled_recordedRun sound (fun c hc => ?_) (more ▸ unique)
    rcases List.mem_append.1 hc with hc | hc
    · exact hlending c hc
    · obtain rfl | rfl := ho <;> cases List.mem_singleton.1 hc
  obtain ⟨T, hT⟩ := (destroys_cleared m s.pool).1.trace_append
  obtain ⟨T', hT', -⟩ := trace_shut life m device (cleared m s.pool).env
  have trace : ((step o).after s).trace =
      s.trace ++ T ++ ⟨.releaseDevice device.handle.id, true⟩ :: T' := by
    change ((step o).after s).pool.env.driver.trace = _
    rw [trace_teardown hm (by simp [hd]) ho, (destroy_of_device hd s.pool).2.2, Pool.env_withEnv, hT', hT]
  exact ⟨T, T', trace, after.cleared_before hm₀ (config ▸ manages) hid₀ trace⟩

/-- A manager makes a tensor, an algorithm and a sequence, of which only the sequence is destroyed by
the caller and the tensor is held through the algorithm only. -/
def leftBehind : List Operation :=
  [.createManager "manager" {} {}, .tensorOfBytes "manager" "tensor" [1, 2, 3, 4] 1 4 .int,
    .algorithm "manager" "algorithm" ["tensor"] [1], .sequence "manager" "sequence" 0 0,
    .drop "tensor", .destroy "sequence", .destroyManager "manager"]

/-- The driver in memory, with one adapter whose queues compute. -/
def computing : InMemory.driver.State :=
  ({ offer := { adapters := [⟨InMemory.plainProperties none 1, [⟨2, 1, 0⟩], []⟩] } } : InMemory.State)

theorem settlement_leftBehind :
    let s := recordedRun computing leftBehind
    s.trace[14]? = some ⟨.releaseDevice 6, true⟩ ∧ Made (s.trace.take 14) .buffer 6 8 ∧
      Made (s.trace.take 14) .pipeline 6 9 ∧ Made (s.trace.take 14) .batch 6 10 ∧
      Cleared (s.trace.take 14) 6 := by
  intro s
  have sound : InMemory.lifetimes.Sound computing := nofun
  have hlending : ∀ c, .call c ∈ leftBehind → lending c := by
    intro c hc
    simp [leftBehind] at hc
  obtain ⟨m, made, config, device⟩ : ∃ m : Manager InMemory.driver.recorded,
      madeManagers leftBehind (recordedStart computing) = [m] ∧
      m.config.manageResources ∧ m.deviceId? = some 6 := ⟨_, rfl, rfl, rfl⟩
  have unique : (deviceIds (madeManagers leftBehind (recordedStart computing))).Nodup := by
    rw [made, deviceIds_singleton, device]
    simp
  have cleared := (settlement InMemory.lifetimes sound hlending unique).1 m
    (made ▸ List.mem_singleton.2 rfl) config 6 device (s.trace.take 14) (s.trace.drop 15) rfl
  exact ⟨rfl, ⟨.buffer 4 0x33, rfl, rfl⟩, ⟨.pipeline _, rfl, rfl⟩, ⟨.batch 0 0, rfl, rfl⟩, cleared⟩

end Session

end GpuCompute
