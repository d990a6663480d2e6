import GpuCompute.Manager
import GpuCompute.Proofs.Capabilities
import GpuCompute.Proofs.Events
import GpuCompute.Proofs.Transcripts

/-!
# What is negotiated before something is made

The transcript of the making of a manager shows that nothing is made before the driver has offered all
that is asked for: an instance only with the debug extensions and the layers of the configuration, if
diagnostics are on, and a device only on an adapter that there is, with queue families that were
selected or found, and with all of its extensions and layers. What is made is what was negotiated. The
other way round, a manager is made if no call fails and every answer suffices
(`Manager.negotiated_creation`).
-/

namespace GpuCompute

/-! ## Names -/

namespace Capability

variable {name : String}

@[simp] theorem mem_distinct {l : List String} : name ∈ distinct l ↔ name ∈ l := by
  induction l with
  | nil => rfl
  | cons first rest ih =>
    rw [distinct, List.mem_cons, List.mem_cons, List.mem_filter, ih, bne_iff_ne]
    by_cases h : name = first <;> simp [h]

/-- Names without repetitions stand where they first appear. -/
theorem pairwise_distinct (l : List String) :
    (distinct l).Pairwise fun a b => l.idxOf a < l.idxOf b := by
  induction l with
  | nil => exact .nil
  | cons first rest ih =>
    have later {name : String} (h : name ∈ (distinct rest).filter (· != first)) :
        (first :: rest).idxOf name = rest.idxOf name + 1 := by
      have apart : (first == name) = false :=
        beq_false_of_ne (Ne.symm (bne_iff_ne.1 (List.mem_filter.1 h).2))
      rw [List.idxOf_cons, apart, cond_false]
    rw [distinct, List.pairwise_cons]
    refine ⟨fun b hb => ?_, (ih.filter _).imp_of_mem fun ha hb h => ?_⟩
    · rw [later hb, List.idxOf_cons_self]
      exact Nat.succ_pos _
    · rw [later ha, later hb]
      exact Nat.succ_lt_succ h

theorem nodup_distinct (l : List String) : (distinct l).Nodup :=
  (pairwise_distinct l).imp fun h same => absurd h (by rw [same]; exact Nat.lt_irrefl _)

example : distinct ["b", "a", "b"] = ["b", "a"] := by decide

end Capability

theorem firstComputeFamily?_isSome {families : List QueueFamily} :
    (firstComputeFamily? families).isSome ↔ ∃ family ∈ families, family.supportsCompute := by
  rw [firstComputeFamily?, Option.isSome_map, List.findIdx?_isSome, List.any_eq_true]

namespace Bootstrap

variable {d : Driver} {config : Config} {selection : Selection} {α β : Type}

/-! ## What is to be made -/

/-- What an instance is made with. -/
def instanceOf (config : Config) : InstanceDescriptor where
  applicationName := config.applicationName
  applicationVersion := config.applicationVersion
  apiVersion := config.apiVersion
  extensions := if config.diagnostics then debugExtensions else []
  layers := if config.diagnostics then config.instanceLayers else []
  debugPrintf := config.diagnostics && !config.instanceLayers.isEmpty

/-- The extensions that are desired of a device, as often as they are. -/
def desiredExtensions (config : Config) (selection : Selection) : List String :=
  selection.extensions ++ if config.diagnostics then [shaderPrintExtension] else []

/-! ## What was answered -/

/-- All of some names are among those that the driver offered last. -/
def Offered (question : Except Error (List String) → Exchange d) (wanted : List String)
    (l : Transcript d) : Prop := ∃ offered, Answered question (.ok offered) l ∧ wanted ⊆ offered

theorem Offered.prepend {question : Except Error (List String) → Exchange d} {wanted : List String}
    {l : Transcript d} (h : Offered question wanted l) (l₀ : Transcript d) :
    Offered question wanted (l₀ ++ l) :=
  h.imp fun _ offered => ⟨offered.1.prepend l₀, offered.2⟩

/-- The families of a device's queues: they were selected, or the first one that computes was found. -/
inductive Families (selection : Selection) (inst : d.Instance) (adapter : AdapterHandle)
    (l : Transcript d) : List UInt32 → Prop
  | selected (given : selection.families ≠ []) : Families selection inst adapter l selection.families
  | found {families : List QueueFamily} {family : UInt32} (given : selection.families = [])
    (answered : Answered (.queueFamilies inst adapter) families l)
    (first : firstComputeFamily? families = some family) : Families selection inst adapter l [family]

theorem Families.prepend {inst : d.Instance} {adapter : AdapterHandle} {l : Transcript d}
    {families : List UInt32} (h : Families selection inst adapter l families) (l₀ : Transcript d) :
    Families selection inst adapter (l₀ ++ l) families := by
  cases h with
  | selected given => exact .selected given
  | found given answered first => exact .found given (answered.prepend l₀) first

/-- An instance may be asked for, and it is asked for as it was negotiated. -/
structure NegotiatedInstance (config : Config) (what : InstanceDescriptor) (l : Transcript d) :
    Prop where
  what_eq : what = instanceOf config
  extensions : config.diagnostics → Offered .instanceExtensions debugExtensions l
  layers : config.diagnostics → Offered .instanceLayers config.instanceLayers l

/-- A device may be asked for, and it is asked for as it was negotiated. -/
structure NegotiatedDevice (config : Config) (selection : Selection) (inst : d.Instance)
    (adapter : AdapterHandle) (what : DeviceDescriptor) (l : Transcript d) : Prop where
  exists_adapter : ∃ adapters, Answered (.adapters inst) (.ok adapters) l ∧
    adapters[selection.adapterIndex.toNat]? = some adapter
  exists_families : ∃ families, Families selection inst adapter l families ∧
    what.queues = Queue.requests families
  /-- The adapter has all extensions, -/
  extensions : Offered (.deviceExtensions inst adapter) what.extensions l
  /-- which are those that are desired, -/
  mem_extensions : ∀ name, name ∈ what.extensions ↔ name ∈ desiredExtensions config selection
  /-- each of them once, -/
  nodup : what.extensions.Nodup
  /-- in the order in which they are first mentioned. -/
  ordered : what.extensions.Pairwise fun a b =>
    (desiredExtensions config selection).idxOf a < (desiredExtensions config selection).idxOf b
  layers_eq : what.layers = if config.diagnostics then config.deviceLayers else []
  layers : config.diagnostics → Offered .instanceLayers config.deviceLayers l

/-- Nothing is made before it was negotiated. -/
def Gated (config : Config) (selection : Selection) (before : Transcript d) : Exchange d → Prop
  | .createInstance what _ => NegotiatedInstance config what before
  | .createDevice inst adapter what _ => (∃ what, .createInstance what (.ok inst) ∈ before) ∧
    NegotiatedDevice config selection inst adapter what before
  | _ => True

/-! ## What suffices -/

/-- An answer with which an instance can be made. -/
def SufficesInstance (config : Config) : Exchange d → Prop
  | .instanceExtensions (.ok offered) => config.diagnostics → debugExtensions ⊆ offered
  | .instanceLayers (.ok offered) => config.instanceLayers ⊆ offered
  | x => x.Succeeded

/-- An answer with which a device can be made. -/
def SufficesDevice (config : Config) (selection : Selection) : Exchange d → Prop
  | .adapters _ (.ok adapters) => selection.adapterIndex.toNat < adapters.length
  | .queueFamilies _ _ families => ∃ family ∈ families, family.supportsCompute
  | .deviceExtensions _ _ (.ok offered) => desiredExtensions config selection ⊆ offered
  | .instanceLayers (.ok offered) => config.deviceLayers ⊆ offered
  | x => x.Succeeded

/-- Whether an instance was asked for. -/
def Opened (l : Transcript d) : Prop := ∃ what answer, .createInstance what answer ∈ l

/-- An answer with which a manager can be made: first its instance, and then its device. -/
def Suffices (config : Config) (selection : Selection) (before : Transcript d) (x : Exchange d) :
    Prop :=
  (¬ Opened before → SufficesInstance config x) ∧ (Opened before → SufficesDevice config selection x)

/-! ## Negotiations -/

theorem says_negotiation (kind : CapabilityKind) (requested available : List String) :
    Says (fun r l => r = Capability.negotiate kind requested available ∧ l = [])
      (Negotiation.run kind requested available : Act (Scribe d) (List String)) :=
  .write_bind (.write_bind (.ofExcept ⟨rfl, rfl⟩))

/-- What comes after a negotiation knows that all is available that was requested. -/
theorem says_negotiation_bind {kind : CapabilityKind} {requested available : List String}
    {S : Except Error α → Transcript d → Prop} {f : List String → Act (Scribe d) α}
    (lacking : ¬ requested ⊆ available → ∀ error, S (.error error) [])
    (agreed : requested ⊆ available → Says S (f requested)) :
    Says S (Negotiation.run kind requested available >>= f) := by
  by_cases h : requested ⊆ available
  · have same := Capability.negotiate_of_subset h kind
    refine (says_negotiation kind requested available).bind ?_ ?_ <;> rw [same]
    · rintro error _ ⟨⟨⟩, -⟩
    · rintro _ _ ⟨⟨⟩, rfl⟩
      exact agreed h
  · have same := Capability.negotiate_of_missing h kind
    refine (says_negotiation kind requested available).bind ?_ ?_ <;> rw [same]
    · rintro _ _ ⟨⟨⟩, rfl⟩
      exact lacking h _
    · rintro _ _ ⟨⟨⟩, -⟩

/-- How layers are negotiated: only with diagnostics, and against those of the instance. -/
inductive EnablesLayers (wanted : List String) :
    Bool → Except Error (List String) → Transcript d → Prop
  | off : EnablesLayers wanted false (.ok []) []
  | agreed {offered : List String} (h : wanted ⊆ offered) :
    EnablesLayers wanted true (.ok wanted) [.instanceLayers (.ok offered)]
  | lacking {offered : List String} {error : Error} (h : ¬ wanted ⊆ offered) :
    EnablesLayers wanted true (.error error) [.instanceLayers (.ok offered)]
  | failed {error : Error} :
    EnablesLayers wanted true (.error error) [.instanceLayers (.error error)]

theorem EnablesLayers.eq_instanceLayers {wanted : List String} {on : Bool} {r : Except Error (List String)}
    {l : Transcript d} (h : EnablesLayers wanted on r l) :
    ∀ x ∈ l, ∃ answer, x = .instanceLayers answer := by
  cases h <;> simp

theorem EnablesLayers.all_questions {wanted : List String} {on : Bool} {r : Except Error (List String)}
    {l : Transcript d} (h : EnablesLayers wanted on r l) : ∀ x ∈ l, x.IsQuestion := by
  intro x hx
  obtain ⟨_, rfl⟩ := h.eq_instanceLayers x hx
  trivial

theorem EnablesLayers.ok_iff {wanted : List String} {on : Bool} {r : Except Error (List String)}
    {l : Transcript d} {P : Exchange d → Prop} (h : EnablesLayers wanted on r l)
    (hok : ∀ offered, P (.instanceLayers (.ok offered)) ↔ wanted ⊆ offered)
    (herror : ∀ error, ¬ P (.instanceLayers (.error error))) :
    (∃ layers, r = .ok layers) ↔ ∀ x ∈ l, P x := by
  cases h with
  | off => simp
  | agreed h => simp [hok, h]
  | lacking h => simp [hok, h]
  | failed => simp [herror]

theorem says_layers (config : Config) (kind : CapabilityKind) (announcement : String)
    (wanted : List String) :
    Says (EnablesLayers wanted config.diagnostics)
      (layers d.transcribed config kind announcement wanted) := by
  unfold layers
  cases config.diagnostics with
  | false => exact .pure .off
  | true =>
    refine .write_bind (.ask_bind (fun error => .failed) fun offered => ?_)
    by_cases h : wanted ⊆ offered
    · refine (says_negotiation kind wanted offered).mono ?_
      rw [Capability.negotiate_of_subset h]
      rintro _ _ ⟨rfl, rfl⟩
      exact .agreed h
    · refine (says_negotiation kind wanted offered).mono ?_
      have same := Capability.negotiate_of_missing h kind
      rw [same]
      rintro _ _ ⟨rfl, rfl⟩
      exact .lacking h

/-! ## Instances -/

theorem wantedInstanceExtensions_subset_iff {offered : List String} :
    wantedInstanceExtensions config ⊆ offered ↔ (config.diagnostics → debugExtensions ⊆ offered) := by
  unfold wantedInstanceExtensions
  cases config.diagnostics <;> simp

/-- What is said before an instance is asked for. -/
structure DescribesInstance (config : Config) (r : Except Error InstanceDescriptor)
    (l : Transcript d) : Prop where
  questions : ∀ x ∈ l, x.IsQuestion
  decided : (∃ what, r = .ok what) ↔ ∀ x ∈ l, SufficesInstance config x
  negotiated : ∀ what, r = .ok what → NegotiatedInstance config what l

theorem DescribesInstance.of_not_all {error : Error} {l : Transcript d}
    (questions : ∀ x ∈ l, x.IsQuestion) (h : ¬ ∀ x ∈ l, SufficesInstance config x) :
    DescribesInstance config (.error error) l where
  questions := questions
  decided := ⟨nofun, fun all => absurd all h⟩
  negotiated := nofun

/-- The negotiation of an instance that came to an end. -/
theorem negotiatedInstance {offered layers : List String} {l : Transcript d}
    (hextensions : config.diagnostics → debugExtensions ⊆ offered)
    (hlayers : EnablesLayers config.instanceLayers config.diagnostics (.ok layers) l) :
    NegotiatedInstance config
      (instanceDescriptor config (wantedInstanceExtensions config) layers)
      (.instanceExtensions (.ok offered) :: l) where
  what_eq := by
    unfold instanceDescriptor instanceOf wantedInstanceExtensions
    generalize config.diagnostics = on at hlayers
    cases hlayers <;> rfl
  extensions on := by
    refine ⟨offered, ⟨[], l, rfl, fun other h => ?_⟩, hextensions on⟩
    obtain ⟨_, ⟨⟩⟩ := hlayers.eq_instanceLayers _ h
  layers on := by
    rw [on] at hlayers
    cases hlayers with
    | @agreed available h => exact ⟨available, .prepend ⟨[], [], rfl, fun _ => List.not_mem_nil⟩ [_], h⟩

theorem says_describeInstance (config : Config) :
    Says (DescribesInstance config) (describeInstance d.transcribed config) := by
  refine .write_bind (.ask_bind ?asking fun offered => says_negotiation_bind ?lacking fun all =>
    .bind (says_layers config _ _ _) ?layers fun layers l hlayers => .pure ?agreed)
  case asking =>
    exact fun error => .of_not_all (List.forall_mem_singleton.2 trivial) fun all => all _ (.head _)
  case lacking =>
    exact fun lacking error => .of_not_all (List.forall_mem_singleton.2 trivial)
      fun all => lacking (wantedInstanceExtensions_subset_iff.2 (all _ (.head _)))
  case layers =>
    intro error l failed
    refine .of_not_all (List.forall_mem_cons.2 ⟨trivial, failed.all_questions⟩) fun all => ?_
    have decided := failed.ok_iff (P := SufficesInstance config) (fun _ => .rfl) fun _ => id
    obtain ⟨_, ⟨⟩⟩ := decided.2 fun x hx => all x (.tail _ hx)
  case agreed =>
    have all := wantedInstanceExtensions_subset_iff.1 all
    have decided := hlayers.ok_iff (P := SufficesInstance config) (fun _ => .rfl) fun _ => id
    rw [List.append_nil]
    refine ⟨List.forall_mem_cons.2 ⟨trivial, hlayers.all_questions⟩,
      iff_of_true ⟨_, rfl⟩ (List.forall_mem_cons.2 ⟨all, decided.1 ⟨_, rfl⟩⟩), ?_⟩
    rintro _ ⟨⟩
    exact negotiatedInstance all hlayers

/-- How an instance is made with its callbacks, or why it is not. -/
inductive OpensInstance (config : Config) :
    Except Error (InstanceParts d.transcribed) → Transcript d → Prop
  | undescribed {error : Error} {l : Transcript d} (h : DescribesInstance config (.error error) l) :
    OpensInstance config (.error error) l
  | unmade {what : InstanceDescriptor} {error : Error} {l : Transcript d}
    (h : DescribesInstance config (.ok what) l) :
    OpensInstance config (.error error) (l ++ [.createInstance what (.error error)])
  | unregistered {what : InstanceDescriptor} {inst : d.Instance} {error : Error} {l : Transcript d}
    (h : DescribesInstance config (.ok what) l) :
    OpensInstance config (.error error) (l ++ [.createInstance what (.ok inst),
      .registerCallbacks inst (.error error), .destroyInstance inst])
  | made {what : InstanceDescriptor} (parts : InstanceParts d.transcribed) {l : Transcript d}
    (h : DescribesInstance config (.ok what) l) :
    OpensInstance config (.ok parts) (l ++ .createInstance what (.ok parts.inst) ::
      parts.callbacks.elim [] fun c => [.registerCallbacks parts.inst (.ok c)])

theorem says_registerCallbacks (inst : d.Instance) :
    Says (fun r (l : Transcript d) => (∃ c, r = .ok c ∧ l = [.registerCallbacks inst (.ok c)]) ∨
        ∃ error, r = .error error ∧
          l = [.registerCallbacks inst (.error error), .destroyInstance inst])
      (Attempt.undoing (d.transcribed.destroyInstance inst)
        (d.transcribed.registerCallbacks inst)) := by
  refine .undoing (.ask _ _) (tells_one _ _) ?_ ?_
  · rintro c _ rfl
    exact .inl ⟨c, rfl, rfl⟩
  · rintro error _ _ rfl rfl
    exact .inr ⟨error, rfl, rfl⟩

theorem says_createInstance (config : Config) :
    Says (OpensInstance config) (createInstance d.transcribed config) := by
  refine .bind (says_describeInstance config) (fun error l h => .undescribed h) fun what l h =>
    .ask_bind (fun error => .unmade h) fun inst => .write_bind ?_
  split
  · refine .bind (says_registerCallbacks (d := d) inst) ?_ ?_
    · rintro error _ (⟨c, ⟨⟩, -⟩ | ⟨_, ⟨⟩, rfl⟩)
      exact .unregistered h
    · rintro c _ (⟨_, ⟨⟩, rfl⟩ | ⟨error, ⟨⟩, -⟩)
      exact .pure (.made ⟨inst, some c⟩ h)
  · exact .pure (.made ⟨inst, none⟩ h)

/-! ## Devices -/

theorem wantedDeviceExtensions_subset_iff {offered : List String} :
    wantedDeviceExtensions config selection ⊆ offered ↔
      desiredExtensions config selection ⊆ offered :=
  forall_congr' fun _ => imp_congr_left Capability.mem_distinct

/-- How queue families are chosen. -/
inductive ChoosesFamilies (selection : Selection) (inst : d.Instance) (adapter : AdapterHandle) :
    Except Error (List UInt32) → Transcript d → Prop
  | selected (given : selection.families ≠ []) :
    ChoosesFamilies selection inst adapter (.ok selection.families) []
  | found {families : List QueueFamily} {family : UInt32} (given : selection.families = [])
    (first : firstComputeFamily? families = some family) :
    ChoosesFamilies selection inst adapter (.ok [family]) [.queueFamilies inst adapter families]
  | missing {families : List QueueFamily} {error : Error}
    (first : firstComputeFamily? families = none) :
    ChoosesFamilies selection inst adapter (.error error) [.queueFamilies inst adapter families]

theorem says_families (selection : Selection) (inst : d.Instance) (adapter : AdapterHandle)
    (name : String) :
    Says (ChoosesFamilies selection inst adapter)
      (families d.transcribed inst adapter name selection) := by
  unfold families
  split
  · next empty =>
    refine .look_bind fun families => ?_
    have given := List.isEmpty_iff.1 empty
    split
    · next family first => exact .pure (.found given first)
    · next first => exact .throw (.missing first)
  · next given => exact .pure (.selected fun empty => given (List.isEmpty_iff.2 empty))

theorem ChoosesFamilies.eq_queueFamilies {inst : d.Instance} {adapter : AdapterHandle}
    {r : Except Error (List UInt32)} {l : Transcript d}
    (h : ChoosesFamilies selection inst adapter r l) :
    ∀ x ∈ l, ∃ families, x = .queueFamilies inst adapter families := by
  cases h <;> simp

theorem ChoosesFamilies.all_questions {inst : d.Instance} {adapter : AdapterHandle}
    {r : Except Error (List UInt32)} {l : Transcript d}
    (h : ChoosesFamilies selection inst adapter r l) : ∀ x ∈ l, x.IsQuestion := by
  intro x hx
  obtain ⟨_, rfl⟩ := h.eq_queueFamilies x hx
  trivial

theorem ChoosesFamilies.ok_iff {inst : d.Instance} {adapter : AdapterHandle}
    {r : Except Error (List UInt32)} {l : Transcript d}
    (h : ChoosesFamilies selection inst adapter r l) :
    (∃ families, r = .ok families) ↔ ∀ x ∈ l, SufficesDevice config selection x := by
  cases h with
  | selected given => simp
  | found given first =>
    refine iff_of_true ⟨_, rfl⟩ (List.forall_mem_singleton.2 ?_)
    exact firstComputeFamily?_isSome.1 (by rw [first]; rfl)
  | missing first =>
    refine iff_of_false nofun fun all => ?_
    have found := firstComputeFamily?_isSome.2 (all _ (.head _))
    rw [first] at found
    cases found

theorem adapterAt_eq_ok {adapters : List AdapterHandle} {index : UInt64} {adapter : AdapterHandle}
    (h : adapterAt adapters index = .ok adapter) : adapters[index.toNat]? = some adapter := by
  unfold adapterAt at h
  split at h
  · next found =>
    cases h
    exact found
  · split at h <;> cases h

theorem adapterAt_eq_error {adapters : List AdapterHandle} {index : UInt64} {error : Error}
    (h : adapterAt adapters index = .error error) : ¬ index.toNat < adapters.length := by
  unfold adapterAt at h
  split at h
  · cases h
  · next missing => exact Nat.not_lt.2 (List.getElem?_eq_none_iff.1 missing)

/-- What is said before a device is asked for. -/
structure DescribesDevice (config : Config) (selection : Selection) (inst : d.Instance)
    (r : Except Error DevicePlan) (l : Transcript d) : Prop where
  questions : ∀ x ∈ l, x.IsQuestion
  decided : (∃ plan, r = .ok plan) ↔ ∀ x ∈ l, SufficesDevice config selection x
  negotiated : ∀ plan, r = .ok plan →
    NegotiatedDevice config selection inst plan.adapter plan.descriptor l

theorem DescribesDevice.of_not_all {inst : d.Instance} {error : Error} {l : Transcript d}
    (questions : ∀ x ∈ l, x.IsQuestion) (h : ¬ ∀ x ∈ l, SufficesDevice config selection x) :
    DescribesDevice config selection inst (.error error) l where
  questions := questions
  decided := ⟨nofun, fun all => absurd all h⟩
  negotiated := nofun

section

variable {inst : d.Instance} {adapter : AdapterHandle} {adapters : List AdapterHandle}
  {properties : DeviceProperties} {families : List UInt32} {offered layers : List String}
  {l l' : Transcript d}

/-- The negotiation of a device that came to an end. -/
theorem negotiatedDevice (hadapter : adapters[selection.adapterIndex.toNat]? = some adapter)
    (hfamilies : ChoosesFamilies selection inst adapter (.ok families) l)
    (hextensions : wantedDeviceExtensions config selection ⊆ offered)
    (hlayers : EnablesLayers config.deviceLayers config.diagnostics (.ok layers) l') :
    NegotiatedDevice config selection inst adapter
      { queues := Queue.requests families, extensions := wantedDeviceExtensions config selection,
        layers }
      (.adapters inst (.ok adapters) :: .properties inst adapter properties ::
        (l ++ .deviceExtensions inst adapter (.ok offered) :: l')) where
  exists_adapter := by
    refine ⟨adapters, ⟨[], _, rfl, fun other h => ?_⟩, hadapter⟩
    obtain ⟨⟩ | ⟨_, h⟩ := h
    obtain h | ⟨⟩ | ⟨_, h⟩ := List.mem_append.1 h
    · obtain ⟨_, ⟨⟩⟩ := hfamilies.eq_queueFamilies _ h
    · obtain ⟨_, ⟨⟩⟩ := hlayers.eq_instanceLayers _ h
  exists_families := by
    refine ⟨families, ?_, rfl⟩
    cases hfamilies with
    | selected given => exact .selected given
    | found given first =>
      refine .found given (.prepend ⟨[], _, rfl, fun other h => ?_⟩ [_, _]) first
      obtain ⟨⟩ | ⟨_, h⟩ := h
      obtain ⟨_, ⟨⟩⟩ := hlayers.eq_instanceLayers _ h
  extensions := by
    refine ⟨offered, ⟨_ :: _ :: l, l', rfl, fun other h => ?_⟩, hextensions⟩
    obtain ⟨_, ⟨⟩⟩ := hlayers.eq_instanceLayers _ h
  mem_extensions name := Capability.mem_distinct
  nodup := Capability.nodup_distinct _
  ordered := Capability.pairwise_distinct _
  layers_eq := by
    generalize config.diagnostics = on at hlayers
    cases hlayers <;> rfl
  layers on := by
    rw [on] at hlayers
    cases hlayers with
    | @agreed available h =>
      refine ⟨available, .prepend (.prepend (.prepend ?_ [_]) l) [_, _], h⟩
      exact ⟨[], [], rfl, fun _ => List.not_mem_nil⟩

end

theorem says_describeDevice (inst : d.Instance) (config : Config) (selection : Selection) :
    Says (DescribesDevice config selection inst)
      (describeDevice d.transcribed inst config selection) := by
  -- The adapters and the properties of one of them are asked for in any case.
  have questions {adapters : List AdapterHandle} {adapter : AdapterHandle}
      {properties : DeviceProperties} {l : Transcript d} (h : ∀ x ∈ l, x.IsQuestion) :
      ∀ x ∈ Exchange.adapters inst (.ok adapters) :: .properties inst adapter properties :: l,
        x.IsQuestion := List.forall_mem_cons.2 ⟨trivial, List.forall_mem_cons.2 ⟨trivial, h⟩⟩
  refine .write_bind (.ask_bind ?asking fun adapters => .ofExcept_bind ?reaching
    fun adapter hadapter => .look_bind fun properties => .write_bind
    (.bind (says_families selection inst adapter _) ?choosing fun families l hfamilies =>
    .ask_bind ?offering fun offered => says_negotiation_bind ?lacking fun hextensions =>
    .bind (says_layers config _ _ _) ?layers fun layers l' hlayers => .pure ?agreed))
  case asking =>
    exact fun error => .of_not_all (List.forall_mem_singleton.2 trivial) fun all => all _ (.head _)
  case reaching =>
    exact fun error failed => .of_not_all (List.forall_mem_singleton.2 trivial)
      fun all => adapterAt_eq_error failed (all _ (.head _))
  case choosing =>
    intro error l failed
    refine .of_not_all (questions failed.all_questions) fun all => ?_
    obtain ⟨_, ⟨⟩⟩ := failed.ok_iff.2 fun x hx => all x (.tail _ (.tail _ hx))
  case offering =>
    intro error
    refine .of_not_all (questions (List.forall_mem_append.2 ⟨hfamilies.all_questions,
      List.forall_mem_singleton.2 trivial⟩)) fun all => ?_
    exact all _ (.tail _ (.tail _ (List.mem_append_right _ (.head _))))
  case lacking =>
    intro lacking error
    refine .of_not_all (questions (List.forall_mem_append.2 ⟨hfamilies.all_questions,
      List.forall_mem_singleton.2 trivial⟩)) fun all => lacking ?_
    rw [wantedDeviceExtensions_subset_iff]
    exact all _ (.tail _ (.tail _ (List.mem_append_right _ (.head _))))
  case layers =>
    intro error l' failed
    refine .of_not_all (questions (List.forall_mem_append.2 ⟨hfamilies.all_questions,
      List.forall_mem_cons.2 ⟨trivial, failed.all_questions⟩⟩)) fun all => ?_
    have decided := failed.ok_iff (P := SufficesDevice config selection) (fun _ => .rfl) fun _ => id
    obtain ⟨_, ⟨⟩⟩ := decided.2 fun x hx =>
      all x (.tail _ (.tail _ (List.mem_append_right _ (.tail _ hx))))
  case agreed =>
    have decided := hlayers.ok_iff (P := SufficesDevice config selection) (fun _ => .rfl) fun _ => id
    rw [List.append_nil]
    refine ⟨questions (List.forall_mem_append.2 ⟨hfamilies.all_questions,
      List.forall_mem_cons.2 ⟨trivial, hlayers.all_questions⟩⟩), iff_of_true ⟨_, rfl⟩ ?_, ?_⟩
    · simp only [List.forall_mem_cons, List.forall_mem_append]
      exact ⟨(List.getElem?_eq_some_iff.1 (adapterAt_eq_ok hadapter)).1, trivial,
        hfamilies.ok_iff.1 ⟨_, rfl⟩, wantedDeviceExtensions_subset_iff.1 hextensions,
        decided.1 ⟨_, rfl⟩⟩
    · rintro _ ⟨⟩
      exact negotiatedDevice (adapterAt_eq_ok hadapter) hfamilies hextensions hlayers

/-- The queues that were fetched from slots of a device. -/
inductive Fetches (device : d.Device) :
    List (UInt32 × UInt32) → List Queue.Handle → Transcript d → Prop
  | nil : Fetches device [] [] []
  | cons {slot : UInt32 × UInt32} {queue : Queue.Handle} {slots : List (UInt32 × UInt32)}
    {queues : List Queue.Handle} {l : Transcript d} (h : Fetches device slots queues l) :
    Fetches device (slot :: slots) (queue :: queues) (.queue device slot.1 slot.2 queue :: l)

theorem fetches_fetchFrom (device : d.Device) (counters : Queue.Counters) (families : List UInt32)
    (e : Env (Scribe d)) :
    ∃ l, (fetchFrom d.transcribed device counters families e).2.driver.transcript =
        e.driver.transcript ++ l ∧
      Fetches device (Queue.slotsFrom counters families)
        (fetchFrom d.transcribed device counters families e).1 l := by
  induction families generalizing counters e with
  | nil => exact ⟨[], (List.append_nil _).symm, .nil⟩
  | cons family rest ih =>
    obtain ⟨l, said, h⟩ := ih (counters.draw family).2
      (d.transcribed.queue device family (counters.draw family).1 e).2
    refine ⟨_, ?_, .cons h⟩
    exact said.trans (List.append_assoc _ [_] _)

theorem says_fetchQueues (device : d.Device) (families : List UInt32) :
    Says (fun r l => ∃ queues, r = .ok queues ∧ Fetches device (Queue.slots families) queues l)
      (Attempt.ofState (fetchQueues d.transcribed device families)) := fun e =>
  (fetches_fetchFrom device [] families e).imp fun _ h => ⟨h.1, _, rfl, h.2⟩

/-- How a device is made and its queues are fetched, or why it is not. -/
inductive OpensDevice (config : Config) (selection : Selection) (inst : d.Instance) :
    Except Error (DeviceParts d.transcribed) → Transcript d → Prop
  | undescribed {error : Error} {l : Transcript d}
    (h : DescribesDevice config selection inst (.error error) l) :
    OpensDevice config selection inst (.error error) l
  | unmade {plan : DevicePlan} {error : Error} {l : Transcript d}
    (h : DescribesDevice config selection inst (.ok plan) l) :
    OpensDevice config selection inst (.error error)
      (l ++ [.createDevice inst plan.adapter plan.descriptor (.error error)])
  | made {plan : DevicePlan} {device : d.Device} {queues : List Queue.Handle}
    {l l' : Transcript d} (h : DescribesDevice config selection inst (.ok plan) l)
    (fetched : Fetches device (Queue.slots plan.families) queues l') :
    OpensDevice config selection inst (.ok ⟨plan.adapter, device, plan.families, queues⟩)
      (l ++ .createDevice inst plan.adapter plan.descriptor (.ok device) :: l')

theorem says_createDevice (inst : d.Instance) (config : Config) (selection : Selection) :
    Says (OpensDevice config selection inst)
      (createDevice d.transcribed inst config selection) := by
  refine .bind (says_describeDevice inst config selection) (fun error l h => .undescribed h)
    fun plan l h => .ask_bind (fun error => .unmade h) fun device => .write_bind
    (.bind (says_fetchQueues (d := d) device plan.families) ?_ ?_)
  · rintro error _ ⟨_, ⟨⟩, -⟩
  · rintro queues l' ⟨_, ⟨⟩, fetched⟩
    refine .write_bind (.pure ?_)
    rw [List.append_nil]
    exact .made h fetched

/-! ## What was made, and what had been answered before -/

section

variable {inst : d.Instance} {what : InstanceDescriptor} {l l₀ : Transcript d}

theorem gated_of_isQuestion {x : Exchange d} (h : x.IsQuestion) (before : Transcript d) :
    Gated config selection before x := by
  cases x <;> first | exact h.elim | trivial

theorem always_gated (h : ∀ x ∈ l, ∀ before, Gated config selection before x)
    (l₀ : Transcript d) : Always (fun before => Gated config selection (l₀ ++ before)) l :=
  (Always.forall_iff (R := fun _ => True) fun before x after hl =>
    iff_of_true (h x (by simp [hl]) _) trivial).2 fun _ _ => trivial

theorem not_opened_of_questions (h : ∀ x ∈ l, x.IsQuestion) : ¬ Opened l :=
  fun ⟨_, _, mem⟩ => h _ mem

theorem always_suffices_of_not_opened (h : ¬ Opened l) :
    Always (Suffices config selection) l ↔ ∀ x ∈ l, SufficesInstance config x := by
  refine Always.forall_iff fun before x after hl => ?_
  have still : ¬ Opened before := fun ⟨what, answer, mem⟩ => h ⟨what, answer, by simp [hl, mem]⟩
  simp [Suffices, still]

theorem always_suffices_of_opened (h : Opened l₀) :
    Always (fun before => Suffices config selection (l₀ ++ before)) l ↔
      ∀ x ∈ l, SufficesDevice config selection x := by
  refine Always.forall_iff fun before x after hl => ?_
  have still : Opened (l₀ ++ before) := by
    obtain ⟨what, answer, mem⟩ := h
    exact ⟨what, answer, List.mem_append_left _ mem⟩
  simp [Suffices, still]

/-- The answers before and after an instance is asked for. -/
theorem always_suffices_iff {answer : Except Error d.Instance} {l' : Transcript d}
    (h : ¬ Opened l) :
    Always (Suffices config selection) (l ++ .createInstance what answer :: l') ↔
      (∀ x ∈ l, SufficesInstance config x) ∧ (∃ inst, answer = .ok inst) ∧
        ∀ x ∈ l', SufficesDevice config selection x := by
  have opened : Opened (l ++ [.createInstance what answer]) :=
    ⟨what, answer, List.mem_append_right _ (.head _)⟩
  have asked : Suffices config selection l (.createInstance what answer) ↔
      ∃ inst, answer = .ok inst := by
    cases answer with
    | ok inst => exact iff_of_true ⟨fun _ => trivial, fun opened => absurd opened h⟩ ⟨inst, rfl⟩
    | error error => exact iff_of_false (fun suffices' => suffices'.1 h) nofun
  rw [List.append_cons, Always.append_iff, Always.snoc_iff, always_suffices_of_not_opened h,
    always_suffices_of_opened opened, asked, and_assoc]

theorem DescribesInstance.all_gated (h : DescribesInstance config (.ok what) l)
    (answer : Except Error d.Instance) {l' : Transcript d}
    (quiet : ∀ x ∈ l', ∀ before, Gated config selection before x) :
    Always (Gated config selection) (l ++ .createInstance what answer :: l') := by
  rw [List.append_cons, Always.append_iff, Always.snoc_iff]
  exact ⟨⟨always_gated (fun x hx => gated_of_isQuestion (h.questions x hx)) [],
    h.negotiated what rfl⟩, always_gated quiet _⟩

theorem OpensInstance.all_gated {r : Except Error (InstanceParts d.transcribed)}
    (h : OpensInstance config r l) : Always (Gated config selection) l := by
  cases h with
  | undescribed h => exact always_gated (fun x hx => gated_of_isQuestion (h.questions x hx)) []
  | unmade h => exact h.all_gated _ (List.forall_mem_nil _)
  | unregistered h => exact h.all_gated _ (by simp [Gated])
  | @made _ parts _ h =>
    refine h.all_gated _ ?_
    cases parts.callbacks <;> simp [Gated]

theorem OpensInstance.ok_iff {r : Except Error (InstanceParts d.transcribed)}
    (h : OpensInstance config r l) :
    (∃ parts, r = .ok parts) ↔ Always (Suffices config selection) l := by
  cases h with
  | undescribed h =>
    rw [always_suffices_of_not_opened (not_opened_of_questions h.questions), ← h.decided]
    simp
  | unmade h =>
    rw [always_suffices_iff (not_opened_of_questions h.questions)]
    simp
  | unregistered h =>
    rw [always_suffices_iff (not_opened_of_questions h.questions)]
    simp [SufficesDevice, Exchange.Succeeded]
  | @made what parts l h =>
    rw [always_suffices_iff (not_opened_of_questions h.questions), ← h.decided]
    cases parts.callbacks <;> simp [SufficesDevice, Exchange.Succeeded]

theorem OpensInstance.createInstance_mem {parts : InstanceParts d.transcribed}
    (h : OpensInstance config (.ok parts) l) :
    .createInstance (instanceOf config) (.ok parts.inst) ∈ l := by
  cases h with
  | made _ h => simp [(h.negotiated _ rfl).what_eq]

theorem Fetches.all_questions {device : d.Device} {slots : List (UInt32 × UInt32)}
    {queues : List Queue.Handle} (h : Fetches device slots queues l) : ∀ x ∈ l, x.IsQuestion := by
  induction h with
  | nil => exact List.forall_mem_nil _
  | cons h ih => exact List.forall_mem_cons.2 ⟨trivial, ih⟩

theorem Fetches.all_suffice {device : d.Device} {slots : List (UInt32 × UInt32)}
    {queues : List Queue.Handle} (h : Fetches device slots queues l) :
    ∀ x ∈ l, SufficesDevice config selection x := by
  induction h with
  | nil => exact List.forall_mem_nil _
  | cons h ih => exact List.forall_mem_cons.2 ⟨trivial, ih⟩

theorem NegotiatedDevice.prepend {adapter : AdapterHandle} {what : DeviceDescriptor}
    (h : NegotiatedDevice config selection inst adapter what l) (l₀ : Transcript d) :
    NegotiatedDevice config selection inst adapter what (l₀ ++ l) where
  exists_adapter := h.exists_adapter.imp fun _ found => ⟨found.1.prepend l₀, found.2⟩
  exists_families := h.exists_families.imp fun _ found => ⟨found.1.prepend l₀, found.2⟩
  extensions := h.extensions.prepend l₀
  mem_extensions := h.mem_extensions
  nodup := h.nodup
  ordered := h.ordered
  layers_eq := h.layers_eq
  layers on := (h.layers on).prepend l₀

theorem DescribesDevice.all_gated {plan : DevicePlan}
    (h : DescribesDevice config selection inst (.ok plan) l)
    (opened : .createInstance what (.ok inst) ∈ l₀) (answer : Except Error d.Device)
    {l' : Transcript d} (quiet : ∀ x ∈ l', x.IsQuestion) :
    Always (fun before => Gated config selection (l₀ ++ before))
      (l ++ .createDevice inst plan.adapter plan.descriptor answer :: l') := by
  rw [List.append_cons, Always.append_iff, Always.snoc_iff]
  refine ⟨⟨?_, ⟨what, List.mem_append_left l opened⟩, (h.negotiated plan rfl).prepend l₀⟩, ?_⟩
  · exact always_gated (fun x hx => gated_of_isQuestion (h.questions x hx)) _
  · simp only [← List.append_assoc]
    exact always_gated (fun x hx => gated_of_isQuestion (quiet x hx)) _

theorem OpensDevice.all_gated {r : Except Error (DeviceParts d.transcribed)}
    (h : OpensDevice config selection inst r l) (opened : .createInstance what (.ok inst) ∈ l₀) :
    Always (fun before => Gated config selection (l₀ ++ before)) l := by
  cases h with
  | undescribed h => exact always_gated (fun x hx => gated_of_isQuestion (h.questions x hx)) _
  | unmade h => exact h.all_gated opened _ (List.forall_mem_nil _)
  | made h fetched => exact h.all_gated opened _ fetched.all_questions

theorem OpensDevice.ok_iff {r : Except Error (DeviceParts d.transcribed)}
    (h : OpensDevice config selection inst r l) :
    (∃ parts, r = .ok parts) ↔ ∀ x ∈ l, SufficesDevice config selection x := by
  cases h with
  | undescribed h =>
    rw [← h.decided]
    simp
  | unmade h => simp [or_imp, forall_and, SufficesDevice, Exchange.Succeeded]
  | made h fetched =>
    simp only [List.forall_mem_append, List.forall_mem_cons, ← h.decided]
    exact iff_of_true ⟨_, rfl⟩ ⟨⟨_, rfl⟩, trivial, fetched.all_suffice⟩

theorem OpensDevice.createDevice_mem {parts : DeviceParts d.transcribed}
    (h : OpensDevice config selection inst (.ok parts) l) :
    ∃ adapter what, .createDevice inst adapter what (.ok parts.device) ∈ l := by
  cases h with
  | made h fetched => exact ⟨_, _, List.mem_append_right _ List.mem_cons_self⟩

end

end Bootstrap

/-! ## Managers -/

namespace Manager

open Bootstrap

variable {d : Driver} {config : Config} {selection : Selection}

/-- The making of a manager, as it ends and as it was talked over with the driver. -/
structure Negotiates (config : Config) (selection : Selection)
    (r : Except Error (Manager d.transcribed)) (l : Transcript d) : Prop where
  /-- Nothing is made before it was negotiated. -/
  gated : Always (Gated config selection) l
  /-- A manager is made if no call fails and every answer suffices, and only then. -/
  decided : (∃ m, r = .ok m) ↔ Always (Suffices config selection) l
  /-- It has the instance and the device that were made. -/
  made : ∀ m, r = .ok m → ∃ inst device adapter what, m.inst = some (.owned inst) ∧
    m.device = some (.owned device) ∧ .createInstance (instanceOf config) (.ok inst) ∈ l ∧
    .createDevice inst adapter what (.ok device) ∈ l

theorem tells_destroyInstance (parts : InstanceParts d.transcribed) :
    Tells (d := d) (fun l => ∀ x ∈ l, (∃ c, x = .unregisterCallbacks parts.inst c) ∨
      x = .destroyInstance parts.inst) (destroyInstance d.transcribed parts) := by
  rintro e
  obtain ⟨inst, _ | c⟩ := parts
  · exact ⟨[.destroyInstance inst], rfl, by simp⟩
  · exact ⟨[.unregisterCallbacks inst c, .destroyInstance inst], List.append_assoc _ [_] _, by simp⟩

/-- How a manager is made, or why it is not. -/
inductive Opens (config : Config) (selection : Selection) :
    Except Error (Manager d.transcribed) → Transcript d → Prop
  | withoutInstance {error : Error} {l : Transcript d} (h : OpensInstance config (.error error) l) :
    Opens config selection (.error error) l
  | withoutDevice {parts : InstanceParts d.transcribed} {error : Error} {l l' l'' : Transcript d}
    (h : OpensInstance config (.ok parts) l)
    (h' : OpensDevice (d := d) config selection parts.inst (.error error) l')
    (undone : ∀ x ∈ l'', (∃ c, x = .unregisterCallbacks parts.inst c) ∨
      x = .destroyInstance parts.inst) : Opens config selection (.error error) (l ++ (l' ++ l''))
  | made {i : InstanceParts d.transcribed} {x : DeviceParts d.transcribed}
    {m : Manager d.transcribed} {l l' : Transcript d} (h : OpensInstance config (.ok i) l)
    (h' : OpensDevice (d := d) config selection i.inst (.ok x) l')
    (inst : m.inst = some (.owned i.inst)) (device : m.device = some (.owned x.device))
    (families : m.families = x.families) (queues : m.queues = x.queues) :
    Opens config selection (.ok m) (l ++ l')

theorem says_create (config : Config) (selection : Selection) :
    Says (Opens config selection) (Manager.create d.transcribed config selection) := by
  refine .of_cases (fun e m e' h => ?_) (fun e error e' h => ?_)
  · obtain ⟨i, e₁, h₁, h⟩ := Attempt.bind_eq_ok.1 h
    obtain ⟨x, e₂, h₂, h⟩ := Attempt.bind_eq_ok.1 (Attempt.undoing_eq_ok.1 h)
    cases h
    obtain ⟨l, said, opens⟩ := (says_createInstance config).of_ok h₁
    obtain ⟨l', said', opens'⟩ := (says_createDevice (d := d) i.inst config selection).of_ok h₂
    exact ⟨l ++ l', by rw [said', said, List.append_assoc], .made opens opens' rfl rfl rfl rfl⟩
  · rcases Attempt.bind_eq_error.1 h with h₁ | ⟨i, e₁, h₁, h⟩
    · obtain ⟨l, said, opens⟩ := (says_createInstance config).of_error h₁
      exact ⟨l, said, .withoutInstance opens⟩
    obtain ⟨e₂, failed, rfl⟩ := Attempt.undoing_eq_error.1 h
    rcases Attempt.bind_eq_error.1 failed with h₂ | ⟨x, e₃, h₂, failed⟩
    · obtain ⟨l, said, opens⟩ := (says_createInstance config).of_ok h₁
      obtain ⟨l', said', opens'⟩ :=
        (says_createDevice (d := d) i.inst config selection).of_error h₂
      obtain ⟨l'', said'', undone⟩ := tells_destroyInstance i e₂
      exact ⟨l ++ (l' ++ l''), by rw [said'', said', said, List.append_assoc, List.append_assoc],
        .withoutDevice opens opens' undone⟩
    · cases failed

/-- **Negotiation decides what is made.** Whatever the driver answers, an instance and a device are only
asked for when all that they are to have was offered, and are asked for as it was negotiated; and a
manager is made if no call fails and every answer suffices. -/
theorem negotiated_creation (d : Driver) (config : Config) (selection : Selection) :
    Says (Negotiates config selection) (Manager.create d.transcribed config selection) := by
  refine (says_create config selection).mono fun r l h => ?_
  cases h with
  | withoutInstance h => exact ⟨h.all_gated, by rw [← h.ok_iff]; simp, nofun⟩
  | withoutDevice h h' undone =>
    have opened := h.createInstance_mem
    refine ⟨?_, iff_of_false nofun fun all => ?_, nofun⟩
    · rw [Always.append_iff, Always.append_iff]
      refine ⟨h.all_gated, h'.all_gated opened, ?_⟩
      simp only [← List.append_assoc]
      refine always_gated (fun x hx before => ?_) _
      obtain ⟨c, rfl⟩ | rfl := undone x hx <;> trivial
    · rw [Always.append_iff, Always.append_iff, always_suffices_of_opened ⟨_, _, opened⟩,
        ← h'.ok_iff] at all
      obtain ⟨_, ⟨⟩⟩ := all.2.1
  | made h h' inst device =>
    have opened := h.createInstance_mem
    refine ⟨?_, iff_of_true ⟨_, rfl⟩ ?_, ?_⟩
    · rw [Always.append_iff]
      exact ⟨h.all_gated, h'.all_gated opened⟩
    · rw [Always.append_iff, ← h.ok_iff, always_suffices_of_opened ⟨_, _, opened⟩, ← h'.ok_iff]
      exact ⟨⟨_, rfl⟩, _, rfl⟩
    · rintro _ ⟨⟩
      obtain ⟨adapter, what, created⟩ := h'.createDevice_mem
      exact ⟨_, _, adapter, what, inst, device, List.mem_append_left _ opened,
        List.mem_append_right _ created⟩

end Manager

end GpuCompute
