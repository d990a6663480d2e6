import GpuCompute.Proofs.Capabilities
import GpuCompute.Proofs.Construction
import GpuCompute.Proofs.Events
import GpuCompute.Proofs.Utf8
import GpuCompute.Proofs.Vulkan.Chains

/-!
# Names that are given to the Vulkan API

The API gives names as bytes and is given names as texts. What a manager asks for when it is made
was named by the API before (`advertised_names`), but as a text: what is not UTF-8 in a name is
replaced when the name is read, and the replacement is what is passed on. So a name with such bytes
is asked for by a name that nobody gave (`replaced_name`).
-/

namespace GpuCompute.Vulkan

open Api Bootstrap Driver

variable {α β : Type} {M : MemoryLibrary} {host : Host} {before before' : List Event} {a a' a'' : Api}
  {e e' e'' : Env State} {question : Request} {names : List (List UInt8)} {wanted : List String}
  {name : String} {raw : List UInt8}

/-! ## Reading names -/

/-- The bytes of a name: those of its field before the first zero byte. -/
def nameBytes (raw : List UInt8) : List UInt8 := (raw.take nameCapacity).takeWhile (· != 0)

/-- A name that is given to the API is what was read of a name that the API gave. -/
structure ReadOf (name : String) (raw : List UInt8) : Prop where
  text : name = nameText raw
  /-- It is not cut short when it is given to the API. -/
  whole : '\x00' ∉ name.toList
  /-- The bytes of both are the same if the name that the API gave is UTF-8, and only then. -/
  exact_iff : Text.encode name = nameBytes raw ↔ (Text.decode? (nameBytes raw)).isSome
  /-- Otherwise the name shows that something was replaced. -/
  exact_of_plain : '\uFFFD' ∉ name.toList → Text.encode name = nameBytes raw

theorem readOf_nameText (whole : '\x00' ∉ (nameText raw).toList) : ReadOf (nameText raw) raw where
  text := rfl
  whole := whole
  exact_iff := Text.encode_decodeLossy_iff
  exact_of_plain plain := Text.encode_decodeLossy_iff.2 (Text.isSome_decode?_of_not_mem plain)

/-- An answer of the API had a name. -/
def Advertised (before : List Event) (question : Request) (names : List (List UInt8))
    (name : String) : Prop := ⟨question, .done⟩ ∈ before ∧ ∃ raw ∈ names, ReadOf name raw

/-- A call is only given names that the API had given before. -/
def Vouched (host : Host) (before : List Event) (event : Event) : Prop :=
  match event.request with
  | .createInstance info =>
    (∀ name ∈ info.extensions,
      Advertised before .enumerateInstanceExtensions host.instanceExtensions name) ∧
    ∀ name ∈ info.layers, Advertised before .enumerateInstanceLayers host.instanceLayers name
  | .createDevice inst adapter info =>
    (∀ name ∈ info.extensions, Advertised before (.enumerateDeviceExtensions inst adapter)
      (host.adapter adapter).extensions name) ∧
    ∀ name ∈ info.layers, Advertised before .enumerateInstanceLayers host.instanceLayers name
  | _ => True

theorem Advertised.mono (h : Advertised before question names name) (sub : before ⊆ before') :
    Advertised before' question names name := ⟨sub h.1, h.2⟩

theorem Vouched.mono {event : Event} (h : Vouched host before event) (sub : before ⊆ before') :
    Vouched host before' event := by
  obtain ⟨request, outcome⟩ := event
  cases request with
  | createInstance | createDevice =>
    exact ⟨fun name hname => (h.1 name hname).mono sub, fun name hname => (h.2 name hname).mono sub⟩
  | _ => trivial

/-- Names that can be given to the API have no zero character. -/
theorem whole_of_checkNames (h : checkNames wanted = .ok ()) :
    ∀ name ∈ wanted, '\x00' ∉ name.toList := by
  intro name hname
  unfold checkNames at h
  split at h
  · cases h
  · next none =>
    have := List.find?_eq_none.1 none name hname
    simpa [String.contains_char_eq] using this

/-! ## Calls without names -/

/-- A call that is given no names of extensions or layers. -/
def Request.Nameless : Request → Prop
  | .createInstance _ | .createDevice .. => False
  | _ => True

/-- What was called between two states of the API, which is given no names. -/
structure Listens (calls : List Event) (a a' : Api) : Prop where
  trace : a'.trace = a.trace ++ calls
  host : a'.host = a.host
  nameless : ∀ event ∈ calls, event.request.Nameless

namespace Listens

theorem refl (a : Api) : Listens [] a a := ⟨(List.append_nil _).symm, rfl, nofun⟩

theorem trans {l l' : List Event} (h : Listens l a a') (h' : Listens l' a' a'') :
    Listens (l ++ l') a a'' where
  trace := by rw [h'.trace, h.trace, List.append_assoc]
  host := h'.host.trans h.host
  nameless := List.forall_mem_append.2 ⟨h.nameless, h'.nameless⟩

theorem of_adds {outcome : Outcome} (h : Adds question outcome a a') (nameless : question.Nameless) :
    Listens [⟨question, outcome⟩] a a' :=
  ⟨h.trace, h.host, List.forall_mem_singleton.2 nameless⟩

end Listens

theorem exists_listens (h : Calls Request.Nameless a a') : ∃ l, Listens l a a' := by
  obtain ⟨l, trace, nameless⟩ := h.exists_events
  exact ⟨l, trace, h.host_eq, nameless⟩

/-- All calls between two states of the API are vouched for. -/
def Vouches (a a' : Api) : Prop :=
  ∃ calls, a'.trace = a.trace ++ calls ∧ a'.host = a.host ∧ Always (Vouched a.host) calls

theorem Vouches.trans (h : Vouches a a') (h' : Vouches a' a'') : Vouches a a'' := by
  obtain ⟨l, trace, host, always⟩ := h
  obtain ⟨l', trace', host', always'⟩ := h'
  refine ⟨l ++ l', by rw [trace', trace, List.append_assoc], host'.trans host, ?_⟩
  rw [Always.append_iff]
  rw [host] at always'
  exact ⟨always, always'.mono fun _ _ h => h.mono (List.subset_append_right _ _)⟩

theorem Listens.always_vouched {l : List Event} (h : Listens l a a') : Always (Vouched host) l := by
  rintro before ⟨request, outcome⟩ after hl
  have nameless := h.nameless ⟨request, outcome⟩ (hl ▸ by simp)
  cases request <;> first | exact nameless.elim | trivial

theorem Listens.vouches {l : List Event} (h : Listens l a a') : Vouches a a' :=
  ⟨l, h.trace, h.host, h.always_vouched⟩

theorem vouches_of_nameless (h : Calls Request.Nameless a a') : Vouches a a' :=
  have ⟨_, listens⟩ := exists_listens h
  listens.vouches

/-- After calls without names, one call is given names that these had as answers. -/
theorem Listens.vouches_of_adds {l : List Event} {outcome : Outcome} (h : Listens l a a')
    (adds : Adds question outcome a' a'') (vouched : Vouched a.host l ⟨question, outcome⟩) :
    Vouches a a'' := by
  refine ⟨l ++ [⟨question, outcome⟩], ?_, adds.host.trans h.host, ?_⟩
  · rw [adds.trace, h.trace, List.append_assoc]
  · rw [Always.snoc_iff]
    exact ⟨h.always_vouched, vouched⟩

/-! ## What is asked for -/

/-- Names that are wanted are among those that a question had as answer. -/
def Offered (before : List Event) (question : Request) (names : List (List UInt8))
    (wanted : List String) : Prop :=
  ∀ name ∈ wanted, ⟨question, .done⟩ ∈ before ∧ name ∈ nameTexts names

theorem Offered.advertised (h : Offered before question names wanted)
    (whole : checkNames wanted = .ok ()) :
    ∀ name ∈ wanted, Advertised before question names name := by
  intro name hname
  obtain ⟨asked, offered⟩ := h name hname
  obtain ⟨raw, hraw, rfl⟩ := List.mem_map.1 offered
  exact ⟨asked, raw, hraw, readOf_nameText (whole_of_checkNames whole _ hname)⟩

theorem Offered.mono (h : Offered before question names wanted) (sub : before ⊆ before') :
    Offered before' question names wanted := fun name hname => (h name hname).imp_left (@sub _)

theorem listens_query (question : Request) (nameless : question.Nameless) (answer : Host → α)
    {x : α} (h : query question answer e = .ok x e') :
    Listens [⟨question, .done⟩] e.driver.api e'.driver.api ∧ x = answer e.driver.api.host := by
  have listens := Listens.of_adds (query_ok h).1 nameless
  refine ⟨listens, ?_⟩
  rw [← listens.host]
  obtain ⟨_, e₁, -, h⟩ := Attempt.bind_eq_ok.1 h
  cases h
  rfl

/-- What is negotiated after a question is offered by its answer. -/
theorem listens_negotiation (question : Request) (nameless : question.Nameless)
    (answer : Host → List (List UInt8)) {kind : CapabilityKind} {available agreed : List String}
    (asked : query question (fun h => nameTexts (answer h)) e = .ok available e')
    (h : (Negotiation.run kind wanted available : Act State (List String)) e' = .ok agreed e'') :
    Listens [⟨question, .done⟩] e.driver.api e''.driver.api ∧
      Offered [⟨question, .done⟩] question (answer e.driver.api.host) agreed := by
  obtain ⟨listens, rfl⟩ := listens_query question nameless _ asked
  obtain ⟨_, e₁, h₁, h⟩ := Attempt.bind_eq_ok.1 h
  obtain ⟨_, e₂, h₂, h⟩ := Attempt.bind_eq_ok.1 h
  cases h₁
  cases h₂
  obtain ⟨negotiated, rfl⟩ := Attempt.ofExcept_eq_ok.1 h
  obtain ⟨all, rfl⟩ := Capability.negotiate_eq_ok_iff.1 negotiated
  exact ⟨listens, fun name hname => ⟨List.mem_singleton_self _, all hname⟩⟩

theorem listens_layers {config : Config} {kind : CapabilityKind} {announcement : String}
    {agreed : List String} {e e' : Env (driverOn M).State}
    (h : layers (driverOn M) config kind announcement wanted e = .ok agreed e') :
    ∃ l, Listens l e.driver.api e'.driver.api ∧
      Offered l .enumerateInstanceLayers e.driver.api.host.instanceLayers agreed := by
  unfold layers at h
  split at h
  · obtain ⟨_, e₁, h₁, h⟩ := Attempt.bind_eq_ok.1 h
    cases h₁
    obtain ⟨available, e₂, asked, agreed⟩ := Attempt.bind_eq_ok.1 h
    obtain ⟨listens, offered⟩ :=
      listens_negotiation .enumerateInstanceLayers trivial Host.instanceLayers asked agreed
    exact ⟨_, listens, offered⟩
  · cases h
    exact ⟨[], .refl _, nofun⟩

theorem nameless_asked {I : Nat → Prop} {D : Device → Prop} {e e' : Env (driverOn M).State}
    (h : (driverOn M).Asked I D e e') : CallsApi Request.Nameless e e' := by
  refine h.induct (P := fun e' : Env (driverOn M).State => CallsApi Request.Nameless e e')
    (fun e₁ e₂ asks calls => ?_) (.refl _)
  obtain same | ⟨request, outcome, question, -, adds, -⟩ := asksApi_of_asks M (wrapDevice M) asks
  · exact calls.trans _ _ _ (.of_driver same)
  · refine calls.trans _ _ _ (.of_adds adds ?_)
    cases request <;> trivial

/-- What an instance is to be made with was offered. -/
theorem listens_describeInstance {config : Config} {what : InstanceDescriptor}
    {e e' : Env (driverOn M).State} (h : describeInstance (driverOn M) config e = .ok what e') :
    ∃ l, Listens l e.driver.api e'.driver.api ∧
      Offered l .enumerateInstanceExtensions e.driver.api.host.instanceExtensions what.extensions ∧
      Offered l .enumerateInstanceLayers e.driver.api.host.instanceLayers what.layers := by
  obtain ⟨_, e₁, h₁, h⟩ := Attempt.bind_eq_ok.1 h
  cases h₁
  obtain ⟨offered, e₂, asked, h⟩ := Attempt.bind_eq_ok.1 h
  obtain ⟨extensions, e₃, agreed, h⟩ := Attempt.bind_eq_ok.1 h
  obtain ⟨layers, e₄, enabled, h⟩ := Attempt.bind_eq_ok.1 h
  cases h
  obtain ⟨listens, hextensions⟩ :=
    listens_negotiation .enumerateInstanceExtensions trivial Host.instanceExtensions asked agreed
  obtain ⟨l, listens', hlayers⟩ := listens_layers enabled
  rw [listens.host] at hlayers
  refine ⟨_, listens.trans listens', hextensions.mono (List.subset_append_left _ _), ?_⟩
  exact hlayers.mono (List.subset_append_right _ _)

/-- What a device is to be made with was offered. -/
theorem listens_describeDevice {inst : Nat} {config : Config} {selection : Selection}
    {plan : DevicePlan} {e e' : Env (driverOn M).State}
    (h : describeDevice (driverOn M) inst config selection e = .ok plan e') :
    ∃ l, Listens l e.driver.api e'.driver.api ∧
      Offered l (.enumerateDeviceExtensions inst plan.adapter)
        (e.driver.api.host.adapter plan.adapter).extensions plan.descriptor.extensions ∧
      Offered l .enumerateInstanceLayers e.driver.api.host.instanceLayers
        plan.descriptor.layers := by
  obtain ⟨_, e₁, h₁, h⟩ := Attempt.bind_eq_ok.1 h
  cases h₁
  obtain ⟨adapters, e₂, reached, h⟩ := Attempt.bind_eq_ok.1 h
  obtain ⟨adapter, e₃, chosen, h⟩ := Attempt.bind_eq_ok.1 h
  obtain ⟨properties, e₄, looked, h⟩ := Attempt.bind_eq_ok.1 h
  obtain ⟨_, e₅, written, h⟩ := Attempt.bind_eq_ok.1 h
  obtain ⟨families, e₆, found, h⟩ := Attempt.bind_eq_ok.1 h
  obtain ⟨offered, e₇, asked, h⟩ := Attempt.bind_eq_ok.1 h
  obtain ⟨extensions, e₈, agreed, h⟩ := Attempt.bind_eq_ok.1 h
  obtain ⟨layers, e₉, enabled, h⟩ := Attempt.bind_eq_ok.1 h
  cases h
  -- Up to the families nothing is asked for by name.
  obtain ⟨l, listens⟩ : ∃ l, Listens l e.driver.api e₆.driver.api := by
    obtain ⟨first, -⟩ := listens_query (.enumerateAdapters inst) trivial Host.adapterHandles reached
    obtain ⟨-, rfl⟩ := Attempt.ofExcept_eq_ok.1 chosen
    cases looked
    cases written
    have second := Listens.of_adds (adds_call (.adapterProperties inst adapter) e₃.driver.api) trivial
    obtain ⟨l, third⟩ := exists_listens (nameless_asked
      ((onlyAsks_families (D := nothing) (only_self inst) _ _ _).of_ok found))
    exact ⟨_, (first.trans second).trans third⟩
  obtain ⟨listens', hextensions⟩ := listens_negotiation (.enumerateDeviceExtensions inst adapter)
    trivial (fun h => (h.adapter adapter).extensions) asked agreed
  obtain ⟨l', listens'', hlayers⟩ := listens_layers enabled
  rw [listens'.host, listens.host] at hlayers
  rw [listens.host] at hextensions
  refine ⟨_, listens.trans (listens'.trans listens''), hextensions.mono ?_, hlayers.mono ?_⟩
  · exact List.subset_append_of_subset_right _ (List.subset_append_left _ _)
  · exact List.subset_append_of_subset_right _ (List.subset_append_right _ _)

/-! ## What is made -/

theorem vouches_make {l : List Event} (h : Listens l a e.driver.api)
    (vouched : ∀ outcome, Vouched a.host l ⟨question, outcome⟩) :
    Vouches a ((withApi (Api.make question)).after e).driver.api := by
  obtain ⟨outcome, adds⟩ := adds_make question e.driver.api
  rw [api_after_withApi]
  exact h.vouches_of_adds adds (vouched outcome)

/-- More calls without names may follow. -/
theorem Vouches.bind {x : Act State α} {f : α → Act State β} (h : Vouches a (x.after e).driver.api)
    (hf : ∀ v, Attempt.Leaves (CallsApi Request.Nameless) (f v)) :
    Vouches a ((x >>= f).after e).driver.api := by
  cases hx : x e with
  | error error e' =>
    rw [Attempt.after_bind_of_error hx]
    rwa [Attempt.after_of_error hx] at h
  | ok v e' =>
    rw [Attempt.after_bind_of_ok hx]
    rw [Attempt.after_of_ok hx] at h
    exact h.trans (vouches_of_nameless (hf v e'))

/-- An instance is made with the names that are asked for, or they are refused before. -/
theorem vouches_createInstance {l : List Event} {what : InstanceDescriptor}
    (h : Listens l a e.driver.api)
    (extensions : Offered l .enumerateInstanceExtensions a.host.instanceExtensions what.extensions)
    (layers : Offered l .enumerateInstanceLayers a.host.instanceLayers what.layers) :
    Vouches a ((createInstance what).after e).driver.api := by
  unfold createInstance
  generalize (if what.debugPrintf then some [debugPrintfFeature] else none) = features
  split
  · exact h.vouches
  cases whole : checkNames what.extensions with
  | error error => exact h.vouches
  | ok _ =>
    cases whole' : checkNames what.layers with
    | error error => exact h.vouches
    | ok _ =>
      refine vouches_make h fun outcome => ?_
      exact ⟨extensions.advertised whole, layers.advertised whole'⟩

/-- A device is made with the names that are asked for, or they are refused before. -/
theorem vouches_createDevice [M.Lawful] {l : List Event} {inst : Nat} {adapter : AdapterHandle}
    {what : DeviceDescriptor} (h : Listens l a e.driver.api)
    (extensions : Offered l (.enumerateDeviceExtensions inst adapter)
      (a.host.adapter adapter).extensions what.extensions)
    (layers : Offered l .enumerateInstanceLayers a.host.instanceLayers what.layers) :
    Vouches a ((createDevice M inst adapter what).after e).driver.api := by
  unfold createDevice createDeviceWith
  cases whole : checkNames what.extensions with
  | error error => exact h.vouches
  | ok _ =>
    cases whole' : checkNames what.layers with
    | error error => exact h.vouches
    | ok _ =>
      have made : Vouches a ((withApi (Api.make (.createDevice inst adapter
          ⟨queueInfos what.queues, what.extensions, what.layers⟩))).after e).driver.api :=
        vouches_make h fun outcome => ⟨extensions.advertised whole, layers.advertised whole'⟩
      refine made.bind fun handle => ?_
      exact .undoing CallsApi.trans (callsApi_wrapDevice (P := Request.Nameless) trivial trivial _)
        fun _ => .of_call trivial _

/-! ## New managers -/

/-- All calls between two environments are vouched for. -/
abbrev VouchesApi (e e' : Env (driverOn M).State) : Prop := Vouches e.driver.api e'.driver.api

theorem VouchesApi.trans (e e' e'' : Env (driverOn M).State) (h : VouchesApi e e')
    (h' : VouchesApi e' e'') : VouchesApi e e'' := Vouches.trans h h'

theorem VouchesApi.refl (e : Env (driverOn M).State) : VouchesApi e e := vouches_of_nameless (.refl _)

theorem vouches_openInstance (config : Config) :
    Attempt.Leaves VouchesApi (Bootstrap.createInstance (driverOn M) config) := by
  intro e
  unfold Bootstrap.createInstance
  cases described : describeInstance (driverOn M) config e with
  | error error e' =>
    rw [Attempt.after_bind_of_error described]
    exact vouches_of_nameless
      (nameless_asked ((onlyAsks_describeInstance config).of_error described))
  | ok what e₁ =>
    rw [Attempt.after_bind_of_ok described]
    obtain ⟨l, listens, extensions, layers⟩ := listens_describeInstance described
    refine (vouches_createInstance listens extensions layers).bind fun inst => ?_
    refine .bind CallsApi.trans (.change fun _ => .refl _) fun _ => ?_
    split
    · refine .bind CallsApi.trans (.undoing CallsApi.trans ?_ fun _ => .of_call trivial _) fun _ =>
        .pure (fun _ => .refl _) _
      exact callsApi_registerCallbacks (P := Request.Nameless) trivial trivial fun _ => trivial
    · exact .pure (fun _ => .refl _) _

theorem vouches_openDevice [M.Lawful] (inst : Nat) (config : Config) (selection : Selection) :
    Attempt.Leaves VouchesApi (Bootstrap.createDevice (driverOn M) inst config selection) := by
  intro e
  unfold Bootstrap.createDevice
  cases described : describeDevice (driverOn M) inst config selection e with
  | error error e' =>
    rw [Attempt.after_bind_of_error described]
    exact vouches_of_nameless
      (nameless_asked ((onlyAsks_describeDevice inst config selection).of_error described))
  | ok plan e₁ =>
    rw [Attempt.after_bind_of_ok described]
    obtain ⟨l, listens, extensions, layers⟩ := listens_describeDevice described
    refine (vouches_createDevice listens extensions layers).bind fun x => ?_
    refine .bind CallsApi.trans (.change fun _ => .refl _) fun _ => ?_
    refine .bind CallsApi.trans (fun e => ?_) fun queues => ?_
    · have fetched : (driverOn M).Asked nothing (only x) e (fetchQueues (driverOn M) x plan.families e).2 :=
        asked_fetchFrom (d := driverOn M) (only_self x) _ _ e
      exact nameless_asked fetched
    · exact .bind CallsApi.trans (.change fun _ => .refl _) fun _ => .pure (fun _ => .refl _) _

theorem nameless_destroyInstance (parts : InstanceParts (driverOn M)) (e : Env (driverOn M).State) :
    CallsApi Request.Nameless e (Bootstrap.destroyInstance (driverOn M) parts e) := by
  unfold Bootstrap.destroyInstance
  cases parts.callbacks with
  | none => exact .of_call trivial _
  | some callbacks =>
    exact .trans _ _ _ (.trans _ _ _ (.of_call trivial _) (.of_call trivial _)) (.of_call trivial _)

/-- **Whatever names a new manager passes to the API were read of names that the API gave.** The
bytes are the same, unless the name that the API gave is not UTF-8. -/
theorem advertised_names (M : MemoryLibrary) [M.Lawful] (config : Config) (selection : Selection)
    (e : Env (driverOn M).State) :
    ∃ calls, ((Manager.create (driverOn M) config selection).after e).driver.api.trace =
        e.driver.api.trace ++ calls ∧ Always (Vouched e.driver.api.host) calls := by
  have vouches : VouchesApi e ((Manager.create (driverOn M) config selection).after e) := by
    refine Attempt.Leaves.bind VouchesApi.trans (vouches_openInstance config) (fun parts => ?_) e
    refine .undoing VouchesApi.trans ?_ fun e =>
      vouches_of_nameless (nameless_destroyInstance parts e)
    refine .bind VouchesApi.trans (vouches_openDevice parts.inst config selection) fun device => ?_
    exact .pure VouchesApi.refl _
  obtain ⟨calls, trace, -, always⟩ := vouches
  exact ⟨calls, trace, always⟩

/-- A Vulkan implementation with one adapter, which has an extension whose name is one byte that is
not UTF-8. -/
def misnamed : Env driver.State where
  driver := { api := { host := { adapters := [
    { limits := .plain 1, families := [⟨2, 1, 0⟩], extensions := [[0xFF]] }] } } }

/-- The request for a device comes after six questions about capabilities and a new instance. -/
theorem getElem?_misnamed :
    ((Manager.create driver {} { extensions := ["\uFFFD"] }).after misnamed).driver.api.trace[6]? =
      some ⟨.createDevice 1 1 ⟨[⟨0, [0x3F800000]⟩], ["\uFFFD"], []⟩, .made 2⟩ := by
  -- Characters are looked for in lists of them, which the kernel can evaluate.
  simp only [Manager.create, Bootstrap.createInstance, Bootstrap.createDevice, driver, driverOn,
    createInstance, createDevice, createDeviceWith, checkNames, String.contains_char_eq]
  decide +kernel

theorem advertised_names_misnamed :
    ∃ calls, ((Manager.create driver {} { extensions := ["\uFFFD"] }).after
        misnamed).driver.api.trace = calls ∧
      Always (Vouched misnamed.driver.api.host) calls ∧
      ⟨.createDevice 1 1 ⟨[⟨0, [0x3F800000]⟩], ["\uFFFD"], []⟩, .made 2⟩ ∈ calls := by
  obtain ⟨calls, trace, always⟩ := advertised_names .own {} { extensions := ["\uFFFD"] } misnamed
  exact ⟨calls, trace, always, List.mem_of_getElem? (trace ▸ getElem?_misnamed)⟩

/-- A device is asked for with an extension that its adapter does not have: what was read of the
name of the one that it has. -/
theorem replaced_name :
    ⟨.createDevice 1 1 ⟨[⟨0, [0x3F800000]⟩], ["\uFFFD"], []⟩, .made 2⟩ ∈
      ((Manager.create driver {} { extensions := ["\uFFFD"] }).after misnamed).driver.api.trace ∧
    ∀ raw ∈ (misnamed.driver.api.host.adapter 1).extensions,
      Text.encode "\uFFFD" ≠ nameBytes raw := by
  refine ⟨List.mem_of_getElem? getElem?_misnamed, ?_⟩
  rintro raw hraw
  obtain rfl : raw = [0xFF] := List.mem_singleton.1 hraw
  decide

end GpuCompute.Vulkan
