import GpuCompute.Proofs.Json.Repetition
import GpuCompute.Proofs.Json.Writing
import GpuCompute.Schema
import Mathlib.Data.List.ReduceOption

/-!
# Configurations in JSON

A JSON text describes a configuration by some of its members, in an object or in a list
(`Config.Describes`). What is read from it is the defaults with these members laid over them
(`Config.laidOver`), and what is written for a configuration is read as this configuration.
-/

namespace GpuCompute

open Json

namespace Config

variable {c : Config} {v : List Char}

/-! ## Members -/

/-- The members of a configuration. -/
inductive Field
  | applicationName
  | applicationVersion
  | apiVersion
  | diagnostics
  | manageResources
  | instanceLayers
  | deviceLayers
  deriving DecidableEq

namespace Field

/-- The members in the order in which a list gives their values. -/
def all : List Field :=
  [.applicationName, .applicationVersion, .apiVersion, .diagnostics, .manageResources,
    .instanceLayers, .deviceLayers]

/-- The name of a member in an object. -/
def name : Field → String
  | .applicationName => "application_name"
  | .applicationVersion => "application_version"
  | .apiVersion => "api_version"
  | .diagnostics => "diagnostics"
  | .manageResources => "manage_resources"
  | .instanceLayers => "instance_layers"
  | .deviceLayers => "device_layers"

/-- The place of a member in a list. -/
def index : Field → Fin 7
  | .applicationName => 0
  | .applicationVersion => 1
  | .apiVersion => 2
  | .diagnostics => 3
  | .manageResources => 4
  | .instanceLayers => 5
  | .deviceLayers => 6

/-- How a member is read. -/
def member (f : Field) : Member PartialConfig := PartialConfig.shape.members.get (f.index.cast rfl)

/-- The type of what a member is. -/
def Value : Field → Type
  | .applicationName => String
  | .applicationVersion | .apiVersion => UInt32
  | .diagnostics | .manageResources => Bool
  | .instanceLayers | .deviceLayers => List String

/-- The reader of a member's values. -/
def reader : (f : Field) → Reader f.Value
  | .applicationName => readText
  | .applicationVersion | .apiVersion => readUInt32
  | .diagnostics | .manageResources => readBool
  | .instanceLayers | .deviceLayers => readList readText

/-- What is known when a member was read. -/
def set (p : PartialConfig) : (f : Field) → f.Value → PartialConfig
  | .applicationName, x => { p with applicationName := some x }
  | .applicationVersion, x => { p with applicationVersion := some x }
  | .apiVersion, x => { p with apiVersion := some x }
  | .diagnostics, x => { p with diagnostics := some x }
  | .manageResources, x => { p with manageResources := some x }
  | .instanceLayers, x => { p with instanceLayers := some x }
  | .deviceLayers, x => { p with deviceLayers := some x }

theorem read_member (f : Field) (p : PartialConfig) (s : List Char) :
    f.member.read p s = (f.reader s).map fun x => (f.set p x.1, x.2) := by cases f <;> rfl

theorem isGiven_set (f : Field) (p : PartialConfig) (x : f.Value) :
    f.member.isGiven (f.set p x) = true := by cases f <;> rfl

theorem isGiven_set_of_isGiven (f : Field) {g : Field} {p : PartialConfig} (x : f.Value)
    (h : g.member.isGiven p = true) : g.member.isGiven (f.set p x) = true := by
  cases f <;> cases g <;> first | rfl | exact h

theorem members_eq : PartialConfig.shape.members = all.map member := rfl

theorem name_member (f : Field) : f.member.name = f.name := by cases f <;> rfl

theorem find?_name (f : Field) :
    PartialConfig.shape.members.find? (·.name == f.name) = some f.member := by
  cases f <;> rfl

theorem find?_eq_none {n : String} (h : ∀ f : Field, f.name ≠ n) :
    PartialConfig.shape.members.find? (·.name == n) = none := by
  rw [members_eq, List.find?_eq_none]
  intro m hm
  obtain ⟨f, -, rfl⟩ := List.mem_map.1 hm
  rw [name_member, beq_iff_eq]
  exact h f

end Field

/-- Whether a text is a JSON text of a list of strings. -/
def AreTexts (texts : List String) (v : List Char) : Prop :=
  ∃ items, List.Forall₂ IsText texts items ∧ Frame.list.Encloses items v

/-- Whether a text is a JSON text of what a member is in `c`. -/
def Writes (c : Config) : Field → List Char → Prop
  | .applicationName, v => IsText c.applicationName v
  | .applicationVersion, v => v = writeNat c.applicationVersion.toNat
  | .apiVersion, v => v = writeNat c.apiVersion.toNat
  | .diagnostics, v => v = writeBool c.diagnostics
  | .manageResources, v => v = writeBool c.manageResources
  | .instanceLayers, v => AreTexts c.instanceLayers v
  | .deviceLayers, v => AreTexts c.deviceLayers v

/-- The defaults with the given members replaced by those of `c`. -/
def laidOver (c : Config) (fields : List Field) : Config :=
  let base : Config := {}
  { applicationName := if .applicationName ∈ fields then c.applicationName else base.applicationName
    applicationVersion :=
      if .applicationVersion ∈ fields then c.applicationVersion else base.applicationVersion
    apiVersion := if .apiVersion ∈ fields then c.apiVersion else base.apiVersion
    diagnostics := if .diagnostics ∈ fields then c.diagnostics else base.diagnostics
    manageResources := if .manageResources ∈ fields then c.manageResources else base.manageResources
    instanceLayers := if .instanceLayers ∈ fields then c.instanceLayers else base.instanceLayers
    deviceLayers := if .deviceLayers ∈ fields then c.deviceLayers else base.deviceLayers }

theorem laidOver_all (c : Config) : c.laidOver Field.all = c := rfl

/-- What is known of `c` when the given members were read. -/
def partly (c : Config) (fields : List Field) : PartialConfig where
  applicationName := if .applicationName ∈ fields then some c.applicationName else none
  applicationVersion := if .applicationVersion ∈ fields then some c.applicationVersion else none
  apiVersion := if .apiVersion ∈ fields then some c.apiVersion else none
  diagnostics := if .diagnostics ∈ fields then some c.diagnostics else none
  manageResources := if .manageResources ∈ fields then some c.manageResources else none
  instanceLayers := if .instanceLayers ∈ fields then some c.instanceLayers else none
  deviceLayers := if .deviceLayers ∈ fields then some c.deviceLayers else none

/-- What a member is in `c`. -/
def value (c : Config) : (f : Field) → f.Value
  | .applicationName => c.applicationName
  | .applicationVersion => c.applicationVersion
  | .apiVersion => c.apiVersion
  | .diagnostics => c.diagnostics
  | .manageResources => c.manageResources
  | .instanceLayers => c.instanceLayers
  | .deviceLayers => c.deviceLayers

theorem partly_append (c : Config) (fields : List Field) (f : Field) :
    c.partly (fields ++ [f]) = f.set (c.partly fields) (c.value f) := by
  cases f <;> simp [partly, Field.set, value]

theorem overlay_partly (c : Config) (fields : List Field) :
    (c.partly fields).overlay {} = c.laidOver fields := by
  have getD {α : Type} (p : Prop) [Decidable p] (a b : α) :
      (if p then some a else none).getD b = if p then a else b := by split <;> rfl
  simp only [PartialConfig.overlay, partly, laidOver, getD]

theorem isGiven_partly (c : Config) (fields : List Field) (f : Field) :
    f.member.isGiven (c.partly fields) = decide (f ∈ fields) := by
  by_cases h : f ∈ fields
  · rw [decide_eq_true h]
    cases f <;> exact congrArg Option.isSome (if_pos h)
  · rw [decide_eq_false h]
    cases f <;> exact congrArg Option.isSome (if_neg h)

theorem reads_texts {texts : List String} (h : AreTexts texts v) :
    Reads (readList readText) texts v := by
  obtain ⟨items, written, layout⟩ := h
  exact reads_list layout (written.imp fun _ _ => reads_text)

theorem reads_value {f : Field} (h : c.Writes f v) : Reads f.reader (c.value f) v := by
  cases f with
  | applicationName => exact reads_text h
  | applicationVersion | apiVersion =>
    cases h
    exact reads_writeNat _
  | diagnostics | manageResources =>
    cases h
    exact reads_bool _
  | instanceLayers | deviceLayers => exact reads_texts h

/-- Reading a member adds it to those that are known. -/
theorem reads_member (fields : List Field) {f : Field} (h : c.Writes f v) :
    Reads (f.member.read (c.partly fields)) (c.partly (fields ++ [f])) v := by
  rw [partly_append]
  exact (reads_value h).map (f.set _) (f.read_member _)

/-! ## Objects and lists -/

/-- Whether an item of an object is a member with what it is in `c`, or has a name that is no
member's and a value of any kind. -/
inductive Gives (c : Config) : Option Field → List Char → Prop
  | field {f : Field} {spelling value item : List Char} (spelled : Spells spelling f.name.toList)
    (hvalue : c.Writes f value) (layout : IsMember spelling value item) : Gives c (some f) item
  | other {name : String} {spelling value item : List Char} (unknown : ∀ f : Field, f.name ≠ name)
    (spelled : Spells spelling name.toList) (hvalue : IsValue value)
    (layout : IsMember spelling value item) : Gives c none item

/-- A JSON text that describes some members of a configuration: in an object, each once, in any order
and among other members; or in a list, from the first member on. -/
inductive Describes (c : Config) : List Field → String → Prop
  | object {given : List (Option Field)} {items : List (List Char)} {b v b' : List Char}
    (members : List.Forall₂ c.Gives given items) (once : given.reduceOption.Nodup)
    (layout : Frame.object.Encloses items v) (before : Blanks b) (after : Blanks b') :
    Describes c given.reduceOption (String.ofList (b ++ (v ++ b')))
  | list {fields : List Field} {items : List (List Char)} {b v b' : List Char}
    (first : fields <+: Field.all) (members : List.Forall₂ c.Writes fields items)
    (layout : Frame.list.Encloses items v) (before : Blanks b) (after : Blanks b') :
    Describes c fields (String.ofList (b ++ (v ++ b')))

theorem gathers_of_gives (fields : List Field) {given : List (Option Field)}
    {items : List (List Char)} (h : List.Forall₂ c.Gives given items)
    (once : (fields ++ given.reduceOption).Nodup) :
    Gathers PartialConfig.shape.members items (c.partly fields)
      (c.partly (fields ++ given.reduceOption)) := by
  induction h generalizing fields with
  | nil =>
    rw [List.reduceOption_nil, List.append_nil]
    exact .nil
  | @cons g item given items first _ ih =>
    cases first with
    | @field f spelling value _ spelled hvalue layout =>
      rw [List.reduceOption_cons_of_some] at once ⊢
      have new : f.member.isGiven (c.partly fields) = false := by
        rw [isGiven_partly, decide_eq_false_iff_not]
        exact fun old => (List.nodup_append.1 once).2.2 f old f List.mem_cons_self rfl
      rw [List.append_cons] at once ⊢
      exact .cons (.known spelled f.find?_name new (reads_member fields hvalue) layout)
        (ih _ once)
    | @other name spelling value _ unknown spelled hvalue layout =>
      rw [List.reduceOption_cons_of_none] at once ⊢
      exact .cons (.unknown spelled (Field.find?_eq_none unknown) hvalue layout) (ih _ once)

theorem fills_of_writes (before after : List Field) {fields : List Field}
    {items : List (List Char)} (h : List.Forall₂ c.Writes fields items) :
    Fills ((fields ++ after).map Field.member) items (c.partly before)
      (c.partly (before ++ fields)) := by
  induction h generalizing before with
  | nil =>
    rw [List.append_nil]
    exact .nil
  | @cons f v fields items first _ ih =>
    rw [List.append_cons before f fields]
    exact .cons (reads_member before first) (ih _)

theorem ofJson_of_readRecord {p : PartialConfig} {b v b' : List Char}
    (h : ∀ rest, readRecord PartialConfig.shape (b ++ (v ++ rest)) = .ok (p, rest))
    (after : Blanks b') : ofJson (String.ofList (b ++ (v ++ b'))) = .ok (p.overlay {}) := by
  have read (rest : List Char) : reader (b ++ (v ++ rest)) = .ok (p.overlay {}, rest) := by
    rw [reader, h]
    rfl
  rw [ofJson, readAll_append reader read after]
  rfl

/-- What a text describes is laid over the defaults. -/
theorem ofJson_of_describes {fields : List Field} {text : String} (h : c.Describes fields text) :
    ofJson text = .ok (c.laidOver fields) := by
  rw [← overlay_partly]
  cases h with
  | @object given items b v b' members once layout before after =>
    exact ofJson_of_readRecord
      (fun rest => readRecord_object layout (gathers_of_gives [] members once) before rest) after
  | @list _ items b v b' first members layout before after =>
    obtain ⟨others, all⟩ := first
    have filled := fills_of_writes [] others members
    rw [all] at filled
    exact ofJson_of_readRecord (fun rest => readRecord_list rfl layout filled before rest) after

/-! ## Written configurations -/

/-- The writer of a member's values. -/
def Field.write : (f : Field) → f.Value → List Char
  | .applicationName => writeText
  | .applicationVersion | .apiVersion => fun n => writeNat n.toNat
  | .diagnostics | .manageResources => writeBool
  | .instanceLayers | .deviceLayers => fun texts => writeList (texts.map writeText)

/-- A member of a configuration, written. -/
def written (c : Config) (f : Field) : String × List Char := (f.name, f.write (c.value f))

theorem toJson_eq (c : Config) :
    c.toJson = String.ofList (writeObject (Field.all.map c.written)) := rfl

theorem areTexts_writeList (texts : List String) :
    AreTexts texts (writeList (texts.map writeText)) :=
  ⟨_, List.forall₂_map_right_iff.2 (List.forall₂_same.2 fun s _ => isText_writeText s),
    encloses_writeList _⟩

theorem writes_written (c : Config) (f : Field) : c.Writes f (c.written f).2 := by
  cases f with
  | applicationName => exact isText_writeText _
  | applicationVersion | apiVersion | diagnostics | manageResources => exact rfl
  | instanceLayers | deviceLayers => exact areTexts_writeList _

/-- Any members can be described, in any order. -/
theorem describes_writeObject (c : Config) {fields : List Field} (once : fields.Nodup) :
    c.Describes fields (String.ofList (writeObject (fields.map c.written))) := by
  have gives : List.Forall₂ c.Gives (fields.map some) ((fields.map c.written).map writeMember) := by
    rw [List.map_map, List.forall₂_map_left_iff, List.forall₂_map_right_iff, List.forall₂_same]
    intro f _
    obtain ⟨spelling, spelled, layout⟩ := isMember_writeMember (c.written f)
    exact .field spelled (c.writes_written f) layout
  have reduced : (fields.map some).reduceOption = fields := by
    rw [List.reduceOption, List.filterMap_map]
    exact List.filterMap_some
  have described := Describes.object gives (reduced.symm ▸ once) (encloses_writeObject _) .nil .nil
  rwa [reduced, List.nil_append, List.append_nil] at described

/-! ## Repeated members -/

/-- A JSON object that names a member of a configuration twice, however it spells the name and
whatever its values are. -/
inductive Repeats : String → Prop
  | object {values items : List (List Char)} {b v b' x y : List Char} {i j : Nat} {f : Field}
    (hvalues : ∀ v ∈ values, IsValue v) (hitems : List.Forall₂ Frame.object.Holds values items)
    (layout : Frame.object.Encloses items v) (before : Blanks b) (after : Blanks b')
    (earlier : i < j) (first : items[i]? = some x) (second : items[j]? = some y)
    (named : Names x f.name) (again : Names y f.name) : Repeats (String.ofList (b ++ (v ++ b')))

theorem spans_reader (f : Field) : Spans f.reader := by
  cases f with
  | applicationName => exact spans_readText
  | applicationVersion | apiVersion => exact spans_readUInt32
  | diagnostics | manageResources => exact spans_readBool
  | instanceLayers | deviceLayers => exact spans_readList spans_readText

theorem tracked_members : Tracked PartialConfig.shape.members := by
  have set {f : Field} {p q : PartialConfig} {s r : List Char}
      (h : f.member.read p s = .ok (q, r)) : ∃ x, q = f.set p x := by
    rw [f.read_member] at h
    obtain ⟨x, -, same⟩ := exists_of_map_ok h
    exact ⟨x.1, (Prod.mk.inj same).1.symm⟩
  rw [Field.members_eq]
  refine ⟨?_, ?_, ?_⟩
  · simp only [List.forall_mem_map]
    exact fun f _ p => (spans_reader f).map (f.set p) (f.read_member p)
  · simp only [List.forall_mem_map]
    intro f _ p q s r h
    obtain ⟨x, rfl⟩ := set h
    exact f.isGiven_set p x
  · simp only [List.forall_mem_map]
    intro f _ p q s r h g _
    obtain ⟨x, rfl⟩ := set h
    exact f.isGiven_set_of_isGiven x

theorem ofJson_of_repeats {text : String} (h : Repeats text) :
    ∃ e, ofJson text = .error (.invalidState (.badConfig e)) := by
  rw [ofJson]
  cases read : readAll reader text with
  | error e => exact ⟨e, rfl⟩
  | ok c =>
    obtain @⟨values, items, b, v, b', x, y, i, j, f, hvalues, hitems, layout, before, after, earlier,
      first, second, named, again⟩ := h
    obtain ⟨_, read, -⟩ := exists_of_bind_ok read
    rw [String.toList_ofList] at read
    obtain ⟨p, read, -⟩ := exists_of_map_ok read
    have distinct := distinct_of_readRecord tracked_members hvalues hitems layout before read
    obtain ⟨hi, rfl⟩ := List.getElem?_eq_some_iff.1 first
    obtain ⟨hj, rfl⟩ := List.getElem?_eq_some_iff.1 second
    have missing := List.pairwise_iff_getElem.1 distinct i j hi hj earlier f.name named again
    cases missing.symm.trans f.find?_name

/-! ## Main result -/

/-- **A JSON text is laid over the defaults.** A text that describes some members of a configuration
is read as the defaults with these members replaced, and what is written for a configuration is read
as it was. An object that names a member twice is refused. -/
theorem ofJson_overlays :
    (∀ (c : Config) (fields : List Field) (text : String), c.Describes fields text →
      ofJson text = .ok (c.laidOver fields)) ∧
    (∀ c : Config, ofJson c.toJson = .ok c) ∧
    ∀ text : String, Repeats text → ∃ e, ofJson text = .error (.invalidState (.badConfig e)) := by
  refine ⟨fun c fields text => ofJson_of_describes, fun c => ?_, fun text => ofJson_of_repeats⟩
  rw [toJson_eq, ofJson_of_describes (c.describes_writeObject (by decide)), laidOver_all]

/-- With a member that is no configuration's, and with a member that is repeated. -/
theorem ofJson_overlays_note :
    ofJson (String.ofList ('\n' :: writeObject
      [("note", ['[', ']']), ("diagnostics", ['t', 'r', 'u', 'e'])])) = .ok { diagnostics := true } ∧
    ∃ e, ofJson (String.ofList (writeObject
      [("diagnostics", ['t', 'r', 'u', 'e']), ("diagnostics", ['0'])])) =
        .error (.invalidState (.badConfig e)) := by
  have empty : IsValue ['[', ']'] :=
    .enclosed (f := .list) (List.forall_mem_nil _) .nil ⟨[], .none .nil, rfl⟩
  have zero : IsValue ['0'] := .number (.mk (.inl rfl) .zero .none .none)
  constructor
  · have note : ∀ f : Field, f.name ≠ "note" := by
      intro f
      cases f <;> decide
    obtain ⟨k, spelled, layout⟩ := isMember_writeMember ("note", ['[', ']'])
    obtain ⟨k', spelled', layout'⟩ := isMember_writeMember ("diagnostics", ['t', 'r', 'u', 'e'])
    have gives : List.Forall₂ (Gives { diagnostics := true }) [none, some .diagnostics] _ :=
      .cons (.other note spelled empty layout) (.cons (.field spelled' rfl layout') .nil)
    have blank : Blanks ['\n'] := List.forall_mem_singleton.2 rfl
    have described := Describes.object gives (by decide) (encloses_writeObject [_, _]) blank .nil
    rw [List.append_nil] at described
    exact ofJson_overlays.1 _ _ _ described
  · obtain ⟨k, spelled, layout⟩ := isMember_writeMember ("diagnostics", ['t', 'r', 'u', 'e'])
    obtain ⟨k', spelled', layout'⟩ := isMember_writeMember ("diagnostics", ['0'])
    have repeated := Repeats.object (f := .diagnostics) (i := 0) (j := 1)
      (List.forall_mem_cons.2 ⟨.word (by decide), List.forall_mem_singleton.2 zero⟩)
      (.cons ⟨k, spelled.quotable, layout⟩ (.cons ⟨k', spelled'.quotable, layout'⟩ .nil))
      (encloses_writeObject [_, _]) .nil .nil (by decide) rfl rfl ⟨k, _, spelled, layout⟩
      ⟨k', _, spelled', layout'⟩
    rw [List.nil_append, List.append_nil] at repeated
    exact ofJson_overlays.2.2 _ repeated

end Config

end GpuCompute
