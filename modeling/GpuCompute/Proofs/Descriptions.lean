import GpuCompute.Proofs.Json.Decimals
import GpuCompute.Proofs.Json.Outcomes
import GpuCompute.Schema

/-!
# Selections and device properties in JSON

What is written for a selection or for device properties is read as it was, if the timestamp period
is finite; an infinite period is written as `null`, which is refused. Every number that is read as a
period is finite or infinite, never a NaN, so these are all cases of a text that was accepted.
-/

namespace GpuCompute

open Json

/-! ## Members -/

section Members

variable {σ α : Type} {members : List (Member σ)} {name : String} {get : σ → Option α}
  {set : σ → α → σ} {reader : Reader α} {record : σ} {v : List Char}

/-- A written member that was not read before is read into the record. -/
theorem takes_memberOf {a : α}
    (found : members.find? (·.name == name) = some (memberOf name get set reader))
    (new : get record = none) (reads : Reads reader a v) :
    Takes members (writeMember (name, v)) record (set record a) := by
  obtain ⟨spelling, spelled, layout⟩ := isMember_writeMember (name, v)
  have given : (memberOf name get set reader).isGiven record = false := by
    simp only [memberOf, new, Option.isSome_none]
  exact .known spelled found given (reads.map (set record) fun _ => rfl) layout

/-- A written member is refused for the same reason as its value. -/
theorem refuses_memberOf {e : ReadError}
    (found : members.find? (·.name == name) = some (memberOf name get set reader))
    (new : get record = none) (fails : ∀ rest, Ends rest → reader (v ++ rest) = .error e) :
    Refuses members (writeMember (name, v)) record e := by
  intro rest ends
  have given : (memberOf name get set reader).isGiven record = false := by
    simp only [memberOf, new, Option.isSome_none]
  have split : writeMember (name, v) ++ rest =
      '"' :: (name.toList.flatMap writeChar ++ '"' :: ':' :: (v ++ rest)) := by
    rw [writeMember, writeText]
    simp only [List.cons_append, List.append_assoc, List.nil_append]
  refine ⟨_, name.toList, _, split, readString_append (spells_flatMap _) [] _, ?_⟩
  have colon : readColon (':' :: (v ++ rest)) = .ok (v ++ rest) := readColon_append .nil _
  have read : (memberOf name get set reader).read record (v ++ rest) = .error e := by
    simp only [memberOf, fails rest ends, Except.map]
  simp only [String.ofList_toList, readMember, found, given, Bool.false_eq_true, if_false, colon,
    bind, Except.bind]
  exact read

end Members

/-! ## Selections -/

namespace Selection

/-- What is known when all members of a selection were read. -/
def known (c : Selection) : PartialSelection where
  adapterIndex := some c.adapterIndex
  families := some c.families
  extensions := some c.extensions

theorem gathers_jsonMembers (c : Selection) :
    Gathers PartialSelection.shape.members (c.jsonMembers.map writeMember)
      PartialSelection.shape.start c.known :=
  .cons (takes_memberOf rfl rfl (reads_writeNat64 _)) <|
  .cons (takes_memberOf rfl rfl (reads_writeList reads_writeNat _)) <|
  .cons (takes_memberOf rfl rfl
    (reads_writeList (fun t => reads_text (isText_writeText t)) _)) .nil

/-- A selection is read as it was written. -/
theorem readAll_toJson (c : Selection) : readAll reader c.toJson = .ok c := by
  have read (rest : List Char) :
      reader ([] ++ (writeObject c.jsonMembers ++ rest)) = .ok (c, rest) := by
    rw [reader, readRecord_object (encloses_writeObject _) c.gathers_jsonMembers .nil]
    rfl
  have all := readAll_append reader read .nil
  rwa [List.append_nil] at all

end Selection

/-! ## Device properties -/

theorem DeviceKind.variantOf_label (k : DeviceKind) :
    variantOf DeviceKind.variants k.label = .ok k := by cases k <;> rfl

theorem Extent.reads_toList (n : Extent) :
    Reads Extent.reader n (writeList (n.toList.map fun k => writeNat k.toNat)) :=
  (reads_writeArray reads_writeNat n.toList).map
    (fun l => (⟨l.getD 0 0, l.getD 1 0, l.getD 2 0⟩ : Extent)) fun _ => rfl

namespace DeviceProperties

/-- What is known when all members but the timestamp period were read. -/
def knownBefore (p : DeviceProperties) : PartialProperties where
  name := some p.name
  kind := some p.kind
  vendorId := some p.vendorId
  deviceId := some p.deviceId
  apiVersion := some p.apiVersion
  driverVersion := some p.driverVersion
  maxComputeSharedMemorySize := some p.maxComputeSharedMemorySize
  maxComputeWorkGroupInvocations := some p.maxComputeWorkGroupInvocations
  maxComputeWorkGroupCount := some p.maxComputeWorkGroupCount
  maxPushConstantsSize := some p.maxPushConstantsSize

/-- The written members but the timestamp period, which is the last. -/
def itemsBefore (p : DeviceProperties) : List (List Char) := (p.jsonMembers.take 10).map writeMember

theorem gathers_itemsBefore (p : DeviceProperties) :
    Gathers PartialProperties.shape.members p.itemsBefore PartialProperties.shape.start
      p.knownBefore :=
  .cons (takes_memberOf rfl rfl (reads_text (isText_writeText _))) <|
  .cons (takes_memberOf rfl rfl (reads_variant (isText_writeText _) p.kind.variantOf_label)) <|
  .cons (takes_memberOf rfl rfl (reads_writeNat _)) <|
  .cons (takes_memberOf rfl rfl (reads_writeNat _)) <|
  .cons (takes_memberOf rfl rfl (reads_writeNat _)) <|
  .cons (takes_memberOf rfl rfl (reads_writeNat _)) <|
  .cons (takes_memberOf rfl rfl (reads_writeNat _)) <|
  .cons (takes_memberOf rfl rfl (reads_writeNat _)) <|
  .cons (takes_memberOf rfl rfl (Extent.reads_toList _)) <|
  .cons (takes_memberOf rfl rfl (reads_writeNat _)) .nil

/-- Device properties with a written timestamp period. -/
def writtenWith (p : DeviceProperties) (v : List Char) : List Char :=
  writeObject (p.jsonMembers.take 10 ++ [("timestamp_period", v)])

theorem toJson_eq (p : DeviceProperties) :
    p.toJson = String.ofList (p.writtenWith (writeSingle p.timestampPeriod)) := rfl

theorem encloses_writtenWith (p : DeviceProperties) (v : List Char) :
    Frame.object.Encloses (p.itemsBefore ++ [writeMember ("timestamp_period", v)])
      (p.writtenWith v) := by
  have layout := encloses_writeObject (p.jsonMembers.take 10 ++ [("timestamp_period", v)])
  rwa [List.map_append] at layout

/-- The last member of device properties. -/
theorem find?_period : PartialProperties.shape.members.find? (·.name == "timestamp_period") =
    some (memberOf "timestamp_period" (·.timestampPeriod)
      (fun c v => { c with timestampPeriod := some v }) readSingle) := rfl

/-- Device properties are read with what is written for the period. -/
theorem readAll_writtenWith (p : DeviceProperties) {bits : UInt32} {v : List Char}
    (reads : Reads readSingle bits v) :
    readAll reader (String.ofList (p.writtenWith v)) = .ok { p with timestampPeriod := bits } := by
  have last := takes_memberOf find?_period (rfl : p.knownBefore.timestampPeriod = none) reads
  have gathers := p.gathers_itemsBefore.append (.cons last .nil)
  have read (rest : List Char) : reader ([] ++ (p.writtenWith v ++ rest)) =
      .ok ({ p with timestampPeriod := bits }, rest) := by
    rw [reader, readRecord_object (p.encloses_writtenWith v) gathers .nil]
    rfl
  have all := readAll_append reader read .nil
  rwa [List.append_nil] at all

/-- Device properties with a finite timestamp period are read as they were written. -/
theorem readAll_toJson {p : DeviceProperties} (finite : IsFinite p.timestampPeriod) :
    readAll reader p.toJson = .ok p :=
  p.readAll_writtenWith (reads_writeSingle finite)

/-- An infinite period is written as what is no period. -/
theorem readAll_toJson_error {p : DeviceProperties} (infinite : ¬ IsFinite p.timestampPeriod) :
    readAll reader p.toJson = .error (.wrongType .null "f32") := by
  have null : writeSingle p.timestampPeriod = ['n', 'u', 'l', 'l'] := if_neg infinite
  have last : Refuses PartialProperties.shape.members
      (writeMember ("timestamp_period", ['n', 'u', 'l', 'l'])) p.knownBefore
      (.wrongType .null "f32") :=
    refuses_memberOf find?_period rfl fun _ _ => rfl
  have read := readRecord_refused (p.encloses_writtenWith _) p.gathers_itemsBefore last .nil []
  rw [List.nil_append, List.append_nil] at read
  rw [toJson_eq, null, readAll, String.toList_ofList, reader, read]
  rfl

/-! ### Periods that are read -/

theorem sizeCode_le_of_readSingle {s r : List Char} {bits : UInt32}
    (h : readSingle s = .ok (bits, r)) : sizeCode bits ≤ Binary.single.infinity := by
  have accepted {result : Except ReadError (Number × List Char)}
      (h : (result.bind fun p => Except.ok (p.1.toSingle, p.2)) = .ok (bits, r)) :
      sizeCode bits ≤ Binary.single.infinity := by
    obtain ⟨p, -, same⟩ := exists_of_bind_ok h
    cases same
    exact sizeCode_toSingle_le p.1
  unfold readSingle readNumeric at h
  dsimp only at h
  split at h
  · cases h
  · exact accepted h
  · split at h
    · exact accepted h
    · cases h

/-- Whether a period that was read is no NaN. -/
def Sound (p : PartialProperties) : Prop :=
  ∀ bits ∈ p.timestampPeriod, sizeCode bits ≤ Binary.single.infinity

theorem keeps_sound : Keeps Sound PartialProperties.shape.members := by
  refine ⟨fun m hm {record record' s r} sound h => ?_⟩
  simp only [PartialProperties.shape, List.mem_cons, List.not_mem_nil, or_false] at hm
  rcases hm with rfl | rfl | rfl | rfl | rfl | rfl | rfl | rfl | rfl | rfl | rfl
  case inr.inr.inr.inr.inr.inr.inr.inr.inr.inr =>
    obtain ⟨p, read, same⟩ := exists_of_map_ok h
    cases same
    rintro _ ⟨⟩
    exact sizeCode_le_of_readSingle read
  all_goals
    obtain ⟨p, -, same⟩ := exists_of_map_ok h
    cases same
    exact sound

/-- The period of device properties that were read is finite or infinite. -/
theorem sizeCode_le_of_readAll {text : String} {p : DeviceProperties}
    (h : readAll reader text = .ok p) : sizeCode p.timestampPeriod ≤ Binary.single.infinity := by
  obtain ⟨⟨p', s⟩, read, ended⟩ := exists_of_bind_ok h
  dsimp only at ended
  split at ended
  case isFalse => cases ended
  cases ended
  obtain ⟨⟨q, r⟩, record, given⟩ := exists_of_bind_ok read
  have sound : Sound q := readRecord_induction keeps_sound (fun _ h => by cases h) record
  dsimp only at given
  iterate 10 obtain ⟨_, -, given⟩ := exists_of_bind_ok given
  obtain ⟨period, required, same⟩ := exists_of_bind_ok given
  cases same
  cases known : q.timestampPeriod with
  | none =>
    rw [known] at required
    cases required
  | some bits =>
    rw [known] at required
    cases required
    exact sound _ known

end DeviceProperties

/-! ## Compact forms -/

/-- **Descriptions survive being written and read.** A selection, and device properties with a finite
timestamp period, are read as they were written, so the compact form of a text is its own compact
form. A period that was read is finite or infinite, and an infinite one is written as `null`, which
is refused. -/
theorem descriptions_survive :
    (∀ c : Selection, readAll Selection.reader c.toJson = .ok c) ∧
    (∀ p : DeviceProperties, IsFinite p.timestampPeriod →
      readAll DeviceProperties.reader p.toJson = .ok p) ∧
    (∀ text t : String, Described.selection.compact text = .ok t →
      Described.selection.compact t = .ok t) ∧
    ∀ text t : String, Described.properties.compact text = .ok t →
      ∃ p : DeviceProperties, readAll DeviceProperties.reader text = .ok p ∧ t = p.toJson ∧
        sizeCode p.timestampPeriod ≤ Binary.single.infinity ∧
        Described.properties.compact t =
          if IsFinite p.timestampPeriod then .ok t else .error (.wrongType .null "f32") := by
  refine ⟨Selection.readAll_toJson, fun p => DeviceProperties.readAll_toJson, fun text t h => ?_,
    fun text t h => ?_⟩
  · obtain ⟨c, -, rfl⟩ := exists_of_map_ok h
    rw [Described.compact, c.readAll_toJson, Except.map]
  · obtain ⟨p, read, rfl⟩ := exists_of_map_ok h
    refine ⟨p, read, rfl, DeviceProperties.sizeCode_le_of_readAll read, ?_⟩
    rw [Described.compact]
    split
    · next finite => rw [DeviceProperties.readAll_toJson finite, Except.map]
    · next infinite => rw [DeviceProperties.readAll_toJson_error infinite, Except.map]

/-- Device properties with a period of `7.038531e-26`, whose shortest decimal is next to the midpoint
of two floats. -/
def tinyPeriod : DeviceProperties where
  name := "gpu"
  kind := .discrete
  vendorId := 1
  deviceId := 2
  apiVersion := 3
  driverVersion := 4
  maxComputeSharedMemorySize := 5
  maxComputeWorkGroupInvocations := 6
  maxComputeWorkGroupCount := ⟨7, 8, 9⟩
  maxPushConstantsSize := 10
  timestampPeriod := 0x15AE43FD

/-- With a selection in a list. -/
theorem descriptions_survive_tinyPeriod :
    readAll DeviceProperties.reader tinyPeriod.toJson = .ok tinyPeriod ∧
    Described.selection.compact (Selection.toJson ⟨1, [2], []⟩) =
      .ok (Selection.toJson ⟨1, [2], []⟩) ∧
    Described.properties.compact tinyPeriod.toJson = .ok tinyPeriod.toJson := by
  have finite : IsFinite tinyPeriod.timestampPeriod := by decide +kernel
  have read := descriptions_survive.2.1 tinyPeriod finite
  have list : Described.selection.compact
      (String.ofList ['[', '1', ',', ' ', '[', '2', ']', ',', '[', ']', ']']) =
        .ok (Selection.toJson ⟨1, [2], []⟩) := rfl
  have compact : Described.properties.compact tinyPeriod.toJson = .ok tinyPeriod.toJson := by
    rw [Described.compact, read, Except.map]
  obtain ⟨p, read', -, -, again⟩ := descriptions_survive.2.2.2 _ _ compact
  cases read.symm.trans read'
  rw [if_pos finite] at again
  exact ⟨read, descriptions_survive.2.2.1 _ _ list, again⟩

/-! ## Periods that are too large -/

/-- The same with a period of `1e+39`. -/
def largePeriod : String := String.ofList (tinyPeriod.writtenWith ['1', 'e', '+', '3', '9'])

/-- The same with an infinite period. -/
def infinitePeriod : DeviceProperties := { tinyPeriod with timestampPeriod := 0x7F800000 }

theorem readAll_largePeriod : readAll DeviceProperties.reader largePeriod = .ok infinitePeriod := by
  refine tinyPeriod.readAll_writtenWith ⟨⟨'1', _, rfl, rfl, by decide⟩, fun {b rest} hb ends => ?_⟩
  have float : toFloat? 1 39 = some 5190260616003865117 := by decide +kernel
  have single : (Number.real false 5190260616003865117).toSingle = 0x7F800000 := by decide +kernel
  have digit : IsDigit '1' := rfl
  have read : readNumber false ('1' :: 'e' :: '+' :: '3' :: '9' :: rest) =
      .ok (.real false 5190260616003865117, rest) := by
    have exponent := readExponent_append false (n := 1) (e := 0) (k := 39) (by decide) ends
    refine (readNumber_digits false digit (by decide) (List.forall_mem_nil _) (by decide)
      rfl).trans (exponent.trans ?_)
    rw [zero_add, finishReal, float]
  have found : skipBlank (b ++ (['1', 'e', '+', '3', '9'] ++ rest)) =
      '1' :: 'e' :: '+' :: '3' :: '9' :: rest := skipBlank_append_cons hb digit.not_isBlank _
  rw [readSingle, readNumeric_digit found digit, read, Except.bind, Except.map, single]

/-- A text is accepted whose compact form is refused. -/
theorem largePeriod_refused :
    Described.properties.compact largePeriod = .ok infinitePeriod.toJson ∧
      Described.properties.compact infinitePeriod.toJson = .error (.wrongType .null "f32") := by
  have infinite : ¬ IsFinite infinitePeriod.timestampPeriod := by decide +kernel
  constructor
  · rw [Described.compact, readAll_largePeriod, Except.map]
  · rw [Described.compact, DeviceProperties.readAll_toJson_error infinite, Except.map]

end GpuCompute
