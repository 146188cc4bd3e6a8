import ListWatch.Proofs.Json.Normal
import ListWatch.Resource.Untyped

/-!
# What survives reading and writing

An untyped object keeps what it does not know. What is written for an object that was read from a
text holds all that the text holds, each name once; only missing metadata are written as empty ones,
and a name, namespace or version that is null is left out of them.
-/
namespace ListWatch

open Json (Fields Form Members Ordered Presence Schema Value member? setMember)

/-- What is left of metadata: a name, namespace or version that is null is left out. -/
def tidyMetadata : Value → Value
  | .object members => .object (members.filter fun entry =>
      !((Metadata.fields.map Prod.fst).contains entry.1 && entry.2 = .null))
  | other => other

/-- What is left of an object: its metadata are tidied, and empty where there are none. -/
def tidyObject : Value → Value
  | .object members => .object (setMember "metadata"
      ((member? "metadata" members).elim (.object []) tidyMetadata) members)
  | other => other

/-! ## Metadata -/

theorem settled_metadata : metadataSchema.Settled 1 := by
  refine .extensible (by decide) ?_ ?_
  · simp only [Metadata.fields, List.forall_mem_cons]
    exact ⟨.text, .text, .text, nofun⟩
  · simp only [Metadata.fields, List.forall_mem_cons]
    exact ⟨nofun, nofun, nofun, nofun⟩

variable {members written : Members} {name : String} {value normal : Value}

/-- A text that may be left out is found, or is null or missing. -/
theorem valueFor_text (found : Fields.valueFor members (name, .omissible, .text) = some value) :
    ∃ text : Option String, value = .ofOption .string text ∧
      (member? name members).filter (fun value => !decide (value = .null)) =
        text.map Value.string := by
  rw [Fields.valueFor] at found
  simp only at found
  cases held : member? name members with
  | none =>
    rw [held] at found
    cases found
    exact ⟨none, rfl, rfl⟩
  | some original =>
    rw [held] at found
    have checked := Json.toOption_eq_some.mp found
    by_cases null : original = .null
    · subst null
      cases checked
      exact ⟨none, rfl, rfl⟩
    · rw [Presence.check_of_other fun _ => null] at checked
      obtain ⟨text, rfl, rfl⟩ := Json.Reader.check_text.mp checked
      exact ⟨some text, rfl, by simp⟩

/-- The fields of metadata are written from a name, a namespace and a version. -/
theorem exists_metadata (filled : Fields.fill members Metadata.fields = some written)
    (extra : Members) :
    ∃ metadata : Metadata, metadata.extra = extra ∧
      Value.object (written ++ extra) = metadata.toValue := by
  obtain ⟨_, _, named, others, rfl⟩ := Fields.fill_cons_eq_some.mp filled
  obtain ⟨_, _, placed, last, rfl⟩ := Fields.fill_cons_eq_some.mp others
  obtain ⟨_, _, versioned, none, rfl⟩ := Fields.fill_cons_eq_some.mp last
  obtain ⟨name, rfl, -⟩ := valueFor_text named
  obtain ⟨scope, rfl, -⟩ := valueFor_text placed
  obtain ⟨version, rfl, -⟩ := valueFor_text versioned
  cases none
  refine ⟨{ name, scope, resourceVersion := version, extra }, rfl, ?_⟩
  simp only [Metadata.toValue, List.append_assoc, List.append_nil]

/-- Metadata are what is made of the document written for them. -/
theorem Metadata.ofNormal_toValue (metadata : Metadata)
    (fresh : ∀ entry ∈ metadata.extra, entry.1 ∉ fields.map Prod.fst) :
    ofNormal metadata.toValue = metadata := by
  obtain ⟨name, scope, version, extra⟩ := metadata
  have gone (name : String) (field : name ∈ fields.map Prod.fst) : member? name extra = none := by
    refine Json.member?_eq_none_of_not_mem fun held => ?_
    obtain ⟨entry, member, rfl⟩ := List.mem_map.mp held
    exact fresh entry member field
  have noName := gone "name" (by decide)
  have noScope := gone "namespace" (by decide)
  have noVersion := gone "resourceVersion" (by decide)
  rw [toValue, ofNormal]
  -- Each of the three is written or not; all that is written beside them goes by other names.
  cases name <;> cases scope <;> cases version <;>
    simpa [Value.ofOption, Presence.member, Value.field, Json.member?_cons, noName, noScope,
      noVersion, Value.toOption, Value.toText, Value.toMembers, Json.withoutNames, fields]
      using fresh

/-- What metadata in order are checked as is what is written for them, and what is left of it is
what is left of the metadata. -/
theorem metadata_normal (ordered : value.InOrder)
    (checked : value.check metadataSchema = .ok normal) :
    (Metadata.ofNormal normal).toValue = normal ∧ normal.merged = tidyMetadata value := by
  rw [← ordered.merged_eq] at checked
  obtain ⟨members, rfl⟩ := Json.Reader.merged_eq_object checked
  rw [ordered.merged_eq] at checked
  cases ordered with | object names inside =>
  have ordered := Json.ordered_iff_names.mpr names
  have distinct : (Metadata.fields.map Prod.fst).Nodup := by decide
  have once := Ordered.nodup (ordered.filter fun entry => (Metadata.fields.find? entry.1).isSome)
  obtain ⟨written, filled, rfl⟩ := (Fields.check_extensible distinct once).mp checked
  rw [Fields.mergeMembers_undeclared ordered]
  constructor
  · obtain ⟨metadata, extra, same⟩ := exists_metadata filled (Metadata.fields.undeclared members)
    rw [same, Metadata.ofNormal_toValue]
    rw [extra]
    exact fun entry => Fields.not_mem_names_of_undeclared
  · -- Both are in order, so it is enough that the same is found at every name.
    rw [Value.merged, tidyMetadata, Value.object.injEq]
    refine (Json.ordered_mergeMembers _).ext (ordered.filter _) fun name => ?_
    rw [Fields.member?_normal distinct filled ordered inside,
      Json.member?_filter_of_nodup ordered.nodup]
    simp only [Fields.contains_names]
    cases known : Metadata.fields.find? name with
    | none => cases member? name members <;> rfl
    | some field =>
      have member := Fields.mem_of_find? known
      have omissible : ∀ field ∈ Metadata.fields, field.2 = (.omissible, .text) := by
        simp [Metadata.fields]
      obtain rfl : field = (.omissible, .text) := omissible _ member
      obtain ⟨value, found, at_name⟩ := Fields.member?_fill distinct filled member
      obtain ⟨text, rfl, held⟩ := valueFor_text found
      simp only [Option.isSome_some, if_true, Bool.true_and]
      rw [held, at_name]
      cases text with
      | none => rfl
      | some text => simp [Value.ofOption, Presence.member, Value.merged, member?]

/-! ## Objects -/

/-- The fields of an untyped object. -/
def UntypedObject.declared : Fields := [("metadata", .default (.object []), metadataSchema)]

/-- Empty metadata are filled in as they stand. -/
theorem normal_emptyMetadata : Value.Normal 1 metadataSchema .null (.object []) where
  fixed := rfl
  single := .object List.nodup_nil nofun
  whole _ := .object trivial nofun
  shallow := by decide

theorem settled_untyped : (Form.schema UntypedObject).Settled 2 := by
  refine .extensible (by decide) ?_ ?_
  · rw [List.forall_mem_singleton]
    exact settled_metadata
  · rw [List.forall_mem_singleton]
    rintro _ ⟨⟩
    exact normal_emptyMetadata

/-- The metadata that are written for an object. -/
theorem exists_object (inside : ∀ entry ∈ members, entry.2.InOrder)
    (filled : Fields.fill members UntypedObject.declared = some written) :
    ∃ metadata, written = [("metadata", metadata)] ∧
      (Metadata.ofNormal metadata).toValue = metadata ∧
      metadata.merged = (member? "metadata" members).elim (.object []) tidyMetadata := by
  obtain ⟨metadata, _, found, none, rfl⟩ := Fields.fill_cons_eq_some.mp filled
  cases none
  refine ⟨metadata, by simp [Presence.member], ?_⟩
  rw [Fields.valueFor] at found
  cases held : member? "metadata" members with
  | none =>
    rw [held] at found
    cases found
    exact ⟨rfl, rfl⟩
  | some original =>
    rw [held] at found
    have ordered := inside _ (Json.mem_of_member? held)
    exact metadata_normal ordered (Json.toOption_eq_some.mp found)

theorem untyped_normal (ordered : value.InOrder)
    (checked : value.check (Form.schema UntypedObject) = .ok normal) :
    Form.toValue (Form.ofNormal normal : UntypedObject) = normal ∧
      normal.merged = tidyObject value := by
  rw [← ordered.merged_eq] at checked
  obtain ⟨members, rfl⟩ := Json.Reader.merged_eq_object checked
  rw [ordered.merged_eq] at checked
  cases ordered with | object names inside =>
  have ordered := Json.ordered_iff_names.mpr names
  have distinct : (UntypedObject.declared.map Prod.fst).Nodup := by decide
  have once := Ordered.nodup
    (ordered.filter fun entry => (UntypedObject.declared.find? entry.1).isSome)
  obtain ⟨written, filled, rfl⟩ := (Fields.check_extensible distinct once).mp checked
  rw [Fields.mergeMembers_undeclared ordered]
  obtain ⟨metadata, rfl, same, left⟩ := exists_object inside filled
  constructor
  · have kept : Json.withoutNames ["metadata"] (UntypedObject.declared.undeclared members) =
        UntypedObject.declared.undeclared members := by
      refine List.filter_eq_self.mpr fun entry member => ?_
      simpa [UntypedObject.declared] using Fields.not_mem_names_of_undeclared member
    change Value.object (("metadata", (Metadata.ofNormal metadata).toValue) ::
      Json.withoutNames ["metadata"] (UntypedObject.declared.undeclared members)) = _
    rw [same, kept]
    rfl
  · -- The metadata are found where they were set, and all else as it was.
    rw [Value.merged, tidyObject, Value.object.injEq]
    refine (Json.ordered_mergeMembers _).ext ordered.setMember fun name => ?_
    rw [Fields.member?_normal distinct filled ordered inside, Json.member?_setMember, ← left]
    by_cases metadata : "metadata" = name
    · subst metadata
      rfl
    · simp [UntypedObject.declared, Fields.find?, metadata]

/-! ## Texts -/

/-- The text that is written for what was decoded. -/
def writtenText {α : Type} [Form α] (decoded : α) : List UInt8 := (Form.toValue decoded).bytes

/-- What was decoded survives: the text written for it is read as what is left of the text it was
decoded from, repeats no name, and is decoded as the same, for which the same is written again. -/
structure Survives {α : Type} [Form α] (decoded : α) (left : Value) : Prop where
  read : Json.parse (writtenText decoded) = .ok left
  single : ∃ transcript,
    Json.transcribe (writtenText decoded) = .ok transcript ∧ transcript.NoRepeats
  back : Json.decode α (writtenText decoded) = .ok decoded
  again : ∀ other, Json.decode α (writtenText decoded) = .ok other →
    writtenText other = writtenText decoded

/-- A type survives where each normal form is the document written for what is made of it. -/
theorem exists_survives {α : Type} [Form α] {height : Nat} {tidy : Value → Value}
    (settled : (Form.schema α).Settled height) (low : height < Json.depthLimit)
    (each : ∀ {value normal : Value}, value.InOrder → value.check (Form.schema α) = .ok normal →
      Form.toValue (Form.ofNormal normal : α) = normal ∧ normal.merged = tidy value)
    {bytes : List UInt8} {decoded : α} (accepted : Json.decode α bytes = .ok decoded) :
    ∃ value, Json.parse bytes = .ok value ∧ (value.Whole → Survives decoded (tidy value)) := by
  rw [Json.decode] at accepted
  cases read : (Form.schema α).decode bytes with
  | error fault =>
    rw [read] at accepted
    cases accepted
  | ok normal =>
    rw [read] at accepted
    cases accepted
    obtain ⟨value, parsed, ordered, checked, survives⟩ := settled.survives low read
    obtain ⟨same, left⟩ := each ordered checked
    refine ⟨value, parsed, fun whole => ?_⟩
    obtain ⟨transcribed, single, back⟩ := survives whole
    -- What is written is the normal form itself, so everything is said of its bytes.
    have text : writtenText (Form.ofNormal normal : α) = normal.bytes := by rw [writtenText, same]
    have decoded : Json.decode α normal.bytes = .ok (Form.ofNormal normal) := by
      rw [Json.decode, back]
      rfl
    constructor
    · rw [text]
      exact Json.parse_eq_ok_iff.mpr ⟨normal, transcribed, left⟩
    · rw [text]
      exact ⟨normal, transcribed, single⟩
    · rw [text, decoded]
    · rw [text, decoded]
      rintro _ ⟨⟩
      exact text

/-- Unknown data is carried through untouched: what is written for an untyped object, or for
metadata, that was decoded from a text whose numbers are integers of 64 bits is read as that text
is, but for the metadata that it tidies. -/
theorem unknown_data_survives :
    (∀ (bytes : List UInt8) (object : UntypedObject),
      Json.decode UntypedObject bytes = .ok object →
        ∃ value, Json.parse bytes = .ok value ∧
          (value.Whole → Survives object (tidyObject value))) ∧
    ∀ (bytes : List UInt8) (metadata : Metadata), Json.decode Metadata bytes = .ok metadata →
      ∃ value, Json.parse bytes = .ok value ∧
        (value.Whole → Survives metadata (tidyMetadata value)) := by
  constructor
  · intro bytes object
    exact exists_survives settled_untyped (by decide) untyped_normal
  · intro bytes metadata
    exact exists_survives settled_metadata (by decide) metadata_normal

namespace Sample

/-- An object whose name is null, and whose last member goes by a name that stood before. -/
def rewritten : List UInt8 :=
  Utf8.ofString ("\x7b\"spec\":[1],\"metadata\":\x7b\"uid\":\"a\\u00e9\",\"name\":null\x7d," ++
    "\"spec\":\x7b\"b\":-5,\"a\":18446744073709551615\x7d\x7d")

/-- What is left of that text before it is tidied. -/
def rewrittenValue : Value := .object [
  ("metadata", .object [("name", .null), ("uid", .string "a\u00e9")]),
  ("spec", .object [("a", .number (.integer 18446744073709551615)),
    ("b", .number (.integer (-5)))])]

/-- Metadata without a name that nothing knows of. -/
def bareMetadata : List UInt8 :=
  Utf8.ofString "\x7b\"namespace\":null,\"labels\":\x7b\"tier\":\"edge\"\x7d\x7d"

def bareMetadataValue : Value := .object [
  ("labels", .object [("tier", .string "edge")]), ("namespace", .null)]

theorem whole_rewrittenValue : rewrittenValue.Whole := by
  refine .object trivial ?_
  simp only [List.forall_mem_cons]
  refine ⟨.object trivial ?_, .object trivial ?_, nofun⟩
  · simp only [List.forall_mem_cons]
    exact ⟨.null, .string _, nofun⟩
  · simp only [List.forall_mem_cons]
    exact ⟨.number ⟨by decide, by decide⟩, .number ⟨by decide, by decide⟩, nofun⟩

theorem whole_bareMetadataValue : bareMetadataValue.Whole := by
  refine .object trivial ?_
  simp only [List.forall_mem_cons]
  refine ⟨.object trivial ?_, .null, nofun⟩
  rw [List.forall_mem_singleton]
  exact .string _

theorem exists_ok {ε α : Type} {result : Except ε α} (accepted : result.toOption.isSome = true) :
    ∃ value, result = .ok value := by
  obtain ⟨value, found⟩ := Option.isSome_iff_exists.mp accepted
  exact ⟨value, Json.toOption_eq_some.mp found⟩

/-- Of that object the last member and what is not known of the metadata survive, and so do the
labels of the metadata. -/
theorem rewritten_survives :
    (∃ object : UntypedObject, Json.decode UntypedObject rewritten = .ok object ∧
      Survives object (.object [
        ("metadata", .object [("uid", .string "a\u00e9")]),
        ("spec", .object [("a", .number (.integer 18446744073709551615)),
          ("b", .number (.integer (-5)))])])) ∧
    ∃ metadata : Metadata, Json.decode Metadata bareMetadata = .ok metadata ∧
      Survives metadata (.object [("labels", .object [("tier", .string "edge")])]) := by
  obtain ⟨object, decoded⟩ := exists_ok
    (by decide +kernel : (Json.decode UntypedObject rewritten).toOption.isSome = true)
  obtain ⟨metadata, decoded'⟩ := exists_ok
    (by decide +kernel : (Json.decode Metadata bareMetadata).toOption.isSome = true)
  have parsed : (Json.parse rewritten).toOption = some rewrittenValue := by decide +kernel
  have parsed' : (Json.parse bareMetadata).toOption = some bareMetadataValue := by decide +kernel
  obtain ⟨value, read, survives⟩ := unknown_data_survives.1 rewritten object decoded
  obtain ⟨value', read', survives'⟩ := unknown_data_survives.2 bareMetadata metadata decoded'
  rw [Json.toOption_eq_some.mp parsed] at read
  rw [Json.toOption_eq_some.mp parsed'] at read'
  cases read
  cases read'
  exact ⟨⟨object, decoded, survives whole_rewrittenValue⟩,
    ⟨metadata, decoded', survives' whole_bareMetadataValue⟩⟩

end Sample

end ListWatch
