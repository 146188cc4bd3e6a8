import ListWatch.Event.Change
import ListWatch.Proofs.Event.Envelope
import ListWatch.Proofs.Resource.Survival
import ListWatch.Resource.List

/-!
# Objects in lists and on lines

An object of a list is read from its text, and an object on a line is read as any value first and
then checked. Whatever the text of the object, however its members are ordered and its strings and
numbers spelled, both refuse it or both make the same object of it.
-/
namespace ListWatch

open Json (Blanks Fields Named Piece Schema Spaced Spelling Value quotedBytes)
open Json.Reader (GivesFor givesFor_list givesFor_nullOr givesFor_plain givesFor_record
  memberOutcome_of_fresh plainOutcome plainOutcome_any plainOutcome_text recordOutcome)

/-- The body of a list that holds one object and says nothing else. -/
def listBody (text : List UInt8) : List UInt8 :=
  Utf8.ofString "\x7b\"items\":[" ++ (text ++ Utf8.ofString "]\x7d")

/-- The line of a change that carries an object. -/
def changeLine (kind : ChangeKind) (text : List UInt8) : List UInt8 :=
  Utf8.ofString ("\x7b\"type\":\"" ++ kind.wireName ++ "\",\"object\":") ++
    (text ++ Utf8.ofString "\x7d")

/-! ## Lists -/

/-- A text between blanks. -/
def spacedText (text : Spaced Spelling) : List UInt8 :=
  text.before.bytes ++ (text.it.bytes ++ text.after.bytes)

/-- A text without blanks around it. -/
def bare (text : Spelling) : Spaced Spelling := ⟨.empty, text, .empty⟩

/-- A member without blanks around its name. -/
def memberOf (name : List Piece) (text : Spaced Spelling) : Named Spelling :=
  ⟨.empty, name, .empty, text⟩

/-- The fields of a list. -/
def ObjectList.fields (α : Type) [Resource α] : Fields :=
  [("metadata", .default (.object []), Json.Form.schema ListMetadata),
    ("items", .default (.list []), .list (Resource.schema α))]

theorem toOption_map {ε α β : Type} (change : α → β) (result : Except ε α) :
    (result.map change).toOption = result.toOption.map change := by
  cases result with
  | error fault => rfl
  | ok value => rfl

/-- A list of one text is read as what an open record makes of the text. -/
theorem givesFor_single {text : Spaced Spelling} {schema : Schema} (plain : schema.Plain)
    {depth : Nat} (shallow : text.it.depth < depth + 1)
    (single : ∀ value, text.it.value? = some value → value.NoRepeats) :
    GivesFor (Schema.read (depth + 2) (.list schema))
      (fun _ => (plainOutcome schema text.it).map fun normal => .list [normal])
      (.list .empty [text]) := by
  have item : ∀ spaced ∈ [text],
      GivesFor (Schema.read (depth + 1) schema) (plainOutcome schema) spaced.it := by
    rw [List.forall_mem_singleton]
    exact givesFor_plain plain single shallow
  have given := givesFor_list item .empty
  rw [List.mapM_cons] at given
  cases outcome : plainOutcome schema text.it with
  | none => simpa [outcome] using given
  | some normal => simpa [outcome] using given

theorem exists_listBody (text : Spaced Spelling) :
    ∃ items, Json.text? items = some "items" ∧ listBody (spacedText text) =
      (Spelling.object .empty [memberOf items (bare (.list .empty [text]))]).bytes := by
  obtain ⟨items, quoted, named⟩ := Json.exists_pieces "items"
  have opening : Utf8.ofString "\x7b\"items\":[" =
      0x7B :: (Utf8.encode (Json.stringText "items") ++ [0x3A, 0x5B]) := by decide
  refine ⟨items, named, ?_⟩
  rw [listBody, opening, ← quoted]
  simp [Spelling.bytes, Spelling.memberBytes, Spelling.elementBytes, memberOf, bare, Blanks.empty,
    spacedText]
  rfl

/-- A list holds what an open record makes of the text of its object. -/
theorem toOption_decode_list (text : Spaced Spelling) (shallow : text.it.depth ≤ 100)
    (single : ∀ value, text.it.value? = some value → value.NoRepeats) :
    (ObjectList.decode UntypedObject (listBody (spacedText text))).toOption =
      (plainOutcome (Resource.schema UntypedObject) text.it).map fun normal =>
        { resourceVersion := none, items := [Resource.ofNormal normal] } := by
  obtain ⟨items, named, spelled⟩ := exists_listBody text
  have field : ∀ named ∈ [memberOf items (bare (.list .empty [text]))],
      Json.Reader.IsField 127 (ObjectList.fields UntypedObject)
        (fun _ _ => (plainOutcome (Resource.schema UntypedObject) text.it).map fun normal =>
          .list [normal]) named := by
    rw [List.forall_mem_singleton]
    intro key called
    cases named.symm.trans called
    exact ⟨_, _, rfl, givesFor_nullOr (givesFor_single settled_untyped.plain (by omega) single)
      fun null => absurd null Bool.false_ne_true⟩
  have given : GivesFor (Schema.read Json.depthLimit (ObjectList.schema UntypedObject)) _
      (Spelling.object .empty [memberOf items (bare (.list .empty [text]))]) :=
    givesFor_record field .empty
  rw [ObjectList.decode, Json.Reader.decode_eq_ofDocument, spelled, toOption_map,
    Json.Reader.toOption_ofDocument given, recordOutcome, List.foldlM_cons,
    memberOutcome_of_fresh named rfl rfl]
  cases plainOutcome (Resource.schema UntypedObject) text.it with
  | none => rfl
  | some normal => rfl

/-! ## Lines -/

/-- The change of a kind that carries an object. -/
def ChangeKind.carry {α : Type} (object : α) : ChangeKind → Change α
  | .modified => .modified object
  | .deleted => .deleted object
  | _ => .added object

/-- An object on a line is checked against the schema of objects. -/
theorem Envelope.toOption_change {kind : ChangeKind} (carries : kind ∈ ChangeKind.carriers)
    (value : Value) :
    (Envelope.change UntypedObject ⟨kind.wireName, value⟩).toOption =
      (value.check (Resource.schema UntypedObject)).toOption.map fun normal =>
        kind.carry (Resource.ofNormal normal) := by
  have named : ChangeKind.ofWireName kind.wireName = kind := by cases kind <;> rfl
  simp only [ChangeKind.carriers, List.mem_cons, List.not_mem_nil, or_false] at carries
  rw [Envelope.change, named]
  rcases carries with rfl | rfl | rfl
  all_goals
    simp only [Envelope.objectOf, Resource.ofValue]
    cases value.check (Resource.schema UntypedObject) with
    | error fault => rfl
    | ok normal => rfl

theorem Change.toOption_ofLine_eq_bind {α : Type} [Resource α] (line : List UInt8) :
    (Change.ofLine α line).toOption =
      (Json.decode Envelope line).toOption.bind fun envelope => (envelope.change α).toOption := by
  rw [Change.ofLine]
  cases Json.decode Envelope line with
  | error fault => rfl
  | ok envelope => rfl

theorem exists_changeLine (kind : ChangeKind) (text : Spaced Spelling) :
    ∃ type wire object, Json.text? type = some "type" ∧ Json.text? wire = some kind.wireName ∧
      Json.text? object = some "object" ∧ changeLine kind (spacedText text) =
        (Spelling.object .empty
          [memberOf type (bare (.string wire)), memberOf object text]).bytes := by
  obtain ⟨type, quoted, named⟩ := Json.exists_pieces "type"
  obtain ⟨wire, quoted', named'⟩ := Json.exists_pieces kind.wireName
  obtain ⟨object, quoted'', named''⟩ := Json.exists_pieces "object"
  have opening : Utf8.ofString ("\x7b\"type\":\"" ++ kind.wireName ++ "\",\"object\":") =
      0x7B :: (Utf8.encode (Json.stringText "type") ++ (0x3A ::
        (Utf8.encode (Json.stringText kind.wireName) ++ (0x2C ::
          (Utf8.encode (Json.stringText "object") ++ [0x3A]))))) := by
    cases kind <;> decide
  refine ⟨type, wire, object, named, named', named'', ?_⟩
  rw [changeLine, opening, ← quoted, ← quoted', ← quoted'']
  simp [Spelling.bytes, Spelling.memberBytes, memberOf, bare, Blanks.empty, spacedText]
  rfl

/-- The envelope on a line holds what is left of the value of its object. -/
theorem toOption_decode_line (kind : ChangeKind) (text : Spaced Spelling)
    (shallow : text.it.depth ≤ 100)
    (single : ∀ value, text.it.value? = some value → value.NoRepeats) :
    (Json.decode Envelope (changeLine kind (spacedText text))).toOption =
      text.it.value?.map fun value => { name := kind.wireName, object := value.merged } := by
  obtain ⟨type, wire, object, named, named', named'', spelled⟩ := exists_changeLine kind text
  have fields : ∀ member ∈ [memberOf type (bare (.string wire)), memberOf object text],
      Json.Reader.IsField 127 Envelope.fields plainOutcome member := by
    simp only [List.forall_mem_cons]
    refine ⟨?_, ?_, nofun⟩
    -- The type is a text, and the object is read as any value.
    · intro key called
      cases named.symm.trans called
      refine ⟨_, _, rfl, givesFor_nullOr (givesFor_plain .text ?_ (Nat.succ_pos _))
        fun null => absurd null Bool.false_ne_true⟩
      intro value stood
      simp only [bare, memberOf, Spelling.value?, named'] at stood
      cases stood
      exact .string _
    · intro key called
      cases named''.symm.trans called
      have room : text.it.depth < 127 := by omega
      exact ⟨_, _, rfl, givesFor_nullOr (givesFor_plain .any single room)
        fun null => absurd null Bool.false_ne_true⟩
  have given : GivesFor (Schema.read Json.depthLimit (Json.Form.schema Envelope)) _
      (Spelling.object .empty
        [memberOf type (bare (.string wire)), memberOf object text]) :=
    Json.Reader.givesFor_record fields .empty
  rw [Json.decode, Json.Reader.decode_eq_ofDocument, spelled, toOption_map,
    Json.Reader.toOption_ofDocument given, recordOutcome, List.foldlM_cons,
    memberOutcome_of_fresh named rfl rfl, memberOf, bare, plainOutcome_text, named']
  simp only [Option.map_some, Option.bind_eq_bind, Option.bind_some]
  rw [List.foldlM_cons, memberOutcome_of_fresh named'' rfl rfl, plainOutcome_any, memberOf]
  cases text.it.value? with
  | none => rfl
  | some value => rfl

/-- What a line carries is what an open record makes of the text of the object. -/
theorem Change.toOption_ofLine {kind : ChangeKind} (carries : kind ∈ ChangeKind.carriers)
    (text : Spaced Spelling) (shallow : text.it.depth ≤ 100)
    (single : ∀ value, text.it.value? = some value → value.NoRepeats) :
    (Change.ofLine UntypedObject (changeLine kind (spacedText text))).toOption =
      (plainOutcome (Resource.schema UntypedObject) text.it).map fun normal =>
        kind.carry (Resource.ofNormal normal) := by
  rw [toOption_ofLine_eq_bind, toOption_decode_line kind text shallow single, plainOutcome,
    Option.bind_map]
  cases text.it.value? with
  | none => rfl
  | some value => exact Envelope.toOption_change carries value.merged

/-! ## Both -/

theorem ChangeKind.kind_carry {α : Type} {kind : ChangeKind} (carries : kind ∈ carriers)
    (object : α) : (kind.carry object).kind = kind ∧ (kind.carry object).object? = some object := by
  simp only [carriers, List.mem_cons, List.not_mem_nil, or_false] at carries
  rcases carries with rfl | rfl | rfl
  all_goals exact ⟨rfl, rfl⟩

theorem eq_error_of_toOption {ε α : Type} {result : Except ε α} (none : result.toOption = none) :
    ∃ fault, result = .error fault := by
  cases result with
  | error fault => exact ⟨fault, rfl⟩
  | ok value => cases none

/-- An object is decoded alike in a list and on a line that carries it: for every text of it that is
not nested too deep and repeats no name, either both fail or both give the same object, which so has
the same key. -/
theorem list_and_line_agree (before after : Blanks) (object : Spelling)
    (shallow : object.depth ≤ 100)
    (single : ∀ value, object.value? = some value → value.NoRepeats) {kind : ChangeKind}
    (carries : kind ∈ ChangeKind.carriers) :
    let text := before.bytes ++ (object.bytes ++ after.bytes)
    (∃ fault error, ObjectList.decode UntypedObject (listBody text) = .error fault ∧
      Change.ofLine UntypedObject (changeLine kind text) = .error error) ∨
    ∃ listed carried change,
      ObjectList.decode UntypedObject (listBody text) =
        .ok { resourceVersion := none, items := [listed] } ∧
      Change.ofLine UntypedObject (changeLine kind text) = .ok change ∧
      change.kind = kind ∧ change.object? = some carried ∧
      carried = listed ∧ Resource.key carried = Resource.key listed := by
  intro text
  have listed := toOption_decode_list ⟨before, object, after⟩ shallow single
  have carried := Change.toOption_ofLine carries ⟨before, object, after⟩ shallow single
  simp only [spacedText] at listed carried
  -- Both paths come to what an open record makes of the text.
  cases outcome : plainOutcome (Resource.schema UntypedObject) object with
  | none =>
    rw [outcome] at listed carried
    obtain ⟨fault, refused⟩ := eq_error_of_toOption listed
    obtain ⟨error, refused'⟩ := eq_error_of_toOption carried
    exact Or.inl ⟨fault, error, refused, refused'⟩
  | some normal =>
    rw [outcome] at listed carried
    obtain ⟨sort, holds⟩ := ChangeKind.kind_carry carries (Resource.ofNormal normal : UntypedObject)
    exact Or.inr ⟨_, _, _, Json.toOption_eq_some.mp listed, Json.toOption_eq_some.mp carried, sort,
      holds, rfl, rfl⟩

namespace Sample

/-- The pieces of a text that needs no escapes. -/
def unescaped (text : String) : List Piece :=
  (Utf8.ofString text).filterMap fun byte =>
    if stands : byte ≠ 0x22 ∧ byte ≠ 0x5C ∧ ¬ byte < 0x20 then some (.plain byte stands) else none

/-- The metadata come last, and what is undeclared repeats the names of fields deeper down. -/
def pump : Spelling :=
  .object .empty [
    memberOf (unescaped "spec") (bare (.list .empty [bare (.object .empty [
      memberOf (unescaped "metadata") (bare (.boolean true))]), bare .null])),
    memberOf (unescaped "metadata") (bare (.object .empty [
      memberOf (unescaped "uid") (bare (.string [.short 0x74 0x09 rfl])),
      memberOf (unescaped "name") (bare (.string (unescaped "pump")))]))]

theorem value?_pump : pump.value? = some (.object [
    ("spec", .list [.object [("metadata", .boolean true)], .null]),
    ("metadata", .object [("uid", .string "\t"), ("name", .string "pump")])]) := by
  decide +kernel

/-- That object is decoded, and as the same, in a list and on the line of a change. -/
theorem pump_in_list_and_on_line :
    ∃ object : UntypedObject, Resource.key object = ⟨none, "pump"⟩ ∧
      ObjectList.decode UntypedObject (listBody pump.bytes) =
        .ok { resourceVersion := none, items := [object] } ∧
      ∃ change, Change.ofLine UntypedObject (changeLine .modified pump.bytes) = .ok change ∧
        change.kind = .modified ∧ change.object? = some object := by
  have single : ∀ value, pump.value? = some value → value.NoRepeats := by
    rw [value?_pump]
    rintro _ ⟨⟩
    refine .object (by decide) ?_
    simp only [List.forall_mem_cons]
    refine ⟨.list ?_, .object (by decide) ?_, nofun⟩
    · simp only [List.forall_mem_cons]
      exact ⟨.object (by decide) (by simpa using .boolean true), .null, nofun⟩
    · simp only [List.forall_mem_cons]
      exact ⟨.string _, .string _, nofun⟩
  have carries : ChangeKind.modified ∈ ChangeKind.carriers := by decide
  have text : pump.bytes = Blanks.empty.bytes ++ (pump.bytes ++ Blanks.empty.bytes) := by
    simp [Blanks.empty]
  have key : (ObjectList.decode UntypedObject (listBody pump.bytes)).toOption.map
      (fun list => list.items.map Resource.key) = some [⟨none, "pump"⟩] := by decide +kernel
  rcases list_and_line_agree .empty .empty pump (by decide) single carries with
    ⟨_, _, refused, -⟩ | ⟨_, object, change, decoded, carried, sort, holds, rfl, -⟩
  · rw [text, refused] at key
    cases key
  · rw [← text] at decoded carried
    have named : Resource.key object = ⟨none, "pump"⟩ := by
      rw [decoded] at key
      simpa [Except.toOption] using key
    exact ⟨object, named, decoded, change, carried, sort, holds⟩

end Sample

end ListWatch
