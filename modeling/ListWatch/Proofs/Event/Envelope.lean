import ListWatch.Proofs.Event.Noise
import ListWatch.Proofs.Json.Records

/-!
# Lines of other kinds

A line that is an object with a single string member type, and at most one member object, is read
as an envelope whatever else it holds. Where the type is none of the three that carry an object of
the resource, it decodes to a change that leaves every replica alone.
-/
namespace ListWatch

open Json (Members Fields)

/-- The fields of an envelope. -/
def Envelope.fields : Fields := [("type", .required, .text), ("object", .default .null, .any)]

/-- An envelope is read from its one type and its object, if it has one. -/
theorem decode_envelope {bytes : List UInt8} {members : Members} {name : String}
    (document : Json.documentMembers bytes = .ok members)
    (typed : Json.valuesOf "type" members = [.string name])
    (single : (Json.valuesOf "object" members).length ≤ 1) :
    Json.decode Envelope bytes =
      .ok { name, object := (Json.valuesOf "object" members).head?.getD .null } := by
  have fits : ∀ key presence schema, Envelope.fields.find? key = some (presence, schema) →
      (Json.valuesOf key members).length ≤ 1 ∧ ∀ value ∈ Json.valuesOf key members,
        Json.Reader.Fits (Json.depthLimit - 1) presence schema value := by
    intro key presence schema known
    by_cases type : "type" = key
    · subst type
      cases known
      rw [typed]
      exact ⟨Nat.le_refl 1, by simpa using Json.Reader.fits_text rfl⟩
    · by_cases object : "object" = key
      · subst object
        cases known
        exact ⟨single, fun value _ => Json.Reader.fits_any rfl⟩
      · simp [Envelope.fields, Fields.find?, type, object] at known
  have complete : Envelope.fields.complete members = .ok [("type", .string name),
      ("object", (Json.valuesOf "object" members).head?.getD .null)] := by
    cases held : (Json.valuesOf "object" members).head? <;>
      simp [Envelope.fields, Fields.complete, Json.member?_eq_head?, typed, held,
        Json.Presence.absent?, Json.Presence.member, Except.map]
  have read : (Json.Form.schema Envelope).decode bytes = _ :=
    Json.decode_record document fits complete
  rw [Json.decode, read]
  simp [Except.map, Json.Form.ofNormal, Json.Value.field, Json.member?, Json.Value.toText]

/-- The kinds that carry an object of the resource. -/
def ChangeKind.carriers : List ChangeKind := [.added, .modified, .deleted]

theorem ChangeKind.wireName_ofWireName {wire : String} {kind : ChangeKind}
    (named : ofWireName wire = kind) (known : kind ≠ .unknown) : kind.wireName = wire := by
  rw [ofWireName] at named
  cases found : all.find? fun kind => decide (kind.wireName = wire) with
  | none =>
    rw [found] at named
    exact absurd named.symm known
  | some other =>
    rw [found] at named
    cases named
    simpa using List.find?_some found

/-- A line of another kind decodes to a change that leaves every replica alone. -/
theorem Change.ofLine_idle {α : Type} [Resource α] {text : List UInt8} {members : Members}
    {name : String} (document : Json.documentMembers text = .ok members)
    (typed : Json.valuesOf "type" members = [.string name])
    (single : (Json.valuesOf "object" members).length ≤ 1)
    (other : name ∉ ChangeKind.carriers.map ChangeKind.wireName) :
    ∃ change, Change.ofLine α text = .ok change ∧ ∀ replica, change.Idle replica := by
  have carrier (kind : ChangeKind) (carries : kind ∈ ChangeKind.carriers) :
      ChangeKind.ofWireName name ≠ kind := by
    intro named
    have known : kind ≠ .unknown := by
      rintro rfl
      simp [ChangeKind.carriers] at carries
    exact other (List.mem_map.mpr ⟨kind, carries, ChangeKind.wireName_ofWireName named known⟩)
  rw [Change.ofLine, decode_envelope document typed single]
  simp only [Envelope.change]
  cases named : ChangeKind.ofWireName name with
  | added | modified | deleted => exact absurd named (carrier _ (by simp [ChangeKind.carriers]))
  | bookmark => exact ⟨_, rfl, fun _ => trivial⟩
  | error =>
    simp only
    split
    · exact ⟨_, rfl, fun _ => trivial⟩
    · exact ⟨_, rfl, fun _ => trivial⟩
  | unknown => exact ⟨_, rfl, fun _ => trivial⟩

end ListWatch
