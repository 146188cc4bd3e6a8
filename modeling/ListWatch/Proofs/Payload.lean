import ListWatch.Event.Change
import ListWatch.Event.Notice
import ListWatch.Failure.Alert
import ListWatch.Proofs.Json.Closed
import ListWatch.Resource.List

/-!
# What observers are sent

Observers are sent notices, with the failures and keys in them, and are shown alerts. Each of these,
and each enumeration in them, is written as a document of its type that means the value it was
written for. So what is written is read back as the same value and tells it from every other.
-/
namespace ListWatch

open Json (Faithful Form Presence Schema Value faithful_ofNames toOption_ofOption)

variable {height : Nat}

/-! ## Enumerations -/

theorem Category.faithful (category : Category) : Faithful height category :=
  faithful_ofNames (by decide) (by cases category <;> decide)

theorem Phase.faithful (phase : Phase) : Faithful height phase :=
  faithful_ofNames (by decide) (by cases phase <;> decide)

theorem Freshness.faithful (freshness : Freshness) : Faithful height freshness :=
  faithful_ofNames (by decide) (by cases freshness <;> decide)

theorem ChangeKind.faithful (kind : ChangeKind) : Faithful height kind :=
  faithful_ofNames (by decide) (by cases kind <;> decide)

theorem Outcome.faithful (outcome : Outcome) : Faithful height outcome :=
  faithful_ofNames (by decide) (by cases outcome <;> decide)

theorem AlertLevel.faithful (level : AlertLevel) : Faithful height level :=
  faithful_ofNames (by decide) (by cases level <;> decide)

/-! ## Fields -/

variable {presence : Presence}

theorem admits_text (text : String) : Schema.text.Admits height presence (.string text) :=
  Schema.Holds.admits (.text text)

theorem admits_text? (optional : presence.acceptsNull = true) (text : Option String) :
    Schema.text.Admits height presence (.ofOption .string text) :=
  .ofOption optional fun text _ => .text text

theorem admits_word {label : String} {n : Nat} (fits : n < UInt64.size) :
    (Schema.word label (UInt64.size - 1)).Admits height presence (.natural n) :=
  Schema.Holds.admits (.word (Nat.le_sub_one_of_lt fits) fits)

theorem admits_u16? (optional : presence.acceptsNull = true) {n : Option Nat}
    (fits : ∀ code ∈ n, code < UInt16.size) :
    Json.u16.Admits height presence (.ofOption .natural n) := by
  refine .ofOption optional fun code held => ?_
  have below := fits code held
  exact .word (Nat.le_sub_one_of_lt below) (Nat.lt_trans below (by decide))

theorem toOption_text (text : Option String) :
    (Value.ofOption .string text).toOption Value.toText = text :=
  toOption_ofOption (fun _ _ => Value.noConfusion) fun _ _ => rfl

theorem toOption_natural (n : Option Nat) :
    (Value.ofOption .natural n).toOption Value.toNat = n :=
  toOption_ofOption (fun _ _ => Value.noConfusion) fun _ _ => rfl

/-! ## Records -/

theorem Key.faithful (key : Key) : Faithful (height + 1) key where
  holds := by
    refine .of_fields [.ofOption .string key.scope, .string key.name] (by decide) ?_
    exact .cons (admits_text? rfl key.scope) (.cons (admits_text key.name) .nil)
  means := by
    have read : Form.ofNormal (Form.toValue key) =
        { key with scope := (Value.ofOption .string key.scope).toOption Value.toText } := rfl
    rw [read, toOption_text]

theorem ListMetadata.faithful (metadata : ListMetadata) : Faithful (height + 1) metadata where
  holds := by
    -- The version is the only field, so nothing follows what is written for it, if anything is.
    have fields : Form.toValue metadata = .object (Json.Fields.written
        [("resourceVersion", .omissible, .text)] [.ofOption .string metadata.resourceVersion]) :=
      congrArg Value.object (List.append_nil _).symm
    rw [fields]
    exact .of_fields _ (by decide) (.cons (admits_text? rfl metadata.resourceVersion) .nil)
  means := by
    obtain ⟨version⟩ := metadata
    cases version with
    | none => rfl
    | some version => rfl

/-- The code is a word of sixteen bits. -/
def ErrorStatus.Fits (status : ErrorStatus) : Prop := ∀ code ∈ status.code, code < UInt16.size

theorem ErrorStatus.faithful {status : ErrorStatus} (fits : status.Fits) :
    Faithful (height + 1) status where
  holds := by
    refine .of_fields [.ofOption .string status.message, .ofOption .string status.reason,
      .ofOption .natural status.code] (by decide) ?_
    exact .cons (admits_text? rfl status.message) (.cons (admits_text? rfl status.reason)
      (.cons (admits_u16? rfl fits) .nil))
  means := by
    have read : Form.ofNormal (Form.toValue status) =
        ({ message := (Value.ofOption .string status.message).toOption Value.toText
           reason := (Value.ofOption .string status.reason).toOption Value.toText
           code := (Value.ofOption .natural status.code).toOption Value.toNat } : ErrorStatus) :=
      rfl
    rw [read, toOption_text, toOption_text, toOption_natural]

/-- The status is a word of sixteen bits. -/
def Failure.Fits (failure : Failure) : Prop := ∀ status ∈ failure.status, status < UInt16.size

theorem Failure.faithful {failure : Failure} (fits : failure.Fits) :
    Faithful (height + 1) failure where
  holds := by
    refine .of_fields [Form.toValue failure.category, .string failure.code,
      .string failure.message, .ofOption .natural failure.status] (by decide) ?_
    exact .cons failure.category.faithful.holds.admits (.cons (admits_text failure.code)
      (.cons (admits_text failure.message) (.cons (admits_u16? rfl fits) .nil)))
  means := by
    have category : Faithful 0 failure.category := failure.category.faithful
    have read : Form.ofNormal (Form.toValue failure) =
        { failure with
          category := Form.ofNormal (Form.toValue failure.category)
          status := (Value.ofOption .natural failure.status).toOption Value.toNat } := rfl
    rw [read, category.means, toOption_natural]

theorem Alert.faithful (alert : Alert) : Faithful (height + 1) alert where
  holds := by
    refine .of_fields [Form.toValue alert.level, .string alert.message,
      .boolean alert.transient] (by decide) ?_
    exact .cons alert.level.faithful.holds.admits (.cons (admits_text alert.message)
      (.cons (Schema.Holds.admits (.flag alert.transient)) .nil))
  means := by
    have level : Faithful 0 alert.level := alert.level.faithful
    have read : Form.ofNormal (Form.toValue alert) =
        { alert with level := Form.ofNormal (Form.toValue alert.level) } := rfl
    rw [read, level.means]

/-! ## Notices -/

/-- The numbers of a notice are words of their sizes. -/
def Notice.Fits : Notice → Prop
  | .resynced _ _ items => items < UInt64.size
  | .failure _ reason retryInMs => reason.Fits ∧ retryInMs < UInt64.size
  | .phaseChanged .. | .applied .. | .anomaly .. => True

/-- A notice is written as its name with the record of its fields. -/
theorem Notice.holds {notice : Notice} (fits : notice.Fits) :
    (Form.schema Notice).Holds (height + 3) (Form.toValue notice) := by
  cases notice with
  | phaseChanged collection phase =>
    refine .payload rfl (.of_fields [.string collection, Form.toValue phase] (by decide) ?_)
    exact .cons (admits_text collection) (.cons phase.faithful.holds.admits .nil)
  | resynced collection resourceVersion items =>
    refine .payload rfl (.of_fields [.string collection, .ofOption .string resourceVersion,
      .natural items] (by decide) ?_)
    exact .cons (admits_text collection) (.cons (admits_text? rfl resourceVersion)
      (.cons (admits_word fits) .nil))
  | applied collection kind key outcome =>
    refine .payload rfl (.of_fields [.string collection, Form.toValue kind, Form.toValue key,
      Form.toValue outcome] (by decide) ?_)
    exact .cons (admits_text collection) (.cons kind.faithful.holds.admits
      (.cons key.faithful.holds.admits (.cons outcome.faithful.holds.admits .nil)))
  | anomaly collection kind key detail =>
    refine .payload rfl (.of_fields [.string collection, Form.toValue kind,
      .ofOption Form.toValue key, .string detail] (by decide) ?_)
    have keyed : (Form.schema Key).Admits (height + 1) .nullable (.ofOption Form.toValue key) :=
      .ofOption rfl fun key _ => key.faithful.holds
    exact .cons (admits_text collection) (.cons kind.faithful.holds.admits
      (.cons keyed (.cons (admits_text detail) .nil)))
  | failure collection reason retryInMs =>
    refine .payload rfl (.of_fields [.string collection, Form.toValue reason,
      .natural retryInMs] (by decide) ?_)
    exact .cons (admits_text collection) (.cons (Failure.faithful fits.1).holds.admits
      (.cons (admits_word fits.2) .nil))

theorem Notice.means {notice : Notice} (fits : notice.Fits) :
    Form.ofNormal (Form.toValue notice) = notice := by
  cases notice with
  | phaseChanged collection phase =>
    have known : Faithful 0 phase := phase.faithful
    exact congrArg (Notice.phaseChanged collection) known.means
  | resynced collection resourceVersion items =>
    exact congrArg (Notice.resynced collection · items) (toOption_text resourceVersion)
  | applied collection kind key outcome =>
    have known : Faithful 0 kind := kind.faithful
    have keyed : Faithful 1 key := key.faithful
    have done : Faithful 0 outcome := outcome.faithful
    have read : Form.ofNormal (Form.toValue (applied collection kind key outcome)) =
      applied collection (Form.ofNormal (Form.toValue kind)) (Form.ofNormal (Form.toValue key))
        (Form.ofNormal (Form.toValue outcome)) := rfl
    rw [read, known.means, keyed.means, done.means]
  | anomaly collection kind key detail =>
    -- A missing key is written as null, and no key that is there is.
    have known : Faithful 0 kind := kind.faithful
    have keyed (key : Key) : Faithful 1 key := key.faithful
    have read : Form.ofNormal (Form.toValue (anomaly collection kind key detail)) =
      anomaly collection (Form.ofNormal (Form.toValue kind))
        ((Value.ofOption Form.toValue key).toOption Form.ofNormal) detail := rfl
    rw [read, known.means, toOption_ofOption (fun key _ => (keyed key).holds.ne_null)
      fun key _ => (keyed key).means]
  | failure collection reason retryInMs =>
    have told : Faithful 1 reason := Failure.faithful fits.1
    exact congrArg (Notice.failure collection · retryInMs) told.means

theorem Notice.faithful {notice : Notice} (fits : notice.Fits) : Faithful (height + 3) notice :=
  ⟨holds fits, means fits⟩

/-! ## The wire -/

/-- The text written for a value. -/
def wireText {α : Type} [Form α] (value : α) : String := (Form.toValue value).render

/-- The values are read back from the texts written for them, and are told apart by those. -/
structure SurvivesWire (α : Type) [Form α] (fits : α → Prop) : Prop where
  decode_wireText : ∀ value, fits value →
    Json.decode α (Utf8.ofString (wireText value)) = .ok value
  wireText_injective : ∀ first second, fits first → fits second →
    wireText first = wireText second → first = second

theorem survivesWire_of_faithful {α : Type} [Form α] {fits : α → Prop}
    (faithful : ∀ value, fits value → Faithful 3 value) : SurvivesWire α fits where
  decode_wireText value within := (faithful value within).decode (by decide)
  wireText_injective first second fits_first fits_second same := by
    -- Both values are read back from the one text.
    have back := (faithful first fits_first).decode (by decide)
    have back' := (faithful second fits_second).decode (by decide)
    rw [wireText, wireText] at same
    rw [same, back'] at back
    exact (Except.ok.inj back).symm

/-- Every notice, failure, key, metadata of a list, error status and alert survives the wire, and
so does every enumeration that they hold. -/
theorem payloads_survive_wire :
    SurvivesWire Notice Notice.Fits ∧ SurvivesWire Failure Failure.Fits ∧
    SurvivesWire Key (fun _ => True) ∧ SurvivesWire ListMetadata (fun _ => True) ∧
    SurvivesWire ErrorStatus ErrorStatus.Fits ∧ SurvivesWire Alert (fun _ => True) ∧
    SurvivesWire ChangeKind (fun _ => True) ∧ SurvivesWire Phase (fun _ => True) ∧
    SurvivesWire Freshness (fun _ => True) ∧ SurvivesWire Outcome (fun _ => True) ∧
    SurvivesWire Category (fun _ => True) ∧ SurvivesWire AlertLevel (fun _ => True) :=
  ⟨survivesWire_of_faithful fun _ => Notice.faithful,
    survivesWire_of_faithful fun _ => Failure.faithful,
    survivesWire_of_faithful fun key _ => key.faithful,
    survivesWire_of_faithful fun metadata _ => metadata.faithful,
    survivesWire_of_faithful fun _ => ErrorStatus.faithful,
    survivesWire_of_faithful fun alert _ => alert.faithful,
    survivesWire_of_faithful fun kind _ => kind.faithful,
    survivesWire_of_faithful fun phase _ => phase.faithful,
    survivesWire_of_faithful fun freshness _ => freshness.faithful,
    survivesWire_of_faithful fun outcome _ => outcome.faithful,
    survivesWire_of_faithful fun category _ => category.faithful,
    survivesWire_of_faithful fun level _ => level.faithful⟩

namespace Sample

/-- A failure whose texts need escapes and whose numbers are the greatest of their sizes. -/
def notice : Notice :=
  .failure "pods"
    { category := .protocol, code := "", message := "\x00\n\"é\\", status := some 65535 }
    18446744073709551615

theorem notice_survives_wire :
    notice.Fits ∧
    wireText notice = "\x7b\"Failure\":\x7b\"collection\":\"pods\",\"failure\":"
      ++ "\x7b\"category\":\"Protocol\",\"code\":\"\",\"message\":\"\\u0000\\n\\\"é\\\\\","
      ++ "\"status\":65535\x7d,\"retry_in_ms\":18446744073709551615\x7d\x7d" ∧
    Json.decode Notice (Utf8.ofString (wireText notice)) = .ok notice := by
  have fits : notice.Fits := by
    refine ⟨fun status held => ?_, by decide⟩
    cases held
    decide
  exact ⟨fits, by decide +kernel, payloads_survive_wire.1.decode_wireText notice fits⟩

end Sample

end ListWatch
