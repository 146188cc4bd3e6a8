import ListWatch.Event.Kind
import ListWatch.Replica

/-!
# Notices to observers

What a synchronizer tells its observers while it runs: a new phase, a fresh
list, a change applied, a change that contradicts the replica, or a failure and
the time until the next attempt.
-/
namespace ListWatch

open Json (Value Schema Form)

inductive Notice where
  | phaseChanged (collection : String) (phase : Phase)
  | resynced (collection : String) (resourceVersion : Option String) (items : Nat)
  | applied (collection : String) (kind : ChangeKind) (key : Key) (outcome : Outcome)
  | anomaly (collection : String) (kind : ChangeKind) (key : Option Key) (detail : String)
  | failure (collection : String) (reason : Failure) (retryInMs : Nat)
  deriving DecidableEq, Repr, Inhabited

namespace Notice

def payload (name : String) (fields : Json.Fields) : String × Option Schema :=
  (name, some (.record ("struct variant SyncEvent::" ++ name) fields))

def variants : List (String × Option Schema) :=
  [payload "PhaseChanged" [("collection", .required, .text), ("phase", .required, Form.schema Phase)],
    payload "Resynced"
      [("collection", .required, .text), ("resource_version", .nullable, .text),
        ("items", .required, Json.usize)],
    payload "Applied"
      [("collection", .required, .text), ("kind", .required, Form.schema ChangeKind),
        ("key", .required, Form.schema Key), ("outcome", .required, Form.schema Outcome)],
    payload "Anomaly"
      [("collection", .required, .text), ("kind", .required, Form.schema ChangeKind),
        ("key", .nullable, Form.schema Key), ("detail", .required, .text)],
    payload "Failure"
      [("collection", .required, .text), ("failure", .required, Form.schema Failure),
        ("retry_in_ms", .required, Json.u64)]]

def ofPayload (name : String) (value : Value) : Notice :=
  let collection := (value.field "collection").toText
  if name = "PhaseChanged" then .phaseChanged collection (Form.ofNormal (value.field "phase"))
  else if name = "Resynced" then
    .resynced collection ((value.field "resource_version").toOption Value.toText)
      (value.field "items").toNat
  else if name = "Applied" then
    .applied collection (Form.ofNormal (value.field "kind")) (Form.ofNormal (value.field "key"))
      (Form.ofNormal (value.field "outcome"))
  else if name = "Anomaly" then
    .anomaly collection (Form.ofNormal (value.field "kind"))
      ((value.field "key").toOption Form.ofNormal) (value.field "detail").toText
  else
    .failure collection (Form.ofNormal (value.field "failure")) (value.field "retry_in_ms").toNat

def ofNormal (value : Value) : Notice :=
  match value.toMembers with
  | (name, inner) :: _ => ofPayload name inner
  | [] => ofPayload "" .null

def toValue : Notice → Value
  | .phaseChanged collection phase =>
    .object [("PhaseChanged",
      .object [("collection", .string collection), ("phase", Form.toValue phase)])]
  | .resynced collection resourceVersion items =>
    .object [("Resynced",
      .object [("collection", .string collection),
        ("resource_version", .ofOption .string resourceVersion), ("items", .natural items)])]
  | .applied collection kind key outcome =>
    .object [("Applied",
      .object [("collection", .string collection), ("kind", Form.toValue kind),
        ("key", Form.toValue key), ("outcome", Form.toValue outcome)])]
  | .anomaly collection kind key detail =>
    .object [("Anomaly",
      .object [("collection", .string collection), ("kind", Form.toValue kind),
        ("key", .ofOption Form.toValue key), ("detail", .string detail)])]
  | .failure collection reason retryInMs =>
    .object [("Failure",
      .object [("collection", .string collection), ("failure", Form.toValue reason),
        ("retry_in_ms", .natural retryInMs)])]

instance : Form Notice where
  schema := .choice variants
  ofNormal := ofNormal
  toValue := toValue

end Notice

end ListWatch
