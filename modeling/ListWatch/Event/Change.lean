import ListWatch.Event.Kind
import ListWatch.Failure.Basic
import ListWatch.Resource.Basic

/-!
# Changes and the lines that carry them

A line of a watch stream is an envelope that names the kind of the change and
carries an object. Added, modified and deleted objects must be of the resource
type. A bookmark takes a version where it finds one, an error takes a status
where it finds one, and every other kind is passed on by its name, whatever the
object.
-/
namespace ListWatch

open Json (Value Form)

/-- The status that an error line carries. -/
structure ErrorStatus where
  message : Option String := none
  reason : Option String := none
  code : Option Nat := none
  deriving DecidableEq, Repr, Inhabited

instance : Form ErrorStatus where
  schema := .record "struct WatchStatus"
    [("message", .optional, .text), ("reason", .optional, .text), ("code", .optional, Json.u16)]
  ofNormal value :=
    { message := (value.field "message").toOption Value.toText
      reason := (value.field "reason").toOption Value.toText
      code := (value.field "code").toOption Value.toNat }
  toValue status :=
    .object [("message", .ofOption .string status.message),
      ("reason", .ofOption .string status.reason), ("code", .ofOption .natural status.code)]

inductive Change (α : Type) where
  | added (object : α)
  | modified (object : α)
  | deleted (object : α)
  | bookmark (resourceVersion : Option String)
  | error (status : ErrorStatus)
  | unknown (name : String)
  deriving DecidableEq, Repr

namespace Change

variable {α : Type}

def kind : Change α → ChangeKind
  | .added _ => .added
  | .modified _ => .modified
  | .deleted _ => .deleted
  | .bookmark _ => .bookmark
  | .error _ => .error
  | .unknown _ => .unknown

def object? : Change α → Option α
  | .added object | .modified object | .deleted object => some object
  | .bookmark _ | .error _ | .unknown _ => none

end Change

inductive LineError where
  | envelope (line : String) (fault : Json.Fault)
  | object (kind : ChangeKind) (fault : Json.Fault)
  deriving DecidableEq, Repr

namespace LineError

def source : LineError → Json.Fault
  | .envelope _ fault | .object _ fault => fault

def message : LineError → String
  | .envelope line fault => "invalid watch event line '" ++ line ++ "': " ++ fault.message
  | .object kind fault => "invalid " ++ kind.name ++ " event object: " ++ fault.message

def toFailure (error : LineError) : Failure :=
  { category := .protocol, code := "watch_decode_error", message := error.message }

end LineError

structure Envelope where
  name : String
  object : Value
  deriving DecidableEq, Repr

instance : Form Envelope where
  schema := .record "struct RawEvent" [("type", .required, .text), ("object", .default .null, .any)]
  ofNormal value := { name := (value.field "type").toText, object := value.field "object" }
  toValue envelope := .object [("type", .string envelope.name), ("object", envelope.object)]

namespace Envelope

variable (α : Type) [Resource α]

def objectOf (envelope : Envelope) (kind : ChangeKind) : Except LineError α :=
  (Resource.ofValue α envelope.object).mapError (.object kind)

def change (envelope : Envelope) : Except LineError (Change α) :=
  match ChangeKind.ofWireName envelope.name with
  | .added => (envelope.objectOf α .added).map .added
  | .modified => (envelope.objectOf α .modified).map .modified
  | .deleted => (envelope.objectOf α .deleted).map .deleted
  | .bookmark =>
    .ok (.bookmark ((envelope.object.at? ["metadata", "resourceVersion"]).bind Value.string?))
  | .error =>
    match Json.ofValue ErrorStatus envelope.object with
    | .ok status => .ok (.error status)
    | .error _ => .ok (.error {})
  | .unknown => .ok (.unknown envelope.name)

end Envelope

/-- The change that one line carries, without its line feed. -/
def Change.ofLine (α : Type) [Resource α] (line : List UInt8) : Except LineError (Change α) :=
  match Json.decode Envelope line with
  | .error fault => .error (.envelope (Utf8.lossy line) fault)
  | .ok envelope => envelope.change α

end ListWatch
