import ListWatch.Failure.Rejection

/-!
# Alerts for people

A rejected request makes one lasting alert. A failed synchronization makes a
warning that the next attempt supersedes.
-/
namespace ListWatch

inductive AlertLevel where
  | negative
  | warning
  deriving DecidableEq, Repr, Inhabited

namespace AlertLevel

def all : List AlertLevel := [.negative, .warning]

def name : AlertLevel → String
  | .negative => "Negative"
  | .warning => "Warning"

instance : Json.Form AlertLevel := Json.Form.ofNames all name .negative

end AlertLevel

structure Alert where
  level : AlertLevel
  message : String
  transient : Bool
  deriving DecidableEq, Repr, Inhabited

namespace Alert

def ofRejection (rejection : Rejection) : Alert :=
  { level := .negative, message := rejection.displayMessage, transient := false }

def ofFailure (collection : String) (failure : Failure) : Alert :=
  { level := .warning, message := collection ++ ": " ++ failure.message, transient := true }

instance : Json.Form Alert where
  schema := .record "struct Notification"
    [("level", .required, Json.Form.schema AlertLevel), ("message", .required, .text),
      ("transient", .required, .flag)]
  ofNormal value :=
    { level := Json.Form.ofNormal (value.field "level")
      message := (value.field "message").toText
      transient := (value.field "transient").toFlag }
  toValue alert :=
    .object [("level", Json.Form.toValue alert.level), ("message", .string alert.message),
      ("transient", .boolean alert.transient)]

end Alert

end ListWatch
