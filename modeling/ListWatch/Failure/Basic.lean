import ListWatch.Json.Form

/-!
# Failures

A failure is what observers are told: its category, a stable code, a message,
and the status of the answer it came from, if any. The phases a synchronizer
goes through and the freshness of its replica are told along with it.
-/
namespace ListWatch

inductive Category where
  | transport
  | protocol
  | api
  | auth
  | config
  | internal
  deriving DecidableEq, Repr, Inhabited

namespace Category

def all : List Category := [.transport, .protocol, .api, .auth, .config, .internal]

def name : Category → String
  | .transport => "Transport"
  | .protocol => "Protocol"
  | .api => "Api"
  | .auth => "Auth"
  | .config => "Config"
  | .internal => "Internal"

instance : Json.Form Category := Json.Form.ofNames all name .internal

/-- The category of an answer's status. -/
def ofStatus (status : Nat) : Category :=
  if status = 401 ∨ status = 403 then .auth
  else if 400 ≤ status ∧ status ≤ 599 then .api
  else .internal

end Category

structure Failure where
  category : Category
  code : String
  message : String
  status : Option Nat := none
  deriving DecidableEq, Repr, Inhabited

namespace Failure

def display (failure : Failure) : String :=
  failure.category.name ++ ":" ++ failure.code ++ ": " ++ failure.message

instance : Json.Form Failure where
  schema := .record "struct SyncFailure"
    [("category", .required, Json.Form.schema Category), ("code", .required, .text),
      ("message", .required, .text), ("status", .nullable, Json.u16)]
  ofNormal value :=
    { category := Json.Form.ofNormal (value.field "category")
      code := (value.field "code").toText
      message := (value.field "message").toText
      status := (value.field "status").toOption Json.Value.toNat }
  toValue failure :=
    .object [("category", Json.Form.toValue failure.category), ("code", .string failure.code),
      ("message", .string failure.message), ("status", .ofOption .natural failure.status)]

end Failure

/-- The protocol phase of a synchronizer. -/
inductive Phase where
  | idle
  | syncing
  | watching
  | failed
  | stopped
  deriving DecidableEq, Repr, Inhabited

namespace Phase

def all : List Phase := [.idle, .syncing, .watching, .failed, .stopped]

def name : Phase → String
  | .idle => "Idle"
  | .syncing => "Syncing"
  | .watching => "Watching"
  | .failed => "Failed"
  | .stopped => "Stopped"

instance : Json.Form Phase := Json.Form.ofNames all name .idle

end Phase

/-- How far a replica can be relied on. -/
inductive Freshness where
  | idle
  | syncing
  | synced
  deriving DecidableEq, Repr, Inhabited

namespace Freshness

def all : List Freshness := [.idle, .syncing, .synced]

def name : Freshness → String
  | .idle => "Idle"
  | .syncing => "Syncing"
  | .synced => "Synced"

instance : Json.Form Freshness := Json.Form.ofNames all name .idle

end Freshness

end ListWatch
