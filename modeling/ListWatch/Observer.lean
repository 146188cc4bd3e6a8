import ListWatch.Failure.Alert
import ListWatch.Json.Render
import ListWatch.Log
import ListWatch.Outlet.Basic

/-!
# Observers that log

An observer reads every notice and the newest snapshot of an outlet whenever it
has a turn, and keeps a record of each. Of notices it lost it knows the number.
-/
namespace ListWatch

open Json (Form)

variable {α : Type} [Resource α]

/-- The record of a notice. The version of an applied object is that of the snapshot held now. -/
def Notice.record (snapshot : Snapshot α) : Notice → LogRecord
  | .phaseChanged collection phase =>
    { level := .info, message := "phase changed"
      fields := [("collection", collection), ("phase", phase.name)] }
  | .resynced collection resourceVersion items =>
    { level := .info, message := "replica resynced"
      fields := [("collection", collection),
        ("resource_version", Text.quotedOption resourceVersion), ("items", toString items)] }
  | .applied collection kind key outcome =>
    let version := (snapshot.get? key).bind fun object => (Resource.metadata object).resourceVersion
    { level := .info, message := "event applied"
      fields := [("collection", collection), ("kind", kind.wireName), ("key", key.display),
        ("outcome", outcome.name), ("resource_version", version.getD "")] }
  | .anomaly collection kind key detail =>
    { level := .warn, message := detail
      fields := [("collection", collection), ("kind", kind.wireName),
        ("key", match key with
          | some key => "Some(" ++ key.description ++ ")"
          | none => "None")] }
  | .failure collection reason retryInMs =>
    let alert := Alert.ofFailure collection reason
    { level := .error, message := alert.message
      fields := [("code", reason.code), ("level", alert.level.name),
        ("retry_in_ms", toString retryInMs)] }

def laggedRecord (skipped : Nat) : LogRecord :=
  { level := .warn, message := "event observer lagged", fields := [("skipped", toString skipped)] }

def Replica.record (snapshot : Snapshot α) : LogRecord :=
  { level := .debug, message := "replica updated"
    fields := [("state", snapshot.freshness.name),
      ("resource_version", snapshot.resourceVersion.getD ""),
      ("keys", (Json.Value.list (snapshot.keys.map Form.toValue)).render)] }

/-- The two readers of an observer, and the records it has kept. -/
structure Observer where
  noticeReader : Nat
  snapshotReader : Nat
  notices : List LogRecord := []
  snapshots : List LogRecord := []
  deriving DecidableEq, Repr

namespace Observer

def subscribe (outlet : Outlet α) : Outlet α × Observer :=
  let (notices, noticeReader) := outlet.notices.subscribe
  let (snapshots, snapshotReader) := outlet.snapshots.subscribe
  ({ notices, snapshots }, { noticeReader, snapshotReader })

def received (snapshot : Snapshot α) : Received Notice → List LogRecord
  | .event notice => [notice.record snapshot]
  | .lagged skipped => [laggedRecord skipped]
  | .empty | .closed => []

/-- Reads everything there is to read. -/
def observe (observer : Observer) (outlet : Outlet α) : Outlet α × Observer :=
  let (notices, received) := outlet.notices.receiveAll observer.noticeReader
  let records := received.flatMap (Observer.received outlet.current)
  if outlet.snapshots.changed? observer.snapshotReader = some true then
    let (snapshots, _) := outlet.snapshots.read? observer.snapshotReader
    ({ notices, snapshots },
      { observer with
        notices := observer.notices ++ records
        snapshots := observer.snapshots ++ [Replica.record outlet.current] })
  else
    ({ outlet with notices }, { observer with notices := observer.notices ++ records })

end Observer

end ListWatch
