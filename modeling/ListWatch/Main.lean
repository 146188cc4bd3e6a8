import ListWatch.Rehearsal.Observed
import ListWatch.Settings

/-!
# The command

The command takes its settings from the environment and refuses to start without
them. It has no network, so it rehearses: it starts a synchronizer whose requests
nobody answers, lets one deadline of a list pass on a virtual clock, stops, and
prints what was logged.
-/
namespace ListWatch.Command

open Rehearsal (World Observed)

def line (record : LogRecord) : String :=
  " ".intercalate (record.level.name :: record.message ::
    record.fields.map fun field => field.1 ++ "=" ++ field.2)

def startingRecord (settings : Settings) : LogRecord :=
  { level := .info, message := "starting replica smoke"
    fields := [("server", settings.server.render), ("collection", settings.client.path)] }

def stoppedRecord : LogRecord := { level := .info, message := "replica smoke stopped" }

/-- What a rehearsal with the settings logs. -/
def rehearse (settings : Settings) : List LogRecord :=
  let world : World Unit :=
    { server := .webOnly, credential := settings.credential
      stores := { server := settings.server, options := settings.options } }
  match world.stores.register settings.collection settings.scope () with
  | .error _ => []
  | .ok (stores, path) =>
    match Observed.ofWorld { world with stores } path with
    | none => []
    | some observed =>
      let deadline := (settings.client.withListTimeout settings.listTimeoutSeconds).listDeadline
      let watched := observed.start.sleep (deadline + 1)
      let stopped := (watched.world.stop path).1
      startingRecord settings :: stopped.records
        ++ watched.observer.notices ++ watched.observer.snapshots ++ [stoppedRecord]

end ListWatch.Command

def main : IO UInt32 := do
  let values ← ListWatch.Settings.keys.mapM fun key => return (key, ← IO.getEnv key)
  match ListWatch.Settings.read fun key => (values.lookup key).join with
  | .error error =>
    IO.eprintln ("Invalid configuration: " ++ error.message)
    return 2
  | .ok settings =>
    for record in ListWatch.Command.rehearse settings do
      IO.println (ListWatch.Command.line record)
    return 0
