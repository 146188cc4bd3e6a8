import ListWatch.Synchronizer.Protocol

/-!
# Starting and stopping

A synchronizer has at most one run: starting it again does nothing. Stopping ends
the run wherever it waits, empties the replica, and leaves the phase stopped. The
run's own last acts come before the phase is told, so that is the last notice.
-/
namespace ListWatch

namespace Turn

variable {α : Type}

/-- The last acts of a run that is stopped. One that has not done anything still publishes that it
began. -/
def finish (turn : Turn α) (run : Run α) : Turn α :=
  let turn := match run.stage with
    | .begun => turn.publish (run.replica.setFreshness .syncing)
    | .reading url _ => turn.record (cancelledRecord url)
    | .listing _ | .opening _ | .resting => turn
  (((turn.publish .empty).log .debug "sync run finished").setRun none).log .info "sync stopped"

end Turn

namespace Synchronizer

variable {α : Type}

/-- Starts a run, unless one is active. Tells whether it was started. -/
def start (synchronizer : Synchronizer α) : Turn α × Bool :=
  let turn : Turn α := { synchronizer }
  if synchronizer.run.isSome then (turn.log .debug "sync already running", false)
  else match synchronizer.phase.move .start with
    | .error failure => (turn.warn failure, false)
    | .ok phase =>
      ((((turn.setPhase phase).emitPhase phase).setRun (some {})).log .info "sync started", true)

/-- Stops the run, if one is active. Tells whether one was. -/
def stop (synchronizer : Synchronizer α) : Turn α × Bool :=
  let turn : Turn α := { synchronizer }
  let turn := match synchronizer.run with
    | some run => turn.finish run
    | none => turn.publish .empty
  let turn := turn.setPhase .stopped
  (if synchronizer.phase = .stopped then turn else turn.emitPhase .stopped,
    synchronizer.run.isSome)

end Synchronizer

end ListWatch
