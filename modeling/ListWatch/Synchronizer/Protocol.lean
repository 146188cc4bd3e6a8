import ListWatch.Synchronizer.Basic

/-!
# The protocol of a run

A run lists the collection, watches it from the version of that list, and applies
each change to its replica. Every failure, the end of the stream included, puts
it to rest for a delay, after which it lists again. The number of failures starts
over when a list has come in between. What was held stays published while the run
rests, but no longer counts as synced.

A run does nothing by itself but take its first turn and take the lines it holds;
everything else answers a signal. Of a signal that it does not wait for it knows
nothing.
-/
namespace ListWatch

/-- What a run may be given. -/
inductive Signal where
  /-- Leave to go on: to begin, or to take the next line held. -/
  | proceed
  | answered (answer : Except TransportError Response)
  | opened (answer : Except TransportError StreamHead)
  | body (item : BodyItem)
  /-- The time that the stage asked for has passed. -/
  | elapsed

namespace Turn

variable {α : Type} [Resource α]

/-- One more failure, up to the largest count. -/
def nextAttempt (attempt : UInt32) : UInt32 :=
  if attempt.toNat + 1 < UInt32.size then attempt + 1 else attempt

/-- Puts a run to rest after a failure. -/
def fail (turn : Turn α) (run : Run α) (failure : Failure) : Turn α :=
  -- Failures are counted anew once a list has come since the last of them.
  let attempt := if run.replica.freshness = .synced then 0 else run.attempt
  let delay := (turn.synchronizer.options.backoff.delay attempt).toNat
  let replica := run.replica.setFreshness .syncing
  ((((turn.move .failed).publish replica).log .warn ("sync failed: " ++ failure.message)
        [("code", failure.code), ("retry_in_ms", toString delay)]).emit
      (.failure turn.collection failure delay)).setRun
    (some { replica, attempt := nextAttempt attempt, stage := .resting }) |>.wait delay

/-- Asks for the list. -/
def list (turn : Turn α) (credential : Credential) (run : Run α) : Turn α :=
  let replica := run.replica.setFreshness .syncing
  let turn := turn.publish replica
  match turn.synchronizer.client.request credential (.list : Call α) with
  | .error error => turn.fail { run with replica } error.toFailure
  | .ok request =>
    (((turn.record request.sendRecord).setRun (some { run with replica, stage := .listing request })
      ).send .whole request).wait turn.synchronizer.client.listDeadline

/-- Opens the watch that starts where the list ended. -/
def watch (turn : Turn α) (credential : Credential) (run : Run α) : Turn α :=
  let client := turn.synchronizer.client
  match client.watchRequest credential run.replica.resourceVersion with
  | .error error => turn.fail run error.toFailure
  | .ok request =>
    ((turn.record request.openRecord).setRun (some { run with stage := .opening request })
      ).send .stream request

/-- Takes over a list and goes on to watch. -/
def listed (turn : Turn α) (credential : Credential) (run : Run α) (list : ObjectList α) :
    Turn α :=
  let run := { run with replica := run.replica.replaceAll list }
  let items := list.items.length
  let turn :=
    ((turn.log .info "collection listed"
        [("resource_version", list.resourceVersion.getD ""), ("items", toString items)]
      ).publish run.replica).emit (.resynced turn.collection list.resourceVersion items)
  -- The list is published and told even where the phase refuses the move.
  match turn.synchronizer.phase.move .listed with
  | .error failure => turn.fail run failure
  | .ok phase => ((turn.setPhase phase).emitPhase phase).watch credential run

def answered (turn : Turn α) (credential : Credential) (run : Run α) (request : Request)
    (answer : Except TransportError Response) : Turn α :=
  let records := match answer with
    | .ok response => response.records
    | .error _ => []
  let turn := records.foldl record turn
  match request.conclude (ObjectList.decode α) answer with
  | .error error => turn.fail run error.toFailure
  | .ok list => turn.listed credential run list

def opened (turn : Turn α) (run : Run α) (request : Request)
    (answer : Except TransportError StreamHead) : Turn α :=
  match openingError? request.url.render answer with
  | some error => turn.fail run error.toFailure
  | none => turn.setRun (some { run with stage := .reading request.url.render {} })

/-! ## Changes -/

def notHeld : String := "modified object is not in the replica"

/-- Logs the changes that carry no object and are no bookmark. -/
def remark (turn : Turn α) : Change α → Turn α
  | .error status =>
    turn.log .warn "watch reported an error event"
      [("code", match status.code with
          | some code => "Some(" ++ toString code ++ ")"
          | none => "None"),
        ("reason", Text.quotedOption status.reason),
        ("message", Text.quotedOption status.message)]
  | .unknown name => turn.log .warn "ignoring unknown watch event" [("event_type", name)]
  | .added _ | .modified _ | .deleted _ | .bookmark _ => turn

/-- Tells observers what applying a change has done to the replica. -/
def announce (turn : Turn α) (replica : Replica α) (kind : ChangeKind) (key : Option Key)
    (outcome : Outcome) : Turn α :=
  if outcome = .missingKey then
    (turn.log .warn notHeld [("key", (key.map Key.display).getD "")]).emit
      (.anomaly turn.collection kind key notHeld)
  else if outcome.mutated then
    match key with
    | some key => (turn.publish replica).emit (.applied turn.collection kind key outcome)
    | none => turn.publish replica
  else turn

def apply (turn : Turn α) (run : Run α) (change : Change α) : Turn α :=
  let (replica, outcome) := run.replica.apply change
  ((turn.remark change).announce replica change.kind (change.object?.map Resource.key) outcome
    ).setRun (some { run with replica })

/-- Takes one line that is held. -/
def line (turn : Turn α) (run : Run α) (url : String) :
    Except LineError (Change α) × LineDecoder → Turn α
  | (.ok change, rest) => turn.apply { run with stage := .reading url rest } change
  | (.error error, _) => turn.fail run (WatchError.line url error).toFailure

/-- The end of a watch that the server closed. -/
def closed (turn : Turn α) (run : Run α) (url : String) : Turn α :=
  (turn.record (closedRecord url)).fail run
    { category := .transport, code := "watch_closed"
      message := "watch on " ++ turn.collection ++ " closed by server" }

def body (turn : Turn α) (run : Run α) (url : String) (decoder : LineDecoder) :
    BodyItem → Turn α
  | .chunk bytes => turn.setRun (some { run with stage := .reading url (decoder.feed bytes) })
  | .failed error => turn.fail run (WatchError.stream url error).toFailure
  | .ended => turn.closed run url

/-- The turn that a signal causes, if the run waits for it. -/
def onSignal (turn : Turn α) (credential : Credential) (run : Run α) : Stage → Signal →
    Option (Turn α)
  | .begun, .proceed => some (turn.list credential run)
  | .listing request, .answered answer => some (turn.answered credential run request answer)
  -- A list that is not answered in time fails as if the server had not been reached.
  | .listing request, .elapsed =>
    some (turn.answered credential run request (.error turn.synchronizer.client.listTimedOut))
  | .opening request, .opened answer => some (turn.opened run request answer)
  | .reading url decoder, .proceed =>
    match decoder.next α with
    | (some result, rest) => some (turn.line run url (result, rest))
    | (none, _) => none
  | .reading url decoder, .body item =>
    -- A line that is held comes before anything else of the body.
    match decoder.next α with
    | (some _, _) => none
    | (none, rest) => some (turn.body run url rest item)
  | .resting, .elapsed => some ((turn.move .retry).list credential run)
  | _, _ => none

end Turn

/-- One step of the active run. -/
def Synchronizer.step {α : Type} [Resource α] (synchronizer : Synchronizer α)
    (credential : Credential) (signal : Signal) : Option (Turn α) :=
  synchronizer.run.bind fun run =>
    Turn.onSignal { synchronizer } credential run run.stage signal

end ListWatch
