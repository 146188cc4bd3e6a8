import ListWatch.Proofs.Client.Redaction
import ListWatch.Proofs.Synchronizer.Calls

/-!
# Turns without their tokens

A token goes from the credential into the requests that are sent, and the run keeps such a request
while it waits for the answer. Nothing else takes it up: every operation of a turn, made on the
redacted turn with the redacted credential, comes to the redacted result. So does every act.
-/
namespace ListWatch

variable {α : Type}

def Stage.redacted : Stage → Stage
  | .begun => .begun
  | .listing request => .listing request.redacted
  | .opening request => .opening request.redacted
  | .reading url decoder => .reading url decoder
  | .resting => .resting

namespace Stage

@[simp] theorem redacted_begun : begun.redacted = begun := by rw [redacted]

@[simp] theorem redacted_listing (request : Request) :
    (listing request).redacted = listing request.redacted := by rw [redacted]

@[simp] theorem redacted_opening (request : Request) :
    (opening request).redacted = opening request.redacted := by rw [redacted]

@[simp] theorem redacted_reading (url : String) (decoder : LineDecoder) :
    (reading url decoder).redacted = reading url decoder := by rw [redacted]

@[simp] theorem redacted_resting : resting.redacted = resting := by rw [redacted]

end Stage

def Run.redacted (run : Run α) : Run α := { run with stage := run.stage.redacted }

@[simp] theorem Run.redacted_replica (run : Run α) : run.redacted.replica = run.replica := rfl

@[simp] theorem Run.redacted_attempt (run : Run α) : run.redacted.attempt = run.attempt := rfl

@[simp] theorem Run.redacted_stage (run : Run α) :
    run.redacted.stage = run.stage.redacted := rfl

theorem Run.with_redacted (run : Run α) (replica : Replica α) :
    { run.redacted with replica } = ({ run with replica } : Run α).redacted := rfl

def Effect.redacted : Effect α → Effect α
  | .emit notice => .emit notice
  | .publish snapshot => .publish snapshot
  | .send route request => .send route request.redacted
  | .wait milliseconds => .wait milliseconds
  | .log record => .log record

/-- Readers are told nothing of what is sent. -/
@[simp] theorem Outlet.observe_redacted (outlet : Outlet α) (effect : Effect α) :
    outlet.observe effect.redacted = outlet.observe effect := by
  cases effect <;> rfl

namespace Synchronizer

/-- The synchronizer with another token in the request that its run waits for. -/
def redacted (synchronizer : Synchronizer α) : Synchronizer α :=
  { synchronizer with run := synchronizer.run.map Run.redacted }

variable (synchronizer : Synchronizer α)

@[simp] theorem redacted_phase : synchronizer.redacted.phase = synchronizer.phase := rfl

@[simp] theorem redacted_client : synchronizer.redacted.client = synchronizer.client := rfl

@[simp] theorem redacted_run :
    synchronizer.redacted.run = synchronizer.run.map Run.redacted := rfl

@[simp] theorem redacted_snapshot :
    synchronizer.redacted.snapshot = synchronizer.snapshot := rfl

@[simp] theorem redacted_description :
    synchronizer.redacted.description = synchronizer.description := rfl

end Synchronizer

namespace Turn

def redacted (turn : Turn α) : Turn α :=
  { synchronizer := turn.synchronizer.redacted
    effects := turn.effects.map Effect.redacted }

variable (turn : Turn α)

@[simp] theorem redacted_synchronizer :
    turn.redacted.synchronizer = turn.synchronizer.redacted := rfl

@[simp] theorem redacted_collection : turn.redacted.collection = turn.collection := rfl

/-! ## What a turn does at once -/

@[simp] theorem perform_redacted (effect : Effect α) :
    turn.redacted.perform effect.redacted = (turn.perform effect).redacted := by
  simp [perform, redacted, Synchronizer.redacted]

@[simp] theorem emit_redacted (notice : Notice) :
    turn.redacted.emit notice = (turn.emit notice).redacted :=
  turn.perform_redacted (.emit notice)

@[simp] theorem publish_redacted (snapshot : Snapshot α) :
    turn.redacted.publish snapshot = (turn.publish snapshot).redacted :=
  turn.perform_redacted (.publish snapshot)

@[simp] theorem send_redacted (route : Route) (request : Request) :
    turn.redacted.send route request.redacted = (turn.send route request).redacted :=
  turn.perform_redacted (.send route request)

@[simp] theorem wait_redacted (milliseconds : Nat) :
    turn.redacted.wait milliseconds = (turn.wait milliseconds).redacted :=
  turn.perform_redacted (.wait milliseconds)

@[simp] theorem record_redacted (entry : LogRecord) :
    turn.redacted.record entry = (turn.record entry).redacted :=
  turn.perform_redacted (.log entry)

@[simp] theorem log_redacted (level : LogLevel) (message : String)
    (fields : List (String × String)) :
    turn.redacted.log level message fields = (turn.log level message fields).redacted :=
  turn.record_redacted _

@[simp] theorem setPhase_redacted (phase : Phase) :
    turn.redacted.setPhase phase = (turn.setPhase phase).redacted := rfl

@[simp] theorem setRun_none_redacted :
    turn.redacted.setRun none = (turn.setRun none).redacted := rfl

@[simp] theorem setRun_redacted (replica : Replica α) (attempt : UInt32) (stage : Stage) :
    turn.redacted.setRun (some { replica, attempt, stage := stage.redacted }) =
      (turn.setRun (some { replica, attempt, stage })).redacted := rfl

/-- A run that waits for no answer holds no request. -/
@[simp] theorem setRun_still_redacted (replica : Replica α) (attempt : UInt32) {stage : Stage}
    (still : stage.redacted = stage) :
    turn.redacted.setRun (some { replica, attempt, stage }) =
      (turn.setRun (some { replica, attempt, stage })).redacted := by
  rw [← setRun_redacted, still]

@[simp] theorem setRun_listing_redacted (replica : Replica α) (attempt : UInt32)
    (request : Request) :
    turn.redacted.setRun (some { replica, attempt, stage := .listing request.redacted }) =
      (turn.setRun (some { replica, attempt, stage := .listing request })).redacted := rfl

@[simp] theorem setRun_opening_redacted (replica : Replica α) (attempt : UInt32)
    (request : Request) :
    turn.redacted.setRun (some { replica, attempt, stage := .opening request.redacted }) =
      (turn.setRun (some { replica, attempt, stage := .opening request })).redacted := rfl

@[simp] theorem emitPhase_redacted (phase : Phase) :
    turn.redacted.emitPhase phase = (turn.emitPhase phase).redacted := by
  simp [emitPhase]

@[simp] theorem warn_redacted (failure : Failure) :
    turn.redacted.warn failure = (turn.warn failure).redacted := by
  simp [warn]

@[simp] theorem move_redacted (move : Phase.Move) :
    turn.redacted.move move = (turn.move move).redacted := by
  simp only [Turn.move, redacted_synchronizer, Synchronizer.redacted_phase]
  split <;> simp

@[simp] theorem records_redacted (records : List LogRecord) :
    records.foldl record turn.redacted = (records.foldl record turn).redacted := by
  induction records generalizing turn with
  | nil => rfl
  | cons entry records ih => rw [List.foldl_cons, record_redacted, ih, List.foldl_cons]

@[simp] theorem fail_redacted (run : Run α) (failure : Failure) :
    turn.redacted.fail run.redacted failure = (turn.fail run failure).redacted := by
  simp [fail]
  -- Both decide on the freshness of one replica, the left hand side that of the redacted run.
  rfl

@[simp] theorem finish_redacted (run : Run α) :
    turn.redacted.finish run.redacted = (turn.finish run).redacted := by
  -- The last record of a run that reads holds its URL, and the others have none.
  cases staged : run.stage <;> simp [finish, staged]

/-! ## What a run does -/

@[simp] theorem opened_redacted (run : Run α) (request : Request)
    (answer : Except TransportError StreamHead) :
    turn.redacted.opened run.redacted request.redacted answer =
      (turn.opened run request answer).redacted := by
  -- The stream is read under the URL of the request, and the request is kept no longer.
  simp only [opened, Request.redacted_url]
  split <;> simp

@[simp] theorem body_redacted (run : Run α) (url : String) (decoder : LineDecoder)
    (item : BodyItem) :
    turn.redacted.body run.redacted url decoder item =
      (turn.body run url decoder item).redacted := by
  cases item <;> simp [body, closed]

section Protocol

variable (credential : Credential) (run : Run α)

@[simp] theorem watch_redacted :
    turn.redacted.watch credential.redacted run.redacted =
      (turn.watch credential run).redacted := by
  have asked := (turn.synchronizer.client.asksTokenLast_watchRequest
    run.replica.resourceVersion).redacted credential
  simp only [Turn.watch, redacted_synchronizer, Synchronizer.redacted_client,
    Run.redacted_replica, asked]
  cases turn.synchronizer.client.watchRequest credential run.replica.resourceVersion with
  | error error => exact turn.fail_redacted run error.toFailure
  | ok request => simp [Except.map]

@[simp] theorem listed_redacted (list : ObjectList α) :
    turn.redacted.listed credential.redacted run.redacted list =
      (turn.listed credential run list).redacted := by
  simp only [listed, log_redacted, publish_redacted, emit_redacted, redacted_collection,
    redacted_synchronizer, Synchronizer.redacted_phase, Run.redacted_replica, Run.with_redacted]
  split <;> simp

@[simp] theorem remark_redacted (change : Change α) :
    turn.redacted.remark change = (turn.remark change).redacted := by
  cases change <;> simp [remark]

@[simp] theorem announce_redacted (replica : Replica α) (kind : ChangeKind) (key : Option Key)
    (outcome : Outcome) :
    turn.redacted.announce replica kind key outcome =
      (turn.announce replica kind key outcome).redacted := by
  simp only [announce]
  repeat' split
  all_goals simp

variable [Resource α]

@[simp] theorem list_redacted :
    turn.redacted.list credential.redacted run.redacted =
      (turn.list credential run).redacted := by
  simp only [Turn.list, publish_redacted, Run.redacted_replica, Run.with_redacted]
  -- The client is the same before and after the replica is published.
  generalize turn.publish (run.replica.setFreshness .syncing) = told
  have asked := (told.synchronizer.client.asksTokenLast_request
    (.list : Call α)).redacted credential
  simp only [redacted_synchronizer, Synchronizer.redacted_client, asked]
  cases told.synchronizer.client.request credential (.list : Call α) with
  | error error => exact told.fail_redacted _ error.toFailure
  | ok request => simp [Except.map]

@[simp] theorem answered_redacted (request : Request)
    (answer : Except TransportError Response) :
    turn.redacted.answered credential.redacted run.redacted request.redacted answer =
      (turn.answered credential run request answer).redacted := by
  simp only [answered, records_redacted, Request.conclude_redacted]
  split <;> simp

@[simp] theorem apply_redacted (change : Change α) :
    turn.redacted.apply run.redacted change = (turn.apply run change).redacted := by
  simp [apply]

@[simp] theorem line_redacted (url : String)
    (taken : Except LineError (Change α) × LineDecoder) :
    turn.redacted.line run.redacted url taken = (turn.line run url taken).redacted := by
  obtain ⟨result, rest⟩ := taken
  cases result with
  | error error => simp [line]
  | ok change =>
    -- A run that reads holds no request, so this one is as redacted as before.
    exact turn.apply_redacted { run with stage := .reading url rest } change

/-- Whether a signal is waited for does not depend on a token either. -/
theorem onSignal_redacted (stage : Stage) (signal : Signal) :
    turn.redacted.onSignal credential.redacted run.redacted stage.redacted signal =
      (turn.onSignal credential run stage signal).map redacted := by
  -- One case for each stage and signal; in those that read, a line may be held or not.
  cases stage <;> cases signal <;> simp [onSignal]
  all_goals split <;> simp

end Protocol

end Turn

namespace Synchronizer

variable (synchronizer : Synchronizer α)

@[simp] theorem unmoved_redacted : synchronizer.redacted.unmoved = synchronizer.unmoved.redacted :=
  rfl

/-- A start finds and does the same. -/
theorem start_redacted :
    synchronizer.redacted.start = synchronizer.start.map Turn.redacted id := by
  simp only [start, unmoved_redacted, redacted_run, redacted_phase, Option.isSome_map]
  by_cases active : synchronizer.run.isSome = true
  · simp [active]
  · cases synchronizer.phase.move .start <;> simp [active]

theorem stop_redacted :
    synchronizer.redacted.stop = synchronizer.stop.map Turn.redacted id := by
  simp only [stop, unmoved_redacted, redacted_run, redacted_phase]
  cases synchronizer.run <;> by_cases told : synchronizer.phase = .stopped <;> simp [told]

theorem step_redacted [Resource α] (credential : Credential) (signal : Signal) :
    synchronizer.redacted.step credential.redacted signal =
      (synchronizer.step credential signal).map Turn.redacted := by
  simp only [step, unmoved_redacted, redacted_run]
  cases synchronizer.run with
  | none => rfl
  | some run => exact synchronizer.unmoved.onSignal_redacted credential run run.stage signal

end Synchronizer

end ListWatch
