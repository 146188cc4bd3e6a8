import ListWatch.Proofs.Replica.Keys
import ListWatch.Synchronizer.Control

/-!
# What a turn comes to

Whatever is done in a turn, it comes to a phase, a run, and effects that are added
in order; the outlet is what these effects make of it. So every operation has one
equation that says which phase, run and effects it leaves. A move of the phase that
is granted has such an equation, and so has everything built from granted moves.
-/
namespace ListWatch

variable {α : Type}

/-! ## Snapshots shown -/

/-- What observers see after an effect. -/
def Effect.show (before : Snapshot α) : Effect α → Snapshot α
  | .publish snapshot => snapshot
  | .emit _ | .send _ _ | .wait _ | .log _ => before

/-- What observers see after several effects. -/
def shown (before : Snapshot α) (effects : List (Effect α)) : Snapshot α :=
  effects.foldl Effect.show before

@[simp] theorem shown_nil (before : Snapshot α) : shown before [] = before := rfl

@[simp] theorem shown_cons (before : Snapshot α) (effect : Effect α) (effects : List (Effect α)) :
    shown before (effect :: effects) = shown (effect.show before) effects := rfl

@[simp] theorem shown_append (before : Snapshot α) (first second : List (Effect α)) :
    shown before (first ++ second) = shown (shown before first) second :=
  List.foldl_append

theorem shown_log (before : Snapshot α) (records : List LogRecord) :
    shown before (records.map Effect.log) = before := by
  induction records with
  | nil => rfl
  | cons record records ih => exact ih

/-- What observers see is what they saw before, or was published. -/
theorem shown_eq_or_mem (before : Snapshot α) (effects : List (Effect α)) :
    shown before effects = before ∨ .publish (shown before effects) ∈ effects := by
  induction effects generalizing before with
  | nil => exact Or.inl rfl
  | cons effect effects ih =>
    rw [shown_cons]
    rcases ih (effect.show before) with same | member
    · rw [same]
      cases effect with
      | publish snapshot => exact Or.inr List.mem_cons_self
      | emit _ | send _ _ | wait _ | log _ => exact Or.inl rfl
    · exact Or.inr (List.mem_cons_of_mem _ member)

theorem current_observe (outlet : Outlet α) (effect : Effect α) :
    (outlet.observe effect).current = effect.show outlet.current := by
  cases effect <;> rfl

theorem current_foldl_observe (outlet : Outlet α) (effects : List (Effect α)) :
    (effects.foldl Outlet.observe outlet).current = shown outlet.current effects := by
  induction effects generalizing outlet with
  | nil => rfl
  | cons effect effects ih => rw [List.foldl_cons, ih, current_observe, shown_cons]

/-! ## Notices told -/

def Effect.notice? : Effect α → Option Notice
  | .emit notice => some notice
  | .publish _ | .send _ _ | .wait _ | .log _ => none

/-- What observers are told, in order. -/
def notices (effects : List (Effect α)) : List Notice := effects.filterMap Effect.notice?

@[simp] theorem notices_nil : notices ([] : List (Effect α)) = [] := rfl

@[simp] theorem notices_cons (effect : Effect α) (effects : List (Effect α)) :
    notices (effect :: effects) = effect.notice?.toList ++ notices effects := by
  cases effect <;> rfl

@[simp] theorem notices_append (first second : List (Effect α)) :
    notices (first ++ second) = notices first ++ notices second :=
  List.filterMap_append

@[simp] theorem notices_log (records : List LogRecord) :
    notices (records.map (Effect.log (α := α))) = [] := by
  induction records with
  | nil => rfl
  | cons record records ih => exact ih

theorem mem_notices {notice : Notice} {effects : List (Effect α)} :
    notice ∈ notices effects ↔ .emit notice ∈ effects := by
  constructor
  · intro told
    obtain ⟨effect, member, same⟩ := List.mem_filterMap.mp told
    cases effect <;> cases same
    exact member
  · intro member
    exact List.mem_filterMap.mpr ⟨_, member, rfl⟩

namespace Turn

/-! ## Advancing -/

/-- The turn with another phase, another run, and more effects. -/
def advance (turn : Turn α) (phase : Phase) (run : Option (Run α)) (effects : List (Effect α)) :
    Turn α :=
  { synchronizer :=
      { turn.synchronizer with
        phase, run, outlet := effects.foldl Outlet.observe turn.synchronizer.outlet }
    effects := turn.effects ++ effects }

variable (turn : Turn α) (phase : Phase) (run : Option (Run α)) (effects : List (Effect α))

@[simp] theorem advance_effects : (turn.advance phase run effects).effects = turn.effects ++ effects :=
  rfl

@[simp] theorem advance_phase : (turn.advance phase run effects).synchronizer.phase = phase := rfl

@[simp] theorem advance_run : (turn.advance phase run effects).synchronizer.run = run := rfl

@[simp] theorem advance_client :
    (turn.advance phase run effects).synchronizer.client = turn.synchronizer.client := rfl

@[simp] theorem advance_collection :
    (turn.advance phase run effects).collection = turn.collection := rfl

@[simp] theorem advance_snapshot :
    (turn.advance phase run effects).synchronizer.snapshot =
      shown turn.synchronizer.snapshot effects :=
  current_foldl_observe _ _

@[simp] theorem advance_advance (phase' : Phase) (run' : Option (Run α))
    (effects' : List (Effect α)) :
    (turn.advance phase run effects).advance phase' run' effects' =
      turn.advance phase' run' (effects ++ effects') := by
  simp [advance]

theorem advance_self :
    turn.advance turn.synchronizer.phase turn.synchronizer.run [] = turn := by
  simp [advance]

/-- One effect alone leaves the phase and the run. -/
theorem perform_eq (effect : Effect α) :
    turn.perform effect =
      turn.advance turn.synchronizer.phase turn.synchronizer.run [effect] := rfl

theorem setRun_eq : turn.setRun run = turn.advance turn.synchronizer.phase run [] := by
  simp [setRun, advance]

theorem setPhase_eq : turn.setPhase phase = turn.advance phase turn.synchronizer.run [] := by
  simp [setPhase, advance]

theorem records_eq (records : List LogRecord) :
    records.foldl record turn =
      turn.advance turn.synchronizer.phase turn.synchronizer.run (records.map .log) := by
  induction records generalizing turn with
  | nil => exact turn.advance_self.symm
  | cons entry records ih =>
    rw [List.foldl_cons, ih, record, perform_eq, advance_advance]
    rfl

end Turn

/-! ## Effects of the operations -/

/-- How observers are told a phase. -/
def phaseEffects (collection : String) (phase : Phase) : List (Effect α) :=
  [.log { level := .debug, message := "phase changed"
          fields := [("collection", collection), ("phase", phase.name)] },
    .emit (.phaseChanged collection phase)]

namespace Run

/-- The run as it waits out a delay. -/
def failures (run : Run α) : UInt32 :=
  if run.replica.freshness = .synced then 0 else run.attempt

def rested (run : Run α) : Run α :=
  { replica := run.replica.setFreshness .syncing
    attempt := Turn.nextAttempt run.failures
    stage := .resting }

/-- The run once it has asked for a list, or could not. -/
def relisting (run : Run α) : Run α := { run with replica := run.replica.setFreshness .syncing }

/-- The run once it has taken over a list. -/
def relisted (run : Run α) (list : ObjectList α) : Run α :=
  { run with replica := run.replica.replaceAll list }

end Run

namespace Synchronizer

/-- The milliseconds that a run waits after a failure. -/
def delay (synchronizer : Synchronizer α) (run : Run α) : Nat :=
  (synchronizer.options.backoff.delay run.failures).toNat

/-- What a failure does: the phase, what was held, the reason and the delay. -/
def failureEffects (synchronizer : Synchronizer α) (run : Run α) (failure : Failure) :
    List (Effect α) :=
  phaseEffects synchronizer.collection .failed ++
    [.publish run.rested.replica,
      .log { level := .warn, message := "sync failed: " ++ failure.message
             fields := [("collection", synchronizer.collection), ("code", failure.code),
               ("retry_in_ms", toString (synchronizer.delay run))] },
      .emit (.failure synchronizer.collection failure (synchronizer.delay run)),
      .wait (synchronizer.delay run)]

def askEffects (synchronizer : Synchronizer α) (request : Request) : List (Effect α) :=
  [.log request.sendRecord, .send .whole request, .wait synchronizer.client.listDeadline]

/-- What a list that came in does, before it is watched. -/
def listEffects (synchronizer : Synchronizer α) (run : Run α) (list : ObjectList α) :
    List (Effect α) :=
  [.log { level := .info, message := "collection listed"
          fields := [("collection", synchronizer.collection),
            ("resource_version", list.resourceVersion.getD ""),
            ("items", toString list.items.length)] },
    .publish (run.relisted list).replica,
    .emit (.resynced synchronizer.collection list.resourceVersion list.items.length)] ++
    phaseEffects synchronizer.collection .watching

def watchEffects (request : Request) : List (Effect α) :=
  [.log request.openRecord, .send .stream request]

end Synchronizer

namespace Turn

variable (turn : Turn α)

theorem emitPhase_eq (phase : Phase) :
    turn.emitPhase phase =
      turn.advance turn.synchronizer.phase turn.synchronizer.run
        (phaseEffects turn.collection phase) := by
  simp only [emitPhase, emit, log, record, perform_eq, advance_advance, advance_phase,
    advance_run]
  rfl

theorem move_granted {turn : Turn α} {move : Phase.Move} {phase : Phase}
    (granted : turn.synchronizer.phase.move move = .ok phase) :
    turn.move move =
      turn.advance phase turn.synchronizer.run (phaseEffects turn.collection phase) := by
  simp only [Turn.move, granted, emitPhase_eq, setPhase_eq, advance_phase, advance_run,
    advance_collection, advance_advance, List.nil_append]

theorem fail_granted {turn : Turn α}
    (granted : turn.synchronizer.phase.move .failed = .ok .failed) (run : Run α)
    (failure : Failure) :
    turn.fail run failure =
      turn.advance .failed (some run.rested) (turn.synchronizer.failureEffects run failure) := by
  simp only [fail, move_granted granted, publish, log, record, emit, wait, perform_eq, setRun_eq,
    advance_advance, advance_phase, advance_run, advance_collection]
  rfl

theorem list_ok {turn : Turn α} [Resource α] {credential : Credential} {request : Request}
    (made : turn.synchronizer.client.request credential (.list : Call α) = .ok request)
    (run : Run α) :
    turn.list credential run =
      turn.advance turn.synchronizer.phase (some { run.relisting with stage := .listing request })
        (.publish run.relisting.replica :: turn.synchronizer.askEffects request) := by
  simp only [list, publish, perform_eq, advance_client, made, record, send, wait, setRun_eq,
    advance_advance, advance_phase, advance_run]
  rfl

theorem list_error {turn : Turn α} [Resource α] {credential : Credential} {error : ClientError}
    (refused : turn.synchronizer.client.request credential (.list : Call α) = .error error)
    (granted : turn.synchronizer.phase.move .failed = .ok .failed) (run : Run α) :
    turn.list credential run =
      turn.advance .failed (some run.relisting.rested)
        (.publish run.relisting.replica ::
          turn.synchronizer.failureEffects run.relisting error.toFailure) := by
  simp only [list, publish, perform_eq, advance_client, refused]
  rw [fail_granted (by exact granted), advance_advance]
  rfl

/-- A list that came in while the phase was syncing is taken over, and the watch goes on from it. -/
theorem listed_granted {turn : Turn α} [Resource α]
    (granted : turn.synchronizer.phase.move .listed = .ok .watching) (credential : Credential)
    (run : Run α) (list : ObjectList α) :
    turn.listed credential run list =
      (turn.advance .watching turn.synchronizer.run
        (turn.synchronizer.listEffects run list)).watch credential (run.relisted list) := by
  simp only [listed, log, record, publish, emit, perform_eq, advance_advance, advance_phase,
    advance_run, advance_collection, granted, setPhase_eq, emitPhase_eq]
  rfl

theorem watch_ok {turn : Turn α} [Resource α] {credential : Credential} {run : Run α}
    {request : Request}
    (made : turn.synchronizer.client.watchRequest credential run.replica.resourceVersion =
      .ok request) :
    turn.watch credential run =
      turn.advance turn.synchronizer.phase (some { run with stage := .opening request })
        (Synchronizer.watchEffects request) := by
  simp only [watch, made, record, send, perform_eq, setRun_eq, advance_advance, advance_phase,
    advance_run]
  rfl

theorem watch_error {turn : Turn α} [Resource α] {credential : Credential} {run : Run α}
    {error : ClientError}
    (refused : turn.synchronizer.client.watchRequest credential run.replica.resourceVersion =
      .error error)
    (granted : turn.synchronizer.phase.move .failed = .ok .failed) :
    turn.watch credential run =
      turn.advance .failed (some run.rested)
        (turn.synchronizer.failureEffects run error.toFailure) := by
  simp only [watch, refused]
  exact fail_granted granted run error.toFailure

/-! ## Changes -/

/-- The records of a change that carries no object and is no bookmark. -/
def remarks (collection : String) : Change α → List LogRecord
  | .error status =>
    [{ level := .warn, message := "watch reported an error event"
       fields := [("collection", collection),
         ("code", match status.code with
          | some code => "Some(" ++ toString code ++ ")"
          | none => "None"),
        ("reason", Text.quotedOption status.reason),
        ("message", Text.quotedOption status.message)] }]
  | .unknown name =>
    [{ level := .warn, message := "ignoring unknown watch event"
       fields := [("collection", collection), ("event_type", name)] }]
  | .added _ | .modified _ | .deleted _ | .bookmark _ => []

end Turn

/-- What observers are told of a change to a replica. -/
def changeEffects [Resource α] (collection : String) (replica : Replica α) :
    Change α → List (Effect α)
  | .added object =>
    [.publish (replica.apply (.added object)).1,
      .emit (.applied collection .added (Resource.key object) .appended)]
  | .modified object =>
    if Resource.key object ∈ replica.keys then
      [.publish (replica.apply (.modified object)).1,
        .emit (.applied collection .modified (Resource.key object) .replaced)]
    else
      [.log { level := .warn, message := Turn.notHeld
              fields := [("collection", collection), ("key", (Resource.key object).display)] },
        .emit (.anomaly collection .modified (some (Resource.key object)) Turn.notHeld)]
  | .deleted object =>
    if Resource.key object ∈ replica.keys then
      [.publish (replica.apply (.deleted object)).1,
        .emit (.applied collection .deleted (Resource.key object) .removed)]
    else []
  | .bookmark _ | .error _ | .unknown _ => []

namespace Turn

variable (turn : Turn α)

private theorem remark_eq (change : Change α) :
    turn.remark change =
      turn.advance turn.synchronizer.phase turn.synchronizer.run
        ((remarks turn.collection change).map .log) := by
  cases change <;> first | exact turn.advance_self.symm | rfl

variable (replica : Replica α) (kind : ChangeKind) (key : Key)

private theorem announce_mutated {outcome : Outcome} (mutated : outcome.mutated = true) :
    turn.announce replica kind (some key) outcome =
      turn.advance turn.synchronizer.phase turn.synchronizer.run
        [.publish replica, .emit (.applied turn.collection kind key outcome)] := by
  have held : outcome ≠ .missingKey := by
    rintro rfl
    cases mutated
  simp only [announce, if_neg held, if_pos mutated, publish, emit, perform_eq, advance_advance,
    advance_phase, advance_run]
  rfl

private theorem announce_missing :
    turn.announce replica kind (some key) .missingKey =
      turn.advance turn.synchronizer.phase turn.synchronizer.run
        [.log { level := .warn, message := notHeld
                fields := [("collection", turn.collection), ("key", key.display)] },
          .emit (.anomaly turn.collection kind (some key) notHeld)] := by
  simp only [announce, if_true, log, record, emit, perform_eq, advance_advance, advance_phase,
    advance_run]
  rfl

private theorem announce_unchanged (key : Option Key) :
    turn.announce replica kind key .unchanged =
      turn.advance turn.synchronizer.phase turn.synchronizer.run [] := by
  rw [advance_self]
  simp [announce, Outcome.mutated]

/-- A change is logged where it says so, applied to the replica, and told. -/
theorem apply_eq [Resource α] (run : Run α) (change : Change α) :
    turn.apply run change =
      turn.advance turn.synchronizer.phase
        (some { run with replica := (run.replica.apply change).1 })
        ((remarks turn.collection change).map .log ++
          changeEffects turn.collection run.replica change) := by
  -- By now the remarks have been logged, so this is about any turn.
  have told (turn : Turn α) :
      turn.announce (run.replica.apply change).1 change.kind
        (change.object?.map Resource.key) (run.replica.apply change).2 =
        turn.advance turn.synchronizer.phase turn.synchronizer.run
          (changeEffects turn.collection run.replica change) := by
    cases change with
    | added object => exact turn.announce_mutated _ .added _ rfl
    | modified object =>
      by_cases held : Resource.key object ∈ run.replica.keys
      · obtain ⟨index, -, applied⟩ := run.replica.apply_modified_of_mem held
        rw [changeEffects, if_pos held, applied]
        exact turn.announce_mutated _ .modified _ rfl
      · rw [changeEffects, if_neg held, run.replica.apply_modified_of_not_mem held]
        exact turn.announce_missing _ .modified _
    | deleted object =>
      by_cases held : Resource.key object ∈ run.replica.keys
      · rw [changeEffects, if_pos held, run.replica.apply_deleted_of_mem held]
        exact turn.announce_mutated _ .deleted _ rfl
      · rw [changeEffects, if_neg held, run.replica.apply_deleted_of_not_mem held]
        exact turn.announce_unchanged _ .deleted _
    | bookmark _ => exact turn.announce_unchanged _ .bookmark none
    | error _ => exact turn.announce_unchanged _ .error none
    | unknown _ => exact turn.announce_unchanged _ .unknown none
  simp only [apply, told, remark_eq, setRun_eq, advance_advance, advance_phase, advance_run,
    advance_collection, List.append_nil]

end Turn

end ListWatch
