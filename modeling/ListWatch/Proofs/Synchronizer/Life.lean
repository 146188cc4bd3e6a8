import Mathlib.Data.List.Induction
import ListWatch.Proofs.Synchronizer.Passage
import ListWatch.Resource.Untyped

/-!
# The life of a synchronizer

A synchronizer is started, stopped and stepped in any order, each of these running to
its end. A life is a list of such acts, and it has a turn when every step finds the run
waiting for its signal. What one act comes to is a deed; from the deeds, by induction on
the acts, come the facts about a whole life.
-/
namespace ListWatch

variable {α : Type}

/-- What may happen to a synchronizer. -/
inductive Act where
  | start
  | stop
  /-- The active run takes a step. -/
  | step (credential : Credential) (signal : Signal)

/-- The turn that an act causes. Only a step may find nothing that waits for it. -/
def Synchronizer.act [Resource α] (synchronizer : Synchronizer α) : Act → Option (Turn α)
  | .start => some synchronizer.start.1
  | .stop => some synchronizer.stop.1
  | .step credential signal => synchronizer.step credential signal

/-- The turn with the effects of one more act. -/
def Turn.follow [Resource α] (turn : Turn α) (act : Act) : Option (Turn α) :=
  (turn.synchronizer.act act).map fun next => { next with effects := turn.effects ++ next.effects }

/-- What comes of several acts, with all their effects in order. -/
def Synchronizer.life [Resource α] (synchronizer : Synchronizer α) (acts : List Act) :
    Option (Turn α) :=
  acts.foldlM Turn.follow synchronizer.unmoved

/-! ## Deeds -/

namespace Synchronizer

/-- The last effects of a run that is stopped. -/
def lastEffects (synchronizer : Synchronizer α) (run : Run α) : List (Effect α) :=
  (match run.stage with
    | .begun => [.publish run.relisting.replica]
    | .reading url _ => [.log (cancelledRecord url)]
    | .listing _ | .opening _ | .resting => []) ++
  [.publish .empty,
    .log { level := .debug, message := "sync run finished"
           fields := [("collection", synchronizer.collection)] },
    .log { level := .info, message := "sync stopped"
           fields := [("collection", synchronizer.collection)] }]

def startedRecord (synchronizer : Synchronizer α) : LogRecord :=
  { level := .info, message := "sync started"
    fields := [("collection", synchronizer.collection)] }

def runningRecord (synchronizer : Synchronizer α) : LogRecord :=
  { level := .debug, message := "sync already running"
    fields := [("collection", synchronizer.collection)] }

end Synchronizer

/-- What an act comes to: the phase, the run, and the effects. -/
inductive Deed [Resource α] (synchronizer : Synchronizer α) :
    Act → Phase → Option (Run α) → List (Effect α) → Prop where
  | started : synchronizer.run = none →
      Deed synchronizer .start .syncing (some {})
        (phaseEffects synchronizer.collection .syncing ++ [.log synchronizer.startedRecord])
  | startedAgain {run} : synchronizer.run = some run →
      Deed synchronizer .start synchronizer.phase (some run) [.log synchronizer.runningRecord]
  | stepped {credential signal run phase next effects} : synchronizer.run = some run →
      Passage synchronizer credential run signal phase next effects →
      Deed synchronizer (.step credential signal) phase (some next) effects
  | stopped {run} : synchronizer.run = some run →
      Deed synchronizer .stop .stopped none
        (synchronizer.lastEffects run ++ phaseEffects synchronizer.collection .stopped)
  | stoppedIdle : synchronizer.run = none → synchronizer.phase = .idle →
      Deed synchronizer .stop .stopped none
        (.publish .empty :: phaseEffects synchronizer.collection .stopped)
  | stoppedAgain : synchronizer.run = none → synchronizer.phase = .stopped →
      Deed synchronizer .stop .stopped none [.publish .empty]

namespace Synchronizer

variable {synchronizer : Synchronizer α}

/-- The phase of a coherent synchronizer that has a run is that of an active one. -/
theorem Coherent.isActive {run : Run α} (coherent : synchronizer.Coherent)
    (active : synchronizer.run = some run) : synchronizer.phase.isActive = true := by
  have fits := coherent.fits active
  cases stage : run.stage <;> rw [stage] at fits <;> rw [fits.1] <;> rfl

private theorem finish_eq (run : Run α) :
    synchronizer.unmoved.finish run =
      synchronizer.unmoved.advance synchronizer.phase none (synchronizer.lastEffects run) := by
  cases stage : run.stage <;>
    simp only [Turn.finish, stage, lastEffects, Turn.publish, Turn.log, Turn.record,
      Turn.perform_eq, Turn.setRun_eq, Turn.advance_advance, Turn.advance_phase, Turn.advance_run] <;>
    rfl

variable [Resource α]

/-- Every act of a coherent synchronizer is a deed. -/
theorem act_deed {act : Act} {turn : Turn α} (coherent : synchronizer.Coherent)
    (acted : synchronizer.act act = some turn) :
    ∃ phase run effects, turn = synchronizer.unmoved.advance phase run effects ∧
      Deed synchronizer act phase run effects := by
  cases act with
  | step credential signal =>
    obtain ⟨run, active, phase, next, effects, passes, passage⟩ := step_passes coherent acted
    exact ⟨phase, some next, effects, passes, .stepped active passage⟩
  | start =>
    cases acted
    cases active : synchronizer.run with
    | some run =>
      refine ⟨_, _, _, ?_, .startedAgain active⟩
      simp only [start, active, Option.isSome_some, if_true, Turn.log, Turn.record,
        Turn.perform_eq]
      rfl
    | none =>
      -- Without a run the phase is one from which a start is granted.
      have granted : synchronizer.phase.move .start = .ok .syncing := by
        rcases (coherent.inactive active).2 with idle | stopped
        · rw [idle]; rfl
        · rw [stopped]; rfl
      refine ⟨_, _, _, ?_, .started active⟩
      simp only [start, active, Option.isSome_none, Bool.false_eq_true, if_false, granted,
        Turn.log, Turn.record, Turn.perform_eq, Turn.setPhase_eq, Turn.emitPhase_eq,
        Turn.setRun_eq, Turn.advance_advance, Turn.advance_phase, Turn.advance_run]
      rfl
  | stop =>
    cases acted
    cases active : synchronizer.run with
    | some run =>
      -- While a run is active the phase is not stopped yet, so the stop is told.
      have unstopped : synchronizer.phase ≠ .stopped := by
        intro stopped
        simpa [stopped, Phase.isActive] using coherent.isActive active
      refine ⟨_, _, _, ?_, .stopped active⟩
      simp only [stop, active, if_neg unstopped]
      rw [finish_eq]
      simp only [Turn.setPhase_eq, Turn.emitPhase_eq, Turn.advance_advance, Turn.advance_phase,
        Turn.advance_run, List.append_nil]
      rfl
    | none =>
      rcases (coherent.inactive active).2 with idle | stopped
      · refine ⟨_, _, _, ?_, .stoppedIdle active idle⟩
        simp only [stop, active, idle, reduceCtorEq, if_false, Turn.publish, Turn.perform_eq,
          Turn.setPhase_eq, Turn.emitPhase_eq, Turn.advance_advance, Turn.advance_phase,
          Turn.advance_run]
        rfl
      · refine ⟨_, _, _, ?_, .stoppedAgain active stopped⟩
        simp only [stop, active, stopped, if_true, Turn.publish, Turn.perform_eq,
          Turn.setPhase_eq, Turn.advance_advance, Turn.advance_run]
        rfl

end Synchronizer

/-! ## What deeds keep -/

/-- A stopped run publishes that it began, if it had done nothing else, and then that nothing is
held. -/
theorem shown_lastEffects (before : Snapshot α) (synchronizer : Synchronizer α) (run : Run α) :
    shown before (synchronizer.lastEffects run) = .empty := by
  rw [Synchronizer.lastEffects, shown_append]
  rfl

/-- A run that was just begun says so, and then nothing is held. -/
theorem published_mem_lastEffects {snapshot : Snapshot α} {synchronizer : Synchronizer α}
    {run : Run α} :
    .publish snapshot ∈ synchronizer.lastEffects run ↔
      run.stage = .begun ∧ snapshot = run.relisting.replica ∨ snapshot = .empty := by
  cases staged : run.stage <;> simp [Synchronizer.lastEffects, staged]

@[simp] theorem notices_lastEffects (synchronizer : Synchronizer α) (run : Run α) :
    notices (synchronizer.lastEffects run) = [] := by
  cases staged : run.stage <;> rw [Synchronizer.lastEffects, staged] <;> rfl

/-- Only a step tells of anything but a phase. -/
theorem Deed.passage [Resource α] {synchronizer : Synchronizer α} {act : Act} {phase : Phase}
    {run : Option (Run α)} {effects : List (Effect α)}
    (deed : Deed synchronizer act phase run effects) {notice : Notice}
    (told : notice ∈ notices effects)
    (other : ∀ collection phase, notice ≠ .phaseChanged collection phase) :
    ∃ credential signal current next, act = .step credential signal ∧
      synchronizer.run = some current ∧ run = some next ∧
      Passage synchronizer credential current signal phase next effects := by
  cases deed with
  | started _ => exact absurd (by simpa [Effect.notice?] using told) (other _ _)
  | startedAgain _ => simp [Effect.notice?] at told
  | stepped active passage => exact ⟨_, _, _, _, rfl, active, rfl, passage⟩
  | stopped _ => exact absurd (by simpa using told) (other _ _)
  | stoppedIdle _ _ => exact absurd (by simpa [Effect.notice?] using told) (other _ _)
  | stoppedAgain _ _ => simp [Effect.notice?] at told

/-- Only a step publishes what counts as synced. -/
theorem Deed.passage_of_published [Resource α] {synchronizer : Synchronizer α} {act : Act}
    {phase : Phase} {run : Option (Run α)} {effects : List (Effect α)}
    (deed : Deed synchronizer act phase run effects) {snapshot : Snapshot α}
    (published : .publish snapshot ∈ effects) (synced : snapshot.freshness = .synced) :
    ∃ credential signal current next, act = .step credential signal ∧
      synchronizer.run = some current ∧ run = some next ∧
      Passage synchronizer credential current signal phase next effects := by
  cases deed with
  | started _ => simp at published
  | startedAgain _ => simp at published
  | stepped active passage => exact ⟨_, _, _, _, rfl, active, rfl, passage⟩
  | stopped _ =>
    -- Neither that a run was begun nor that nothing is held counts as synced.
    simp [published_mem_lastEffects] at published
    rcases published with ⟨-, rfl⟩ | rfl <;> cases synced
  | stoppedIdle _ _ =>
    simp at published
    rw [published] at synced
    cases synced
  | stoppedAgain _ _ =>
    simp at published
    rw [published] at synced
    cases synced

theorem Deed.coherent [Resource α] {turn : Turn α} {act : Act} {phase : Phase}
    {run : Option (Run α)} {effects : List (Effect α)} (coherent : turn.synchronizer.Coherent)
    (deed : Deed turn.synchronizer act phase run effects) :
    (turn.advance phase run effects).synchronizer.Coherent := by
  cases deed with
  | started inactive =>
    refine ⟨?_, rfl, rfl⟩
    rw [Turn.advance_snapshot, (coherent.inactive inactive).1]
    rfl
  | startedAgain active =>
    refine ⟨?_, coherent.fits active⟩
    rw [Turn.advance_snapshot, coherent.snapshot active]
    rfl
  | stepped active passage =>
    refine ⟨?_, passage.fits (coherent.fits active)⟩
    rw [Turn.advance_snapshot, coherent.snapshot active, passage.shown]
  | stopped _ =>
    refine ⟨?_, Or.inr rfl⟩
    rw [Turn.advance_snapshot, shown_append, shown_lastEffects]
    rfl
  | stoppedIdle _ _ => exact ⟨by rw [Turn.advance_snapshot]; rfl, Or.inr rfl⟩
  | stoppedAgain _ _ => exact ⟨by rw [Turn.advance_snapshot]; rfl, Or.inr rfl⟩

/-- Nothing makes a synchronizer idle. -/
theorem Deed.phase_ne_idle [Resource α] {synchronizer : Synchronizer α} {act : Act} {phase : Phase}
    {run : Option (Run α)} {effects : List (Effect α)} (coherent : synchronizer.Coherent)
    (deed : Deed synchronizer act phase run effects) : phase ≠ .idle := by
  intro idle
  cases run with
  | some run =>
    have after : (synchronizer.unmoved.advance phase (some run) effects).synchronizer.Coherent :=
      Deed.coherent coherent deed
    have active : phase.isActive = true := after.isActive rfl
    rw [idle] at active
    cases active
  | none =>
    -- Only a stop leaves no run.
    cases deed <;> cases idle

namespace Synchronizer

variable [Resource α] {synchronizer : Synchronizer α}

theorem follow_deed {turn next : Turn α} {act : Act} (coherent : turn.synchronizer.Coherent)
    (followed : turn.follow act = some next) :
    ∃ phase run effects, next = turn.advance phase run effects ∧
      Deed turn.synchronizer act phase run effects := by
  obtain ⟨acted, did, rfl⟩ := Option.map_eq_some_iff.mp followed
  obtain ⟨phase, run, effects, rfl, deed⟩ := act_deed coherent did
  exact ⟨phase, run, effects, by simp [Turn.advance], deed⟩

theorem life_concat (acts : List Act) (act : Act) :
    synchronizer.life (acts ++ [act]) =
      (synchronizer.life acts).bind fun turn => turn.follow act := by
  simp [life, List.foldlM_append]

/-- What holds before a life and is kept by every deed holds at its end. -/
theorem life_induction {motive : List Act → Turn α → Prop} (coherent : synchronizer.Coherent)
    (before : motive [] synchronizer.unmoved)
    (kept : ∀ {acts act turn phase run effects}, turn.synchronizer.Coherent → motive acts turn →
      Deed turn.synchronizer act phase run effects →
      motive (acts ++ [act]) (turn.advance phase run effects))
    {acts : List Act} {turn : Turn α} (lived : synchronizer.life acts = some turn) :
    turn.synchronizer.Coherent ∧ motive acts turn := by
  -- A life grows at its end, where its effects are added too.
  induction acts using List.reverseRecOn generalizing turn with
  | nil =>
    cases lived
    exact ⟨coherent, before⟩
  | append_singleton acts act ih =>
    rw [life_concat] at lived
    obtain ⟨earlier, led, followed⟩ := Option.bind_eq_some_iff.mp lived
    obtain ⟨still, held⟩ := ih led
    obtain ⟨phase, run, effects, rfl, deed⟩ := follow_deed still followed
    exact ⟨deed.coherent still, kept still held deed⟩

theorem coherent_life {acts : List Act} {turn : Turn α} (coherent : synchronizer.Coherent)
    (lived : synchronizer.life acts = some turn) : turn.synchronizer.Coherent :=
  (life_induction (motive := fun _ _ => True) coherent trivial (fun _ _ _ => trivial) lived).1

/-- A synchronizer keeps its client. -/
theorem client_life {acts : List Act} {turn : Turn α} (coherent : synchronizer.Coherent)
    (lived : synchronizer.life acts = some turn) :
    turn.synchronizer.client = synchronizer.client :=
  (life_induction (motive := fun _ turn => turn.synchronizer.client = synchronizer.client) coherent
    rfl (fun _ same _ => same) lived).2

end Synchronizer

/-! ## A short life -/

namespace Sample

def client : Client :=
  { server := { scheme := "http", authority := some { host := "localhost" } }
    collection := { apiPath := "/api/v1", resource := "pods" } }

/-- A list of one object. -/
def list : Response :=
  { status := 200
    body := Utf8.ofString ("\x7b\"metadata\":\x7b\"resourceVersion\":\"7\"\x7d,\"items\":["
      ++ "\x7b\"metadata\":\x7b\"name\":\"first\"\x7d\x7d]\x7d") }

/-- A line that adds another object. -/
def line : List UInt8 :=
  Utf8.ofString ("\x7b\"type\":\"ADDED\",\"object\":\x7b\"metadata\":\x7b\"name\":\"second\"\x7d\x7d\x7d"
    ++ "\n")

/-- A list, a watch that brings one change in two chunks before it is closed, and a second attempt
that is stopped. -/
def acts : List Act :=
  [.start, .step .anonymous .proceed, .step .anonymous (.answered (.ok list)),
    .step .anonymous (.opened (.ok { status := 200 })),
    .step .anonymous (.body (.chunk (line.take 9))), .step .anonymous (.body (.chunk (line.drop 9))),
    .step .anonymous .proceed, .step .anonymous (.body .ended), .step .anonymous .elapsed, .stop]

/-- The short life after a number of acts. -/
def turn (count : Nat) : Turn UntypedObject :=
  ((Synchronizer.create client {}).life (acts.take count)).getD
    (Synchronizer.create client {}).unmoved

theorem lived (count : Nat)
    (alive : ((Synchronizer.create client {} : Synchronizer UntypedObject).life
      (acts.take count)).isSome = true) :
    (Synchronizer.create client {}).life (acts.take count) = some (turn count) := by
  obtain ⟨last, lived⟩ := Option.isSome_iff_exists.mp alive
  rw [turn, lived]
  rfl

end Sample

end ListWatch
