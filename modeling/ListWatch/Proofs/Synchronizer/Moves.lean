import ListWatch.Proofs.Synchronizer.Life

/-!
# Moves of the phase

A run asks for moves of the phase in an order that its stage decides, and from the phase
that fits the stage each of them is granted. So what a synchronizer tells of its phase is
the moves it made, and nothing it logs or tells reports that a move was refused.
-/
namespace ListWatch

variable {α : Type}

/-! ## Moves asked for -/

/-- Makes moves one after the other, as long as they are granted. -/
def Phase.moveAll (phase : Phase) (moves : List Phase.Move) : Except Failure Phase :=
  moves.foldlM Phase.move phase

/-- The moves that the next step of a run may ask for, one after the other. -/
def Stage.moves : Stage → List (List Phase.Move)
  | .begun => [[], [.failed]]
  | .listing _ => [[.failed], [.listed], [.listed, .failed]]
  | .opening _ | .reading _ _ => [[], [.failed]]
  | .resting => [[.retry], [.retry, .failed]]

/-- The moves that an act may ask for, apart from stopping. -/
def Synchronizer.asks (synchronizer : Synchronizer α) : Act → List (List Phase.Move)
  | .start => match synchronizer.run with
    | some _ => [[]]
    | none => [[.start]]
  | .step _ _ => match synchronizer.run with
    | some run => run.stage.moves
    | none => []
  | .stop => []

def Notice.phase? : Notice → Option Phase
  | .phaseChanged _ phase => some phase
  | .resynced _ _ _ | .applied _ _ _ _ | .anomaly _ _ _ _ | .failure _ _ _ => none

/-- The phases told, in order. -/
def phases (effects : List (Effect α)) : List Phase := (notices effects).filterMap Notice.phase?

private theorem phases_changeEffects [Resource α] (collection : String) (replica : Replica α)
    (change : Change α) : phases (changeEffects collection replica change) = [] := by
  rcases notices_changeEffects collection replica change with
    none | ⟨kind, key, outcome, one⟩ | ⟨object, -, -, one⟩
  · rw [phases, none]; rfl
  · rw [phases, one]; rfl
  · rw [phases, one]; rfl

section Granted

variable {synchronizer : Synchronizer α}

private theorem Stage.moves_granted {stage : Stage} {phase : Phase} {replica : Replica α}
    (fits : stage.Fits phase replica) :
    ∀ moves ∈ stage.moves, ∃ after, phase.moveAll moves = .ok after := by
  intro moves member
  cases stage <;> rw [fits.1] <;> simp only [Stage.moves, List.mem_cons, List.not_mem_nil,
    or_false] at member
  case listing => rcases member with rfl | rfl | rfl <;> exact ⟨_, rfl⟩
  all_goals rcases member with rfl | rfl <;> exact ⟨_, rfl⟩

/-- Whatever moves a coherent synchronizer may ask for next, each of them is granted. -/
theorem asks_granted (coherent : synchronizer.Coherent) (act : Act) :
    ∀ moves ∈ synchronizer.asks act, ∃ phase, synchronizer.phase.moveAll moves = .ok phase := by
  intro moves member
  cases active : synchronizer.run with
  | some run =>
    cases act with
    | stop => cases member
    | start =>
      rw [Synchronizer.asks, active] at member
      rw [List.mem_singleton.mp member]
      exact ⟨_, rfl⟩
    | step _ _ =>
      rw [Synchronizer.asks, active] at member
      exact Stage.moves_granted (coherent.fits active) moves member
  | none =>
    cases act with
    | stop => cases member
    | start =>
      rw [Synchronizer.asks, active] at member
      rw [List.mem_singleton.mp member]
      rcases (coherent.inactive active).2 with idle | stopped
      · rw [idle]; exact ⟨_, rfl⟩
      · rw [stopped]; exact ⟨_, rfl⟩
    | step _ _ =>
      rw [Synchronizer.asks, active] at member
      cases member

variable [Resource α]

/-- What a passage does to the phase is one of the sequences of moves that its stage may ask for. -/
theorem Passage.moves {credential : Credential} {run next : Run α} {signal : Signal}
    {phase : Phase} {effects : List (Effect α)}
    (passage : Passage synchronizer credential run signal phase next effects)
    (fits : run.stage.Fits synchronizer.phase run.replica) :
    ∃ moves ∈ run.stage.moves, synchronizer.phase.moveAll moves = .ok phase ∧
      phases effects = moves.map Phase.Move.target := by
  cases passage with
  | asked resumes _ =>
    -- From a delay the phase goes back to syncing first.
    generalize run.stage = stage at fits resumes ⊢
    cases resumes with
    | begin => rw [fits.1]; exact ⟨[], by simp [Stage.moves], rfl, rfl⟩
    | retry => rw [fits.1]; exact ⟨[.retry], by simp [Stage.moves], rfl, rfl⟩
  | unasked resumes _ =>
    generalize run.stage = stage at fits resumes ⊢
    cases resumes with
    | begin => rw [fits.1]; exact ⟨[.failed], by simp [Stage.moves], rfl, rfl⟩
    | retry => rw [fits.1]; exact ⟨[.retry, .failed], by simp [Stage.moves], rfl, rfl⟩
  | listed listing _ _ _ =>
    rw [listing] at fits ⊢
    rw [fits.1]
    refine ⟨[.listed], by simp [Stage.moves], rfl, ?_⟩
    rw [phases, notices_append, notices_log, List.nil_append]
    rfl
  | unwatched listing _ _ _ =>
    -- The list counts even if its watch cannot be asked for.
    rw [listing] at fits ⊢
    rw [fits.1]
    refine ⟨[.listed, .failed], by simp [Stage.moves], rfl, ?_⟩
    rw [phases, notices_append, notices_log, List.nil_append]
    rfl
  | opened opening _ =>
    rw [opening] at fits ⊢
    rw [fits.1]
    exact ⟨[], by simp [Stage.moves], rfl, rfl⟩
  | @applied _ _ change _ reading _ =>
    rw [reading] at fits ⊢
    rw [fits.1]
    have untold := phases_changeEffects synchronizer.collection run.replica change
    refine ⟨[], by simp [Stage.moves], rfl, ?_⟩
    rw [phases, notices_append, notices_log, List.nil_append]
    exact untold
  | fed reading _ =>
    rw [reading] at fits ⊢
    rw [fits.1]
    exact ⟨[], by simp [Stage.moves], rfl, rfl⟩
  | failed breaks =>
    rw [phases, notices_append, notices_log, List.nil_append]
    generalize run.stage = stage at fits breaks ⊢
    cases breaks <;> rw [fits.1] <;> exact ⟨[.failed], by simp [Stage.moves], rfl, rfl⟩

/-- What an act other than a stop does to the phase is moves that it may ask for, and those are what
it tells. -/
theorem Deed.moves {act : Act} {phase : Phase} {run : Option (Run α)} {effects : List (Effect α)}
    (coherent : synchronizer.Coherent) (goes : act ≠ .stop)
    (deed : Deed synchronizer act phase run effects) :
    ∃ moves ∈ synchronizer.asks act, synchronizer.phase.moveAll moves = .ok phase ∧
      phases effects = moves.map Phase.Move.target := by
  cases deed with
  | started inactive =>
    refine ⟨[.start], by simp [Synchronizer.asks, inactive], ?_, rfl⟩
    rcases (coherent.inactive inactive).2 with idle | stopped
    · rw [idle]; rfl
    · rw [stopped]; rfl
  | startedAgain active => exact ⟨[], by simp [Synchronizer.asks, active], rfl, rfl⟩
  | stepped active passage =>
    rw [Synchronizer.asks, active]
    exact passage.moves (coherent.fits active)
  -- A stop sets the phase without asking for a move.
  | stopped _ => exact absurd rfl goes
  | stoppedIdle _ _ => exact absurd rfl goes
  | stoppedAgain _ _ => exact absurd rfl goes

end Granted

/-! ## Refusals -/

/-- Whether an effect reports that a move of the phase was refused. -/
def Effect.ReportsRefusal : Effect α → Prop
  | .log record => ("code", "invalid_state_transition") ∈ record.fields
  | .emit (.failure _ reason _) => reason.code = "invalid_state_transition"
  | .emit _ | .publish _ | .send _ _ | .wait _ => False

theorem WatchError.code_ne_refusal (error : WatchError) :
    error.toFailure.code ≠ "invalid_state_transition" := by
  cases error <;> exact of_decide_eq_false rfl

theorem ClientError.code_ne_refusal (error : ClientError) :
    error.toFailure.code ≠ "invalid_state_transition" := by
  cases error with
  | watch error => exact error.code_ne_refusal
  | transport _ _ _ | rejected _ | body _ _ | encode _ | invalidUrl _ _ | invalidCredential
    | missingName => exact of_decide_eq_false rfl

/-- Effects of which none reports a refused move. -/
def Unrefused (effects : List (Effect α)) : Prop := ∀ effect ∈ effects, ¬ effect.ReportsRefusal

theorem Unrefused.nil : Unrefused ([] : List (Effect α)) := List.forall_mem_nil _

theorem Unrefused.cons {effect : Effect α} {rest : List (Effect α)}
    (other : ¬ effect.ReportsRefusal) (further : Unrefused rest) : Unrefused (effect :: rest) :=
  List.forall_mem_cons.mpr ⟨other, further⟩

theorem Unrefused.append {first second : List (Effect α)} (left : Unrefused first)
    (right : Unrefused second) : Unrefused (first ++ second) :=
  List.forall_mem_append.mpr ⟨left, right⟩

private theorem unrefused_phaseEffects (collection : String) (phase : Phase) :
    Unrefused (phaseEffects (α := α) collection phase) := by
  intro effect member
  simp [phaseEffects] at member
  rcases member with rfl | rfl <;> simp [Effect.ReportsRefusal]

private theorem unrefused_failureEffects (synchronizer : Synchronizer α) (run : Run α)
    {failure : Failure} (other : failure.code ≠ "invalid_state_transition") :
    Unrefused (synchronizer.failureEffects run failure) := by
  refine (unrefused_phaseEffects _ _).append ?_
  intro effect member
  simp at member
  rcases member with rfl | rfl | rfl | rfl <;> simp [Effect.ReportsRefusal, other, other.symm]

private theorem unrefused_listEffects (synchronizer : Synchronizer α) (run : Run α)
    (list : ObjectList α) : Unrefused (synchronizer.listEffects run list) := by
  refine Unrefused.append ?_ (unrefused_phaseEffects _ _)
  intro effect member
  simp at member
  rcases member with rfl | rfl | rfl <;> simp [Effect.ReportsRefusal]

private theorem unrefused_changeEffects [Resource α] (collection : String) (replica : Replica α)
    (change : Change α) : Unrefused (changeEffects collection replica change) := by
  intro effect member
  cases change with
  | added object =>
    simp [changeEffects] at member
    rcases member with rfl | rfl <;> simp [Effect.ReportsRefusal]
  | modified object =>
    by_cases held : Resource.key object ∈ replica.keys <;>
      simp [changeEffects, held] at member <;>
      rcases member with rfl | rfl <;> simp [Effect.ReportsRefusal]
  | deleted object =>
    by_cases held : Resource.key object ∈ replica.keys <;>
      simp [changeEffects, held] at member
    rcases member with rfl | rfl <;> simp [Effect.ReportsRefusal]
  | bookmark _ | error _ | unknown _ => cases member

private theorem unrefused_answerRecords (answer : Except TransportError Response) :
    Unrefused ((answerRecords answer).map (Effect.log (α := α))) := by
  intro effect member
  obtain ⟨record, logged, rfl⟩ := List.mem_map.mp member
  cases answer with
  | error _ => cases logged
  | ok response =>
    simp [answerRecords, Response.records] at logged
    simp [logged.2, Effect.ReportsRefusal]

/-- The code of an error event is logged with a mark of its own. -/
private theorem unrefused_remarks (collection : String) (change : Change α) :
    Unrefused ((Turn.remarks collection change).map (Effect.log (α := α))) := by
  intro effect member
  cases change with
  | added _ | modified _ | deleted _ | bookmark _ => cases member
  | unknown name =>
    simp [Turn.remarks] at member
    simp [member, Effect.ReportsRefusal]
  | error status =>
    simp [Turn.remarks] at member
    subst member
    cases status.code with
    | none => simp [Effect.ReportsRefusal]
    | some code =>
      -- The two texts differ in their first letter.
      have marked : "invalid_state_transition" ≠ "Some(" ++ toString code ++ ")" := by
        intro same
        simpa [String.toList_append] using congrArg String.toList same
      simpa [Effect.ReportsRefusal] using marked

section Lives

variable [Resource α] {synchronizer : Synchronizer α}

private theorem Breaks.code_ne_refusal {stage : Stage} {signal : Signal}
    {records : List LogRecord} {failure : Failure}
    (breaks : Breaks synchronizer stage signal records failure) :
    failure.code ≠ "invalid_state_transition" ∧
      Unrefused (records.map (Effect.log (α := α))) := by
  cases breaks with
  | @list _ answer _ error _ _ => exact ⟨error.code_ne_refusal, unrefused_answerRecords answer⟩
  | @opening _ _ error _ => exact ⟨error.code_ne_refusal, Unrefused.nil⟩
  | line _ => exact ⟨WatchError.code_ne_refusal _, Unrefused.nil⟩
  | stream _ => exact ⟨WatchError.code_ne_refusal _, Unrefused.nil⟩
  | closed _ => exact ⟨of_decide_eq_false rfl, .cons (by simp [Effect.ReportsRefusal, closedRecord]) .nil⟩

omit [Resource α] in
private theorem Resumes.unrefused {collection : String} {stage : Stage} {signal : Signal}
    {opening : List (Effect α)} (resumes : Resumes collection stage signal opening) :
    Unrefused opening := by
  cases resumes with
  | begin => exact .nil
  | retry => exact unrefused_phaseEffects _ _

theorem Passage.unrefused {credential : Credential} {run next : Run α} {signal : Signal}
    {phase : Phase} {effects : List (Effect α)}
    (passage : Passage synchronizer credential run signal phase next effects) :
    Unrefused effects := by
  cases passage with
  | asked resumes _ =>
    have sent {request : Request} :
        ("code", "invalid_state_transition") ∉ request.sendRecord.fields := by
      simp [Request.sendRecord]
    exact resumes.unrefused.append (.cons id (.cons sent (.cons id (.cons id .nil))))
  | @unasked _ _ error resumes _ =>
    exact resumes.unrefused.append
      (.cons id (unrefused_failureEffects _ _ error.code_ne_refusal))
  | listed _ _ _ _ =>
    have opened {request : Request} :
        ("code", "invalid_state_transition") ∉ request.openRecord.fields := by
      simp [Request.openRecord]
    exact (unrefused_answerRecords _).append
      ((unrefused_listEffects _ _ _).append (.cons opened (.cons id .nil)))
  | @unwatched _ _ _ _ error _ _ _ _ =>
    exact (unrefused_answerRecords _).append
      ((unrefused_listEffects _ _ _).append (unrefused_failureEffects _ _ error.code_ne_refusal))
  | opened _ _ => exact .nil
  | applied _ _ => exact (unrefused_remarks _ _).append (unrefused_changeEffects _ _ _)
  | fed _ _ => exact .nil
  | failed breaks =>
    exact breaks.code_ne_refusal.2.append (unrefused_failureEffects _ _ breaks.code_ne_refusal.1)

omit [Resource α] in
private theorem unrefused_lastEffects (synchronizer : Synchronizer α) (run : Run α) :
    Unrefused (synchronizer.lastEffects run) := by
  intro effect member
  cases staged : run.stage <;> simp [Synchronizer.lastEffects, staged] at member <;>
    rcases member with rfl | rfl | rfl | rfl <;>
    simp [Effect.ReportsRefusal, cancelledRecord]

theorem Deed.unrefused {act : Act} {phase : Phase} {run : Option (Run α)}
    {effects : List (Effect α)} (deed : Deed synchronizer act phase run effects) :
    Unrefused effects := by
  cases deed with
  | started _ =>
    refine (unrefused_phaseEffects _ _).append (.cons ?_ .nil)
    simp [Effect.ReportsRefusal, Synchronizer.startedRecord]
  | startedAgain _ =>
    refine .cons ?_ .nil
    simp [Effect.ReportsRefusal, Synchronizer.runningRecord]
  | stepped _ passage => exact passage.unrefused
  | stopped _ => exact (unrefused_lastEffects _ _).append (unrefused_phaseEffects _ _)
  | stoppedIdle _ _ => exact .cons id (unrefused_phaseEffects _ _)
  | stoppedAgain _ _ => exact .cons id .nil

/-- Nothing that is logged or told in a life reports a refused move. -/
theorem unrefused_life {acts : List Act} {turn : Turn α} (coherent : synchronizer.Coherent)
    (lived : synchronizer.life acts = some turn) : Unrefused turn.effects :=
  (Synchronizer.life_induction (motive := fun _ turn => Unrefused turn.effects) coherent .nil
    (fun _ unrefused deed => unrefused.append deed.unrefused) lived).2

end Lives

end ListWatch
