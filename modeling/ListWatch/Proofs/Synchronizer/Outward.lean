import ListWatch.Proofs.Event.Noise
import ListWatch.Proofs.Synchronizer.Life

/-!
# What shows of a turn

Of a turn observers and servers see all but the records that are logged and the bytes that a run
holds. What shows of a run that reads changes with the lines it takes alone: cutting its stream
into chunks shows nowhere, and neither does noise.
-/
namespace ListWatch

variable {α : Type}

/-! ## What shows -/

/-- The stage without the bytes held. -/
def Stage.outward : Stage → Stage
  | .reading url _ => .reading url {}
  | .begun => .begun
  | .listing request => .listing request
  | .opening request => .opening request
  | .resting => .resting

def Run.outward (run : Run α) : Run α := { run with stage := run.stage.outward }

def Synchronizer.outward (synchronizer : Synchronizer α) : Synchronizer α :=
  { synchronizer with run := synchronizer.run.map Run.outward }

/-- Every effect but a record that is logged. -/
def Effect.isOutward : Effect α → Bool
  | .log _ => false
  | .emit _ | .publish _ | .send _ _ | .wait _ => true

/-- The turn without the bytes held and the records logged: what it told, published, sent and waits
for, in order, and all of its state. -/
def Turn.outward (turn : Turn α) : Turn α :=
  { synchronizer := turn.synchronizer.outward, effects := turn.effects.filter Effect.isOutward }

theorem Stage.outward_of_not_reading {stage : Stage}
    (other : ∀ url decoder, stage ≠ .reading url decoder) : stage.outward = stage := by
  cases stage with
  | reading url decoder => exact absurd rfl (other url decoder)
  | begun | listing _ | opening _ | resting => rfl

@[simp] theorem filter_isOutward_log (records : List LogRecord) :
    (records.map (Effect.log (α := α))).filter Effect.isOutward = [] := by
  induction records with
  | nil => rfl
  | cons record records ih => exact ih

/-- Logging makes no difference to an outlet. -/
theorem foldl_observe_outward (outlet : Outlet α) (effects : List (Effect α)) :
    (effects.filter Effect.isOutward).foldl Outlet.observe outlet =
      effects.foldl Outlet.observe outlet := by
  induction effects generalizing outlet with
  | nil => rfl
  | cons effect effects ih => cases effect <;> exact ih _

namespace Turn

theorem outward_advance (turn : Turn α) (phase : Phase) (run : Option (Run α))
    (effects : List (Effect α)) :
    (turn.advance phase run effects).outward =
      turn.outward.advance phase (run.map Run.outward) (effects.filter Effect.isOutward) := by
  simp only [outward, advance, List.filter_append, Synchronizer.outward]
  rw [foldl_observe_outward]

end Turn

/-! ## Taking lines -/

theorem Change.Idle.changeEffects [Resource α] {replica : Replica α} {change : Change α}
    (idle : change.Idle replica) {collection : String} :
    ListWatch.changeEffects collection replica change = [] := by
  cases change with
  | added _ | modified _ => exact idle.elim
  | deleted object => exact if_neg idle
  | bookmark _ | error _ | unknown _ => rfl

/-- A run that reads, and where. -/
theorem Synchronizer.exists_reading {synchronizer : Synchronizer α}
    (reading : synchronizer.isReading = true) :
    ∃ run url decoder, synchronizer.run = some run ∧ run.stage = .reading url decoder := by
  cases active : synchronizer.run with
  | none => simp [isReading, active] at reading
  | some run =>
    cases staged : run.stage with
    | reading url decoder => exact ⟨run, url, decoder, rfl, staged⟩
    | begun | listing _ | opening _ | resting => simp [isReading, active, staged] at reading

namespace Turn

/-- If the run reads, its replica is this one. -/
def ReadsAt (turn : Turn α) (replica : Replica α) : Prop :=
  ∀ run url decoder, turn.synchronizer.run = some run → run.stage = .reading url decoder →
    run.replica = replica

variable {turn : Turn α} {replica : Replica α}

theorem readsAt_of_not_reading (idle : turn.synchronizer.isReading = false) :
    turn.ReadsAt replica := by
  intro run url decoder active reading
  simp [Synchronizer.isReading, active, reading] at idle

variable [Resource α]

/-- The turn with one more result of a line. Only a run that reads takes it. -/
def absorb (turn : Turn α) (result : Except LineError (Change α)) : Turn α :=
  match turn.synchronizer.run with
  | none => turn
  | some run =>
    match run.stage, result with
    | .reading _ _, .ok change =>
      turn.advance turn.synchronizer.phase
        (some { run with replica := (run.replica.apply change).1 })
        ((changeEffects turn.collection run.replica change).filter Effect.isOutward)
    | .reading url _, .error error =>
      turn.advance .failed (some run.rested)
        ((turn.synchronizer.failureEffects run (WatchError.line url error).toFailure).filter
          Effect.isOutward)
    | _, _ => turn

def absorbAll (turn : Turn α) (results : List (Except LineError (Change α))) : Turn α :=
  results.foldl absorb turn

@[simp] theorem absorbAll_append (turn : Turn α)
    (first second : List (Except LineError (Change α))) :
    turn.absorbAll (first ++ second) = (turn.absorbAll first).absorbAll second :=
  List.foldl_append

variable {run : Run α} {url : String} {decoder : LineDecoder}

theorem absorb_ok (active : turn.synchronizer.run = some run)
    (reading : run.stage = .reading url decoder) (change : Change α) :
    turn.absorb (.ok change) =
      turn.advance turn.synchronizer.phase
        (some { run with replica := (run.replica.apply change).1 })
        ((changeEffects turn.collection run.replica change).filter Effect.isOutward) := by
  simp only [absorb, active, reading]

theorem absorb_error (active : turn.synchronizer.run = some run)
    (reading : run.stage = .reading url decoder) (error : LineError) :
    turn.absorb (.error error) =
      turn.advance .failed (some run.rested)
        ((turn.synchronizer.failureEffects run (WatchError.line url error).toFailure).filter
          Effect.isOutward) := by
  simp only [absorb, active, reading]

theorem absorb_of_not_reading (idle : turn.synchronizer.isReading = false)
    (result : Except LineError (Change α)) : turn.absorb result = turn := by
  cases active : turn.synchronizer.run with
  | none => simp only [absorb, active]
  | some run =>
    cases staged : run.stage with
    | reading url decoder => simp [Synchronizer.isReading, active, staged] at idle
    | begun | listing _ | opening _ | resting => simp only [absorb, active, staged]

theorem absorbAll_of_not_reading (idle : turn.synchronizer.isReading = false)
    (results : List (Except LineError (Change α))) : turn.absorbAll results = turn := by
  induction results with
  | nil => rfl
  | cons result results ih => rw [absorbAll, List.foldl_cons, absorb_of_not_reading idle]; exact ih

theorem absorb_idle {change : Change α} (reads : turn.ReadsAt replica)
    (idle : change.Idle replica) : turn.absorb (.ok change) = turn := by
  cases reading : turn.synchronizer.isReading with
  | false => exact absorb_of_not_reading reading _
  | true =>
    obtain ⟨run, url, decoder, active, staged⟩ := Synchronizer.exists_reading reading
    obtain rfl := reads run url decoder active staged
    have silent : changeEffects turn.collection run.replica change = [] := idle.changeEffects
    rw [absorb_ok active staged, silent, idle.apply]
    simp only [List.filter_nil, ← active]
    exact turn.advance_self

/-- A run that takes a line holds what comes of it, or reads no longer. -/
theorem ReadsAt.absorb_line (reads : turn.ReadsAt replica) (line : List UInt8) :
    (turn.absorbAll (lineResult? α line).toList).ReadsAt (replica.afterLine line) := by
  rw [Replica.afterLine]
  cases lineResult? α line with
  | none => exact reads
  | some result =>
    change (turn.absorb result).ReadsAt _
    cases reading : turn.synchronizer.isReading with
    | false =>
      rw [absorb_of_not_reading reading]
      exact readsAt_of_not_reading reading
    | true =>
      obtain ⟨run, url, decoder, active, staged⟩ := Synchronizer.exists_reading reading
      obtain rfl := reads run url decoder active staged
      cases result with
      | ok change =>
        rw [absorb_ok active staged]
        rintro _ _ _ ⟨⟩ _
        rfl
      | error error =>
        rw [absorb_error active staged]
        rintro _ _ _ ⟨⟩ ⟨⟩

end Turn

/-- Noise is not seen by whoever absorbs a stream. -/
theorem SameButNoise.absorbAll [Resource α] {replica : Replica α} {first second : List UInt8}
    (same : SameButNoise replica first second) {turn : Turn α} (reads : turn.ReadsAt replica) :
    turn.absorbAll (streamResults α first) = turn.absorbAll (streamResults α second) := by
  have unseen {turn : Turn α} {replica : Replica α} {line : List UInt8}
      (reads : turn.ReadsAt replica) (noise : Noise replica line) :
      turn.absorbAll (lineResult? α line).toList = turn := by
    cases found : lineResult? α line with
    | none => rfl
    | some result =>
      obtain ⟨change, rfl, idle⟩ := noise result found
      exact Turn.absorb_idle reads idle
  induction same generalizing turn with
  | nil => rfl
  | line unfed _ ih =>
    rw [streamResults_line unfed, streamResults_line unfed, Turn.absorbAll_append,
      Turn.absorbAll_append]
    exact ih (reads.absorb_line _)
  | left unfed noise _ ih =>
    rw [streamResults_line unfed, Turn.absorbAll_append, unseen reads noise]
    exact ih reads
  | right unfed noise _ ih =>
    rw [streamResults_line unfed, Turn.absorbAll_append, unseen reads noise]
    exact ih reads

/-! ## Reading -/

namespace LineDecoder

variable (α : Type) [Resource α]

/-- The bytes taken by whoever asks for the next change. -/
def passed (decoder : LineDecoder) : List UInt8 :=
  decoder.pending.take (decoder.pending.length - (decoder.next α).2.pending.length)

theorem closed_passed (decoder : LineDecoder) :
    Closed (decoder.passed α) ∧
      streamResults α (decoder.passed α) = (decoder.next α).1.toList := by
  obtain ⟨gone, whole, closed, returned⟩ := (decoder.hasRead_pending (α := α)).next.1
  have taken : decoder.passed α = gone := by
    rw [passed, whole, List.length_append, Nat.add_sub_cancel, List.take_left]
  rw [taken]
  exact ⟨closed, returned.symm⟩

end LineDecoder

namespace Synchronizer

/-- Whether an act is one of reading a stream. -/
def reads (synchronizer : Synchronizer α) : Act → Bool
  | .step _ .proceed => synchronizer.isReading
  | .step _ (.body (.chunk _)) => true
  | _ => false

/-- The bytes taken by an act of reading. -/
def passed [Resource α] (synchronizer : Synchronizer α) : List UInt8 :=
  match synchronizer.run.map Run.stage with
  | some (.reading _ decoder) => decoder.passed α
  | _ => []

theorem passed_eq [Resource α] {synchronizer : Synchronizer α} {run : Run α} {url : String}
    {decoder : LineDecoder} (active : synchronizer.run = some run)
    (reading : run.stage = .reading url decoder) :
    synchronizer.passed = decoder.passed α := by
  simp only [passed, active, Option.map_some, reading]

theorem closed_passed [Resource α] (synchronizer : Synchronizer α) :
    Closed synchronizer.passed := by
  unfold passed
  split
  · exact (LineDecoder.closed_passed α _).1
  · exact Or.inl rfl

end Synchronizer

/-- Only a run that reads can heed an act of reading. -/
theorem Deed.of_reads [Resource α] {synchronizer : Synchronizer α} {act : Act} {phase : Phase}
    {next : Option (Run α)} {effects : List (Effect α)}
    (deed : Deed synchronizer act phase next effects) (reads : synchronizer.reads act = true) :
    ∃ credential signal run after url decoder, act = .step credential signal ∧ next = some after ∧
      synchronizer.run = some run ∧ run.stage = .reading url decoder ∧
      Passage synchronizer credential run signal phase after effects := by
  cases deed with
  | started _ | startedAgain _ | stopped _ | stoppedIdle _ _ | stoppedAgain _ _ => cases reads
  | @stepped credential signal run _ after _ active passage =>
    -- Only a watch that is being read has a use for a chunk.
    have reading : ∃ url decoder, run.stage = .reading url decoder := by
      cases signal with
      | proceed =>
        obtain ⟨_, url, decoder, active', staged⟩ := Synchronizer.exists_reading reads
        cases active.symm.trans active'
        exact ⟨url, decoder, staged⟩
      | body item =>
        cases item with
        | chunk bytes =>
          cases passage with
          | fed staged _ => exact ⟨_, _, staged⟩
          | failed breaks =>
            generalize run.stage = stage at breaks
            cases breaks with
            | list given _ => cases given
          | asked resumes _ | unasked resumes _ =>
            generalize run.stage = stage at resumes
            cases resumes
          | listed _ given _ _ | unwatched _ given _ _ => cases given
        | failed _ | ended => cases reads
      | answered _ | opened _ | elapsed => cases reads
    obtain ⟨url, decoder, staged⟩ := reading
    exact ⟨credential, signal, run, after, url, decoder, rfl, rfl, active, staged, passage⟩

namespace Turn

variable [Resource α] {turn next : Turn α} {act : Act}

/-- What a run that reads shows once it has read is what showed before, with the lines taken. -/
theorem outward_of_reads (coherent : turn.synchronizer.Coherent)
    (reads : turn.synchronizer.reads act = true) (followed : turn.follow act = some next) :
    next.outward = turn.outward.absorbAll (streamResults α turn.synchronizer.passed) := by
  obtain ⟨phase, _, effects, rfl, deed⟩ := Synchronizer.follow_deed coherent followed
  obtain ⟨credential, signal, run, after, url, decoder, rfl, rfl, active, staged, passage⟩ :=
    deed.of_reads reads
  have watching := coherent.fits active
  rw [staged] at watching
  have shows : turn.outward.synchronizer.run = some run.outward := by
    simp [outward, Synchronizer.outward, active]
  have reading : run.outward.stage = .reading url {} := by rw [Run.outward, staged]; rfl
  rw [Synchronizer.passed_eq active staged, (LineDecoder.closed_passed α decoder).2,
    outward_advance]
  cases passage with
  | applied staged' taken =>
    cases staged.symm.trans staged'
    rw [taken, List.filter_append, filter_isOutward_log, List.nil_append]
    refine Eq.trans ?_ (absorb_ok shows reading _).symm
    rw [reading, show turn.outward.synchronizer.phase = .watching from watching.1]
    rfl
  | @fed _ _ bytes rest staged' taken =>
    cases staged.symm.trans staged'
    rw [taken]
    -- Bytes that are held show nowhere.
    have same : Run.outward { run with stage := .reading url (rest.feed bytes) } = run.outward := by
      rw [Run.outward, Run.outward, staged]
      rfl
    have phase : turn.outward.synchronizer.phase = .watching := watching.1
    rw [Option.map_some, same, ← shows, ← phase]
    exact advance_self _
  | failed breaks =>
    rw [staged] at breaks
    cases breaks with
    | line taken =>
      rw [taken]
      exact (absorb_error shows reading _).symm
    | stream _ | closed _ => cases reads
  | opened staged' _ | listed staged' _ _ _ | unwatched staged' _ _ _ =>
    cases staged.symm.trans staged'
  | asked resumes _ | unasked resumes _ =>
    rw [staged] at resumes
    cases resumes

end Turn

/-! ## Leaving off -/

namespace Turn

/-- The turn once a run that reads did what is no reading. -/
def leaveOff (turn : Turn α) (run : Run α) (url : String) : Act → Turn α
  | .stop =>
    turn.advance .stopped none
      (.publish .empty :: (phaseEffects turn.collection .stopped).filter Effect.isOutward)
  | .step _ (.body (.failed error)) =>
    turn.advance .failed (some run.rested)
      ((turn.synchronizer.failureEffects run (WatchError.stream url error).toFailure).filter
        Effect.isOutward)
  | .step _ (.body .ended) =>
    turn.advance .failed (some run.rested)
      ((turn.synchronizer.failureEffects run (closedFailure turn.collection)).filter
        Effect.isOutward)
  | _ => turn

variable [Resource α] {turn next : Turn α} {act : Act} {run : Run α} {url : String}
  {decoder : LineDecoder}

/-- What a run that reads shows once it did anything else depends on what showed before. -/
theorem outward_of_not_reads (coherent : turn.synchronizer.Coherent)
    (active : turn.synchronizer.run = some run) (staged : run.stage = .reading url decoder)
    (other : turn.synchronizer.reads act = false) (followed : turn.follow act = some next) :
    next.outward = turn.outward.leaveOff run.outward url act := by
  obtain ⟨phase, after, effects, rfl, deed⟩ := Synchronizer.follow_deed coherent followed
  have shows : turn.outward.synchronizer.run = some run.outward := by
    simp [outward, Synchronizer.outward, active]
  rw [outward_advance]
  cases deed with
  | started inactive | stoppedIdle inactive _ | stoppedAgain inactive _ =>
    cases active.symm.trans inactive
  | startedAgain active' =>
    cases active.symm.trans active'
    rw [← active]
    exact advance_self turn.outward
  | stopped active' =>
    cases active.symm.trans active'
    rw [Synchronizer.lastEffects, staged]
    rfl
  | stepped active' passage =>
    cases active.symm.trans active'
    cases passage with
    | applied _ _ => simp [Synchronizer.reads, Synchronizer.isReading, active, staged] at other
    | fed _ _ => cases other
    | failed breaks =>
      rw [staged] at breaks
      cases breaks with
      | line _ => simp [Synchronizer.reads, Synchronizer.isReading, active, staged] at other
      | stream _ => rfl
      | closed _ => rfl
    | opened staged' _ | listed staged' _ _ _ | unwatched staged' _ _ _ =>
      cases staged.symm.trans staged'
    | asked resumes _ | unasked resumes _ =>
      rw [staged] at resumes
      cases resumes

end Turn

namespace Synchronizer

variable {synchronizer : Synchronizer α}

/-- Where no stream is read everything shows. -/
theorem outward_of_not_reading (idle : synchronizer.isReading = false) :
    synchronizer.outward = synchronizer := by
  have same : synchronizer.run.map Run.outward = synchronizer.run := by
    cases active : synchronizer.run with
    | none => rfl
    | some run =>
      have other : ∀ url decoder, run.stage ≠ .reading url decoder := by
        intro url decoder staged
        simp [isReading, active, staged] at idle
      rw [Option.map_some, Run.outward, Stage.outward_of_not_reading other]
  rw [outward, same]

theorem isReading_outward (synchronizer : Synchronizer α) :
    synchronizer.outward.isReading = synchronizer.isReading := by
  cases active : synchronizer.run with
  | none => simp [isReading, outward, active]
  | some run =>
    cases staged : run.stage <;>
      simp [isReading, outward, active, Run.outward, Stage.outward, staged]

variable {first second : Synchronizer α} (shows : first.outward = second.outward)
include shows

theorem isReading_eq_of_outward_eq : first.isReading = second.isReading := by
  rw [← isReading_outward, shows, isReading_outward]

theorem reads_eq_of_outward_eq (act : Act) : first.reads act = second.reads act := by
  unfold reads
  split
  · exact isReading_eq_of_outward_eq shows
  · rfl
  · rfl

theorem eq_of_outward_eq (idle : first.isReading = false) : first = second := by
  have idle' : second.isReading = false := (isReading_eq_of_outward_eq shows).symm.trans idle
  rwa [outward_of_not_reading idle, outward_of_not_reading idle'] at shows

end Synchronizer

namespace Turn

variable [Resource α] {first second first' second' : Turn α} {act : Act}

/-- Turns that show the same, and then do the same but no reading, show the same. -/
theorem outward_eq_of_follow (shows : first.outward = second.outward)
    (left : first.synchronizer.Coherent) (right : second.synchronizer.Coherent)
    (other : first.synchronizer.reads act = false) (before : first.follow act = some first')
    (after : second.follow act = some second') : first'.outward = second'.outward := by
  have synchronizers : first.synchronizer.outward = second.synchronizer.outward :=
    congrArg Turn.synchronizer shows
  have readings := Synchronizer.isReading_eq_of_outward_eq synchronizers
  cases reading : first.synchronizer.isReading with
  | true =>
    obtain ⟨run, url, decoder, active, staged⟩ := Synchronizer.exists_reading reading
    obtain ⟨run', url', decoder', active', staged'⟩ :=
      Synchronizer.exists_reading (readings.symm.trans reading)
    have runs : run.outward = run'.outward := by
      simpa [Synchronizer.outward, active, active'] using congrArg Synchronizer.run synchronizers
    have urls : url = url' := by
      simpa [Run.outward, Stage.outward, staged, staged'] using congrArg Run.stage runs
    have other' := (Synchronizer.reads_eq_of_outward_eq synchronizers act).symm.trans other
    rw [outward_of_not_reads left active staged other before,
      outward_of_not_reads right active' staged' other' after, shows, runs, urls]
  | false =>
    -- Nothing but the records logged may differ, and they make no difference to an act.
    have same := Synchronizer.eq_of_outward_eq synchronizers reading
    obtain ⟨acted, did, rfl⟩ := Option.map_eq_some_iff.mp before
    rw [follow, ← same, did] at after
    cases after
    have told := congrArg Turn.effects shows
    simp only [outward] at told
    simp only [outward, List.filter_append, told]

variable {turn next : Turn α}

/-- A run reads because its watch was opened, or because it did before and nothing was done. -/
theorem opened_or_outward_eq (coherent : turn.synchronizer.Coherent)
    (other : turn.synchronizer.reads act = false) (followed : turn.follow act = some next)
    (reading : next.synchronizer.isReading = true) :
    (∃ credential answer, act = .step credential (.opened answer)) ∨
      next.outward = turn.outward := by
  obtain ⟨phase, after, effects, rfl, deed⟩ := Synchronizer.follow_deed coherent followed
  cases deed with
  | started _ | stopped _ | stoppedIdle _ _ | stoppedAgain _ _ => cases reading
  | startedAgain active =>
    right
    rw [outward_advance, ← active]
    exact advance_self turn.outward
  | stepped active passage =>
    cases passage with
    | opened _ _ => exact Or.inl ⟨_, _, rfl⟩
    | asked _ _ | unasked _ _ | listed _ _ _ _ | unwatched _ _ _ _ | failed _ => cases reading
    | applied staged _ => simp [Synchronizer.reads, Synchronizer.isReading, active, staged] at other
    | fed _ _ => cases other

omit [Resource α] in
/-- A run that reads holds what observers see. -/
theorem readsAt_snapshot (coherent : turn.synchronizer.Coherent) :
    turn.outward.ReadsAt turn.synchronizer.snapshot := by
  intro run url decoder shows _
  obtain ⟨hidden, active, rfl⟩ := Option.map_eq_some_iff.mp shows
  exact (coherent.snapshot active).symm

/-- A turn that shows the same may do the same, or has a line to take first. -/
theorem follow_of_outward_eq (shows : first.outward = second.outward)
    (other : first.synchronizer.reads act = false) (before : (first.follow act).isSome) :
    (second.follow act).isSome ∨
      second.synchronizer.isReading = true ∧
        ∀ credential, (second.follow (.step credential .proceed)).isSome := by
  have synchronizers : first.synchronizer.outward = second.synchronizer.outward :=
    congrArg Turn.synchronizer shows
  have readings := Synchronizer.isReading_eq_of_outward_eq synchronizers
  cases reading : first.synchronizer.isReading with
  | false =>
    left
    simpa [follow, ← Synchronizer.eq_of_outward_eq synchronizers reading] using before
  | true =>
    obtain ⟨run, url, decoder, active, staged⟩ := Synchronizer.exists_reading reading
    obtain ⟨run', url', decoder', active', staged'⟩ :=
      Synchronizer.exists_reading (readings.symm.trans reading)
    -- The second may hold a line that the first has not got yet; what ends a watch waits for it.
    rcases taken : decoder'.next α with ⟨_ | result, rest⟩
    · left
      cases act with
      | start | stop => rfl
      | step credential signal =>
        cases signal with
        | body item =>
          simp [follow, Synchronizer.act, Synchronizer.step, active', staged', onSignal, taken]
        | proceed => cases reading.symm.trans other
        | answered _ | opened _ | elapsed =>
          simp [follow, Synchronizer.act, Synchronizer.step, active, staged, onSignal] at before
    · refine Or.inr ⟨readings.symm.trans reading, fun credential => ?_⟩
      simp [follow, Synchronizer.act, Synchronizer.step, active', staged', onSignal, taken]

end Turn

end ListWatch
