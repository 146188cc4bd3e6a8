import ListWatch.Proofs.Synchronizer.Turn

/-!
# Passages of a run

Between two turns a run waits at a stage, and the stage tells the phase and the
freshness of the replica, which is the snapshot observers see. Under this invariant
every move of the phase is granted, and a step of the run is one of eight passages:
it asks for a list or cannot, takes a list over and opens the watch or cannot, reads
the stream that was opened, takes a line, is given bytes, or fails. The invariant is
kept by every passage, by starting and by stopping.
-/
namespace ListWatch

variable {α : Type}

/-! ## Coherence -/

/-- What the stage of a run says of the phase and of the replica. -/
def Stage.Fits (phase : Phase) (replica : Replica α) : Stage → Prop
  | .begun => phase = .syncing ∧ replica = .empty
  | .listing _ => phase = .syncing ∧ replica.freshness = .syncing
  | .opening _ | .reading _ _ => phase = .watching ∧ replica.freshness = .synced
  | .resting => phase = .failed ∧ replica.freshness = .syncing

namespace Synchronizer

/-- Observers see the replica of the run, whose stage fits the phase; without a run they see
nothing. -/
def Coherent (synchronizer : Synchronizer α) : Prop :=
  match synchronizer.run with
  | some run => synchronizer.snapshot = run.replica ∧ run.stage.Fits synchronizer.phase run.replica
  | none =>
    synchronizer.snapshot = .empty ∧
      (synchronizer.phase = .idle ∨ synchronizer.phase = .stopped)

theorem coherent_create (client : Client) (options : Options) :
    (create client options : Synchronizer α).Coherent := ⟨rfl, Or.inl rfl⟩

variable {synchronizer : Synchronizer α} {run : Run α}

theorem Coherent.snapshot (coherent : synchronizer.Coherent) (active : synchronizer.run = some run) :
    synchronizer.snapshot = run.replica := by
  rw [Coherent, active] at coherent
  exact coherent.1

theorem Coherent.fits (coherent : synchronizer.Coherent) (active : synchronizer.run = some run) :
    run.stage.Fits synchronizer.phase run.replica := by
  rw [Coherent, active] at coherent
  exact coherent.2

theorem Coherent.inactive (coherent : synchronizer.Coherent) (inactive : synchronizer.run = none) :
    synchronizer.snapshot = .empty ∧
      (synchronizer.phase = .idle ∨ synchronizer.phase = .stopped) := by
  rw [Coherent, inactive] at coherent
  exact coherent

end Synchronizer

/-! ## Passages -/

/-- The answer to a list that a signal stands for. A list that takes too long is given up. -/
def Signal.answer? (client : Client) : Signal → Option (Except TransportError Response)
  | .answered answer => some answer
  | .elapsed => some (.error client.listTimedOut)
  | .proceed | .opened _ | .body _ => none

/-- What is logged of an answer. -/
def answerRecords : Except TransportError Response → List LogRecord
  | .ok response => response.records
  | .error _ => []

/-- The failure that the end of a stream is. -/
def closedFailure (collection : String) : Failure :=
  { category := .transport, code := "watch_closed"
    message := "watch on " ++ collection ++ " closed by server" }

/-- How a run comes to ask for a list, and what observers are told of that. -/
inductive Resumes (collection : String) : Stage → Signal → List (Effect α) → Prop where
  | begin : Resumes collection .begun .proceed []
  | retry : Resumes collection .resting .elapsed (phaseEffects collection .syncing)

/-- How what a run waits for fails it, what is logged before, and the reason. -/
inductive Breaks [Resource α] (synchronizer : Synchronizer α) :
    Stage → Signal → List LogRecord → Failure → Prop where
  | list {request answer signal error} :
      signal.answer? synchronizer.client = some answer →
      request.conclude (ObjectList.decode α) answer = .error error →
      Breaks synchronizer (.listing request) signal (answerRecords answer) error.toFailure
  | opening {request answer error} :
      openingError? request.url.render answer = some error →
      Breaks synchronizer (.opening request) (.opened answer) [] error.toFailure
  | line {url decoder error rest} :
      decoder.next α = (some (.error error), rest) →
      Breaks synchronizer (.reading url decoder) .proceed [] (WatchError.line url error).toFailure
  | stream {url decoder error rest} :
      decoder.next α = (none, rest) →
      Breaks synchronizer (.reading url decoder) (.body (.failed error)) []
        (WatchError.stream url error).toFailure
  | closed {url decoder rest} :
      decoder.next α = (none, rest) →
      Breaks synchronizer (.reading url decoder) (.body .ended) [closedRecord url]
        (closedFailure synchronizer.collection)

/-- What a step of a run comes to: the phase, the run, and the effects. -/
inductive Passage [Resource α] (synchronizer : Synchronizer α) (credential : Credential)
    (run : Run α) : Signal → Phase → Run α → List (Effect α) → Prop where
  | asked {signal opening request} :
      Resumes synchronizer.collection run.stage signal opening →
      synchronizer.client.request credential (.list : Call α) = .ok request →
      Passage synchronizer credential run signal .syncing
        { run.relisting with stage := .listing request }
        (opening ++ .publish run.relisting.replica :: synchronizer.askEffects request)
  | unasked {signal opening error} :
      Resumes synchronizer.collection run.stage signal opening →
      synchronizer.client.request credential (.list : Call α) = .error error →
      Passage synchronizer credential run signal .failed run.relisting.rested
        (opening ++ .publish run.relisting.replica ::
          synchronizer.failureEffects run.relisting error.toFailure)
  | listed {request answer signal list watch} :
      run.stage = .listing request →
      signal.answer? synchronizer.client = some answer →
      request.conclude (ObjectList.decode α) answer = .ok list →
      synchronizer.client.watchRequest credential list.resourceVersion = .ok watch →
      Passage synchronizer credential run signal .watching
        { run.relisted list with stage := .opening watch }
        ((answerRecords answer).map .log ++
          (synchronizer.listEffects run list ++ Synchronizer.watchEffects watch))
  | unwatched {request answer signal list error} :
      run.stage = .listing request →
      signal.answer? synchronizer.client = some answer →
      request.conclude (ObjectList.decode α) answer = .ok list →
      synchronizer.client.watchRequest credential list.resourceVersion = .error error →
      Passage synchronizer credential run signal .failed (run.relisted list).rested
        ((answerRecords answer).map .log ++
          (synchronizer.listEffects run list ++
            synchronizer.failureEffects (run.relisted list) error.toFailure))
  | opened {request answer} :
      run.stage = .opening request →
      openingError? request.url.render answer = none →
      Passage synchronizer credential run (.opened answer) .watching
        { run with stage := .reading request.url.render {} } []
  | applied {url decoder change rest} :
      run.stage = .reading url decoder →
      decoder.next α = (some (.ok change), rest) →
      Passage synchronizer credential run .proceed .watching
        { run with replica := (run.replica.apply change).1, stage := .reading url rest }
        ((Turn.remarks synchronizer.collection change).map .log ++
          changeEffects synchronizer.collection run.replica change)
  | fed {url decoder bytes rest} :
      run.stage = .reading url decoder →
      decoder.next α = (none, rest) →
      Passage synchronizer credential run (.body (.chunk bytes)) .watching
        { run with stage := .reading url (rest.feed bytes) } []
  | failed {signal records failure} :
      Breaks synchronizer run.stage signal records failure →
      Passage synchronizer credential run signal .failed run.rested
        (records.map .log ++ synchronizer.failureEffects run failure)

namespace Synchronizer

variable [Resource α] {synchronizer : Synchronizer α} {credential : Credential} {signal : Signal}
  {turn : Turn α}

/-- The turn in which nothing has been done yet. -/
abbrev unmoved (synchronizer : Synchronizer α) : Turn α := { synchronizer }

/-- A turn that is a passage of the run. -/
def PassesTo (synchronizer : Synchronizer α) (credential : Credential) (run : Run α)
    (signal : Signal) (turn : Turn α) : Prop :=
  ∃ phase next effects, turn = synchronizer.unmoved.advance phase (some next) effects ∧
    Passage synchronizer credential run signal phase next effects

variable {run : Run α}

private theorem list_passes {opening : List (Effect α)}
    (resumes : Resumes synchronizer.collection run.stage signal opening) :
    synchronizer.PassesTo credential run signal
      ((synchronizer.unmoved.advance .syncing synchronizer.run opening).list credential run) := by
  cases made : synchronizer.client.request credential (.list : Call α) with
  | ok request =>
    refine ⟨_, _, _, ?_, .asked resumes made⟩
    rw [Turn.list_ok (by exact made), Turn.advance_advance]
    rfl
  | error error =>
    refine ⟨_, _, _, ?_, .unasked resumes made⟩
    rw [Turn.list_error (by exact made) rfl, Turn.advance_advance]
    rfl

private theorem fail_passes {records : List LogRecord} {failure : Failure}
    (breaks : Breaks synchronizer run.stage signal records failure)
    (granted : synchronizer.phase.move .failed = .ok .failed)
    (logged : turn = synchronizer.unmoved.advance synchronizer.phase synchronizer.run
      (records.map .log)) :
    synchronizer.PassesTo credential run signal (turn.fail run failure) := by
  subst logged
  refine ⟨_, _, _, ?_, .failed breaks⟩
  rw [Turn.fail_granted (by exact granted), Turn.advance_advance]
  rfl

private theorem answered_passes {request : Request} {answer : Except TransportError Response}
    (listing : run.stage = .listing request)
    (given : signal.answer? synchronizer.client = some answer)
    (syncing : synchronizer.phase = .syncing) :
    synchronizer.PassesTo credential run signal
      (synchronizer.unmoved.answered credential run request answer) := by
  cases concluded : request.conclude (ObjectList.decode α) answer with
  | error error =>
    have breaks : Breaks synchronizer run.stage signal (answerRecords answer) error.toFailure :=
      listing ▸ .list given concluded
    simp only [Turn.answered, concluded, Turn.records_eq]
    exact fail_passes breaks (by rw [syncing]; rfl) rfl
  | ok list =>
    have granted : synchronizer.phase.move .listed = .ok .watching := by rw [syncing]; rfl
    simp only [Turn.answered, concluded, Turn.records_eq]
    rw [Turn.listed_granted (by exact granted)]
    cases made : synchronizer.client.watchRequest credential list.resourceVersion with
    | ok watch =>
      refine ⟨_, _, _, ?_, .listed listing given concluded made⟩
      rw [Turn.watch_ok (by exact made), Turn.advance_advance, Turn.advance_advance]
      rfl
    | error error =>
      refine ⟨_, _, _, ?_, .unwatched listing given concluded made⟩
      rw [Turn.watch_error (by exact made) rfl, Turn.advance_advance, Turn.advance_advance]
      rfl

/-- A step of a coherent synchronizer is a passage of its run. -/
theorem step_passes (coherent : synchronizer.Coherent)
    (stepped : synchronizer.step credential signal = some turn) :
    ∃ run, synchronizer.run = some run ∧
      synchronizer.PassesTo credential run signal turn := by
  obtain ⟨run, active, acted⟩ := Option.bind_eq_some_iff.mp stepped
  refine ⟨run, active, ?_⟩
  have fits := coherent.fits active
  have unmoved : synchronizer.unmoved =
      synchronizer.unmoved.advance synchronizer.phase synchronizer.run [] :=
    (Turn.advance_self _).symm
  -- The stage decides which signals are waited for, and its phase which moves are granted.
  cases stage : run.stage with
  | begun =>
    rw [stage] at fits acted
    cases signal <;> simp only [Turn.onSignal, Option.some.injEq, reduceCtorEq] at acted
    subst acted
    have resumes : Resumes synchronizer.collection run.stage .proceed ([] : List (Effect α)) :=
      stage ▸ .begin
    have passes : synchronizer.PassesTo credential run .proceed _ := list_passes resumes
    rw [← fits.1, ← unmoved] at passes
    exact passes
  | listing request =>
    rw [stage] at fits acted
    cases signal <;> simp only [Turn.onSignal, Option.some.injEq, reduceCtorEq] at acted <;>
      subst acted
    · exact answered_passes stage rfl fits.1
    · exact answered_passes stage rfl fits.1
  | opening request =>
    rw [stage] at fits acted
    cases signal <;> simp only [Turn.onSignal, Option.some.injEq, reduceCtorEq] at acted
    subst acted
    rename_i answer
    cases outcome : openingError? request.url.render answer with
    | some error =>
      have breaks : Breaks synchronizer run.stage (.opened answer) [] error.toFailure :=
        stage ▸ .opening outcome
      simp only [Turn.opened, outcome]
      exact fail_passes breaks (by rw [fits.1]; rfl) unmoved
    | none =>
      refine ⟨_, _, _, ?_, .opened stage outcome⟩
      simp only [Turn.opened, outcome, Turn.setRun_eq, fits.1]
  | reading url decoder =>
    rw [stage] at fits acted
    have granted : synchronizer.phase.move .failed = .ok .failed := by rw [fits.1]; rfl
    rcases taken : decoder.next α with ⟨_ | result, rest⟩
    -- Without a whole line only the body is waited for.
    · cases signal <;> simp only [Turn.onSignal, taken, Option.some.injEq, reduceCtorEq] at acted
      subst acted
      rename_i item
      cases item with
      | chunk bytes =>
        refine ⟨_, _, _, ?_, .fed stage taken⟩
        simp only [Turn.body, Turn.setRun_eq, fits.1]
      | failed error =>
        have breaks : Breaks synchronizer run.stage (.body (.failed error)) []
            (WatchError.stream url error).toFailure := stage ▸ .stream taken
        exact fail_passes breaks granted unmoved
      | ended =>
        have breaks : Breaks synchronizer run.stage (.body .ended) [closedRecord url]
            (closedFailure synchronizer.collection) := stage ▸ .closed taken
        exact fail_passes breaks granted (Turn.perform_eq _ _)
    -- A whole line is taken before the body is asked again.
    · cases signal <;> simp only [Turn.onSignal, taken, Option.some.injEq, reduceCtorEq] at acted
      subst acted
      cases result with
      | error error =>
        have breaks : Breaks synchronizer run.stage .proceed []
            (WatchError.line url error).toFailure := stage ▸ .line taken
        exact fail_passes breaks granted unmoved
      | ok change =>
        refine ⟨_, _, _, ?_, .applied stage taken⟩
        simp only [Turn.line, Turn.apply_eq, fits.1]
        rfl
  | resting =>
    rw [stage] at fits acted
    cases signal <;> simp only [Turn.onSignal, Option.some.injEq, reduceCtorEq] at acted
    subst acted
    have resumes : Resumes synchronizer.collection run.stage .elapsed
        (phaseEffects (α := α) synchronizer.collection .syncing) := stage ▸ .retry
    have granted : synchronizer.phase.move .retry = .ok .syncing := by rw [fits.1]; rfl
    rw [Turn.move_granted (by exact granted)]
    exact list_passes resumes

end Synchronizer

/-! ## What passages keep -/

theorem shown_failureEffects (before : Snapshot α) (synchronizer : Synchronizer α)
    (run : Run α) (failure : Failure) :
    shown before (synchronizer.failureEffects run failure) = run.rested.replica := rfl

theorem Resumes.shown {collection : String} {stage : Stage} {signal : Signal}
    {opening : List (Effect α)} (resumes : Resumes collection stage signal opening)
    (before : Snapshot α) : ListWatch.shown before opening = before := by
  cases resumes <;> rfl

@[simp] theorem notices_phaseEffects (collection : String) (phase : Phase) :
    notices (phaseEffects (α := α) collection phase) = [.phaseChanged collection phase] := rfl

@[simp] theorem notices_failureEffects (synchronizer : Synchronizer α) (run : Run α)
    (failure : Failure) :
    notices (synchronizer.failureEffects run failure) =
      [.phaseChanged synchronizer.collection .failed,
        .failure synchronizer.collection failure (synchronizer.delay run)] := rfl

@[simp] theorem notices_listEffects (synchronizer : Synchronizer α) (run : Run α)
    (list : ObjectList α) :
    notices (synchronizer.listEffects run list) =
      [.resynced synchronizer.collection list.resourceVersion list.items.length,
        .phaseChanged synchronizer.collection .watching] := rfl

@[simp] theorem notices_askEffects (synchronizer : Synchronizer α) (request : Request) :
    notices (synchronizer.askEffects request) = [] := rfl

@[simp] theorem notices_watchEffects (request : Request) :
    notices (Synchronizer.watchEffects (α := α) request) = [] := rfl

@[simp] theorem not_published_mem_phaseEffects (snapshot : Snapshot α) (collection : String)
    (phase : Phase) : .publish snapshot ∉ phaseEffects collection phase := by
  simp [phaseEffects]

@[simp] theorem published_mem_failureEffects {snapshot : Snapshot α}
    {synchronizer : Synchronizer α} {run : Run α} {failure : Failure} :
    .publish snapshot ∈ synchronizer.failureEffects run failure ↔
      snapshot = run.rested.replica := by
  simp [Synchronizer.failureEffects]

@[simp] theorem published_mem_listEffects {snapshot : Snapshot α} {synchronizer : Synchronizer α}
    {run : Run α} {list : ObjectList α} :
    .publish snapshot ∈ synchronizer.listEffects run list ↔
      snapshot = (run.relisted list).replica := by
  simp [Synchronizer.listEffects]

@[simp] theorem not_published_mem_askEffects (snapshot : Snapshot α)
    (synchronizer : Synchronizer α) (request : Request) :
    .publish snapshot ∉ synchronizer.askEffects request := by
  simp [Synchronizer.askEffects]

@[simp] theorem not_published_mem_watchEffects (snapshot : Snapshot α) (request : Request) :
    .publish snapshot ∉ Synchronizer.watchEffects request := by
  simp [Synchronizer.watchEffects]

theorem Resumes.mem_notices {collection : String} {stage : Stage} {signal : Signal}
    {opening : List (Effect α)} (resumes : Resumes collection stage signal opening)
    {notice : Notice} (told : notice ∈ notices opening) :
    notice = .phaseChanged collection .syncing := by
  cases resumes with
  | begin => cases told
  | retry => exact List.mem_singleton.mp told

theorem Resumes.not_published_mem {collection : String} {stage : Stage} {signal : Signal}
    {opening : List (Effect α)} (resumes : Resumes collection stage signal opening)
    (snapshot : Snapshot α) : .publish snapshot ∉ opening := by
  cases resumes <;> simp

variable [Resource α]

theorem shown_changeEffects (collection : String) (replica : Replica α) (change : Change α) :
    shown replica (changeEffects collection replica change) = (replica.apply change).1 := by
  cases change with
  | added object => rfl
  | modified object =>
    by_cases held : Resource.key object ∈ replica.keys
    · rw [changeEffects, if_pos held]
      rfl
    · rw [changeEffects, if_neg held, replica.apply_modified_of_not_mem held]
      rfl
  | deleted object =>
    by_cases held : Resource.key object ∈ replica.keys
    · rw [changeEffects, if_pos held]
      rfl
    · rw [changeEffects, if_neg held, replica.apply_deleted_of_not_mem held]
      rfl
  | bookmark _ => rfl
  | error _ => rfl
  | unknown _ => rfl

/-- A notice of a change that was handled. -/
def Notice.isChange : Notice → Bool
  | .applied _ _ _ _ | .anomaly _ _ _ _ => true
  | .phaseChanged _ _ | .resynced _ _ _ | .failure _ _ _ => false

/-- A change is told as applied, or contradicts the replica, or makes no difference. It contradicts
the replica when it modifies what is not held. -/
theorem notices_changeEffects (collection : String) (replica : Replica α) (change : Change α) :
    notices (changeEffects collection replica change) = [] ∨
    (∃ kind key outcome, notices (changeEffects collection replica change) =
      [.applied collection kind key outcome]) ∨
    ∃ object, change = .modified object ∧ Resource.key object ∉ replica.keys ∧
      notices (changeEffects collection replica change) =
        [.anomaly collection .modified (some (Resource.key object)) Turn.notHeld] := by
  cases change with
  | added object => exact Or.inr (Or.inl ⟨_, _, _, rfl⟩)
  | modified object =>
    by_cases held : Resource.key object ∈ replica.keys
    · rw [changeEffects, if_pos held]
      exact Or.inr (Or.inl ⟨_, _, _, rfl⟩)
    · rw [changeEffects, if_neg held]
      exact Or.inr (Or.inr ⟨object, rfl, held, rfl⟩)
  | deleted object =>
    by_cases held : Resource.key object ∈ replica.keys
    · rw [changeEffects, if_pos held]
      exact Or.inr (Or.inl ⟨_, _, _, rfl⟩)
    · rw [changeEffects, if_neg held]
      exact Or.inl rfl
  | bookmark _ => exact Or.inl rfl
  | error _ => exact Or.inl rfl
  | unknown _ => exact Or.inl rfl

theorem mem_notices_changeEffects {collection : String} {replica : Replica α} {change : Change α}
    {notice : Notice} (told : notice ∈ notices (changeEffects collection replica change)) :
    (∃ kind key outcome, notice = .applied collection kind key outcome) ∨
      ∃ object, change = .modified object ∧ Resource.key object ∉ replica.keys ∧
        notice = .anomaly collection .modified (some (Resource.key object)) Turn.notHeld := by
  rcases notices_changeEffects collection replica change with
    none | ⟨kind, key, outcome, one⟩ | ⟨object, same, absent, one⟩
  · rw [none] at told
    cases told
  · rw [one] at told
    exact Or.inl ⟨kind, key, outcome, List.mem_singleton.mp told⟩
  · rw [one] at told
    exact Or.inr ⟨object, same, absent, List.mem_singleton.mp told⟩

/-- A change publishes nothing but what it makes of the replica. -/
theorem eq_of_published_mem_changeEffects {collection : String} {replica : Replica α}
    {change : Change α} {snapshot : Snapshot α}
    (published : .publish snapshot ∈ changeEffects collection replica change) :
    snapshot = (replica.apply change).1 := by
  cases change with
  | added object => simpa [changeEffects] using published
  | modified object =>
    by_cases held : Resource.key object ∈ replica.keys <;>
      simp [changeEffects, held] at published
    exact published
  | deleted object =>
    by_cases held : Resource.key object ∈ replica.keys <;>
      simp [changeEffects, held] at published
    exact published
  | bookmark _ | error _ | unknown _ => cases published

namespace Passage

variable {synchronizer : Synchronizer α} {credential : Credential} {run next : Run α}
  {signal : Signal} {phase : Phase} {effects : List (Effect α)}

/-- A passage shows observers the replica that it leaves. -/
theorem shown (passage : Passage synchronizer credential run signal phase next effects) :
    ListWatch.shown run.replica effects = next.replica := by
  cases passage with
  | asked resumes _ => rw [shown_append, resumes.shown]; rfl
  | unasked resumes _ => rw [shown_append, resumes.shown]; rfl
  | listed _ _ _ _ => rw [shown_append, shown_append, shown_log]; rfl
  | unwatched _ _ _ _ => rw [shown_append, shown_append, shown_log]; rfl
  | opened _ _ => rfl
  | applied _ _ => rw [shown_append, shown_log, shown_changeEffects]
  | fed _ _ => rfl
  | failed _ => rw [shown_append, shown_failureEffects]

theorem fits (passage : Passage synchronizer credential run signal phase next effects)
    (before : run.stage.Fits synchronizer.phase run.replica) :
    next.stage.Fits phase next.replica := by
  cases passage with
  | asked _ _ => exact ⟨rfl, rfl⟩
  | unasked _ _ => exact ⟨rfl, rfl⟩
  | listed _ _ _ _ => exact ⟨rfl, rfl⟩
  | unwatched _ _ _ _ => exact ⟨rfl, rfl⟩
  | opened opening _ =>
    rw [opening] at before
    exact ⟨rfl, before.2⟩
  | applied reading _ =>
    -- A change leaves a replica as fresh as it was.
    rw [reading] at before
    exact ⟨rfl, (run.replica.apply_freshness _).trans before.2⟩
  | fed reading _ =>
    rw [reading] at before
    exact ⟨rfl, before.2⟩
  | failed _ => exact ⟨rfl, rfl⟩

/-- Changes are told only when the run takes a line that decodes to one. -/
theorem handled {notice : Notice}
    (passage : Passage synchronizer credential run signal phase next effects)
    (told : notice ∈ notices effects) (isChange : notice.isChange = true) :
    ∃ url decoder change rest, run.stage = .reading url decoder ∧ signal = .proceed ∧
      decoder.next α = (some (.ok change), rest) ∧
      next.replica = (run.replica.apply change).1 ∧
      effects = (Turn.remarks synchronizer.collection change).map .log ++
        changeEffects synchronizer.collection run.replica change := by
  cases passage with
  | asked resumes _ =>
    simp [Effect.notice?] at told
    rw [resumes.mem_notices told] at isChange
    cases isChange
  | unasked resumes _ =>
    simp [Effect.notice?] at told
    rcases told with told | rfl | rfl
    · rw [resumes.mem_notices told] at isChange
      cases isChange
    · cases isChange
    · cases isChange
  | listed _ _ _ _ =>
    simp at told
    rcases told with rfl | rfl <;> cases isChange
  | unwatched _ _ _ _ =>
    simp at told
    rcases told with rfl | rfl | rfl | rfl <;> cases isChange
  | opened _ _ => cases told
  | applied reading taken => exact ⟨_, _, _, _, reading, rfl, taken, rfl, rfl⟩
  | fed _ _ => cases told
  | failed _ =>
    simp at told
    rcases told with rfl | rfl <;> cases isChange

end Passage

end ListWatch
