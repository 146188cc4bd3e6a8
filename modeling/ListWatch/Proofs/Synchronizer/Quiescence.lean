import ListWatch.Proofs.Synchronizer.Calls

/-!
# What a synchronizer looks like while it waits

Between its acts a run waits, and what it waits for is told by its stage. The phase and the
freshness of what is published are two variables that are set at different moments of a turn, but
both fit the stage whenever the turn is over. So whoever reads them then can tell from either of
them what the run waits for, and a snapshot that counts as synced is that of a run that watches.
-/
namespace ListWatch

variable {α : Type} [Resource α]

/-! ## Waiting -/

/-- The signals that a run waits for at a stage. -/
inductive Stage.Hears (α : Type) [Resource α] : Stage → Signal → Prop where
  | begun : Hears α .begun .proceed
  | answer {request answer} : Hears α (.listing request) (.answered answer)
  /-- The list is given up in the end. -/
  | deadline {request} : Hears α (.listing request) .elapsed
  | head {request answer} : Hears α (.opening request) (.opened answer)
  /-- A line that is held comes before more of the body. -/
  | line {url decoder} : (decoder.next α).1 ≠ none → Hears α (.reading url decoder) .proceed
  | item {url decoder item} : (decoder.next α).1 = none →
      Hears α (.reading url decoder) (.body item)
  | delay : Hears α .resting .elapsed

/-- Whatever the stage, something is waited for. -/
theorem Stage.exists_hears (stage : Stage) : ∃ signal, stage.Hears α signal := by
  cases stage with
  | begun => exact ⟨_, .begun⟩
  | listing request => exact ⟨_, .deadline⟩
  | opening request => exact ⟨.opened (.ok { status := 200 }), .head⟩
  | reading url decoder =>
    by_cases held : (decoder.next α).1 = none
    · exact ⟨.body .ended, .item held⟩
    · exact ⟨_, .line held⟩
  | resting => exact ⟨_, .delay⟩

namespace Synchronizer

/-- The run goes on when it is given the signal. -/
def WaitsFor (synchronizer : Synchronizer α) (signal : Signal) : Prop :=
  ∃ credential, synchronizer.step credential signal ≠ none

variable {synchronizer : Synchronizer α} {run : Run α} {signal : Signal}

private theorem onSignal_ne_none_iff {turn : Turn α} {credential : Credential} (stage : Stage) :
    turn.onSignal credential run stage signal ≠ none ↔ stage.Hears α signal := by
  constructor
  · intro heard
    cases stage with
    | begun => cases signal <;> first | exact .begun | exact absurd rfl heard
    | listing request =>
      cases signal with
      | answered answer => exact .answer
      | elapsed => exact .deadline
      | proceed | opened _ | body _ => exact absurd rfl heard
    | opening request => cases signal <;> first | exact .head | exact absurd rfl heard
    | reading url decoder =>
      cases signal with
      | proceed =>
        refine .line fun none => heard ?_
        simp only [Turn.onSignal]
        split
        next result rest taken => rw [taken] at none; cases none
        next => rfl
      | body item =>
        -- While a line is held the body has to wait.
        cases held : (decoder.next α).1 with
        | none => exact .item held
        | some result =>
          refine absurd ?_ heard
          simp only [Turn.onSignal]
          split
          next => rfl
          next rest taken => rw [taken] at held; cases held
      | answered _ | opened _ | elapsed => exact absurd rfl heard
    | resting => cases signal <;> first | exact .delay | exact absurd rfl heard
  · intro hears
    cases hears with
    | begun | answer | deadline | head | delay => exact Option.some_ne_none _
    | @line url decoder held =>
      simp only [Turn.onSignal]
      split
      next => exact Option.some_ne_none _
      next taken => rw [taken] at held; exact absurd rfl held
    | @item url decoder item held =>
      simp only [Turn.onSignal]
      split
      next taken => rw [taken] at held; cases held
      next => exact Option.some_ne_none _

/-- A synchronizer waits for what the stage of its run waits for. -/
theorem waitsFor_iff :
    synchronizer.WaitsFor signal ↔
      ∃ run, synchronizer.run = some run ∧ run.stage.Hears α signal := by
  cases active : synchronizer.run with
  | none =>
    constructor
    · rintro ⟨credential, stepped⟩
      rw [step, active] at stepped
      exact absurd rfl stepped
    · rintro ⟨run, none, -⟩
      cases none
  | some run =>
    constructor
    · rintro ⟨credential, stepped⟩
      rw [step, active, Option.bind_some, onSignal_ne_none_iff] at stepped
      exact ⟨run, rfl, stepped⟩
    · rintro ⟨_, same, hears⟩
      cases same
      refine ⟨.anonymous, ?_⟩
      rw [step, active, Option.bind_some, onSignal_ne_none_iff]
      exact hears

/-! ## Phase and snapshot -/

omit [Resource α] in
/-- The phase and the freshness published are those of the stage. -/
theorem Coherent.fits_snapshot (coherent : synchronizer.Coherent)
    (active : synchronizer.run = some run) :
    run.stage.Fits synchronizer.phase synchronizer.snapshot := by
  rw [coherent.snapshot active]
  exact coherent.fits active

/-- What a run waits for tells its stage, and that what is published. -/
theorem Coherent.fits_of_waitsFor (coherent : synchronizer.Coherent)
    (waits : synchronizer.WaitsFor signal) :
    ∃ run, synchronizer.run = some run ∧ run.stage.Hears α signal ∧
      run.stage.Fits synchronizer.phase synchronizer.snapshot := by
  obtain ⟨run, active, hears⟩ := waitsFor_iff.mp waits
  exact ⟨run, active, hears, coherent.fits_snapshot active⟩

omit [Resource α] in
/-- What counts as synced is held by a run, in the phase of watching, and only then. -/
theorem Coherent.synced_iff (coherent : synchronizer.Coherent) :
    synchronizer.snapshot.freshness = .synced ↔
      synchronizer.phase = .watching ∧ ∃ run, synchronizer.run = some run := by
  cases active : synchronizer.run with
  | none =>
    -- Nothing is held, and that never counts as synced.
    rw [(coherent.inactive active).1]
    simp [Replica.empty]
  | some run =>
    have fits := coherent.fits_snapshot active
    cases staged : run.stage with
    | begun =>
      rw [staged] at fits
      simp [fits.1, fits.2, Replica.empty]
    | listing _ | opening _ | reading _ _ | resting =>
      rw [staged] at fits
      simp [fits.1, fits.2]

end Synchronizer

/-- Whatever calls are made and whatever the transport delivers, between acts the phase and the
snapshot agree. A run that waits for the answer to its list is syncing, and so is what it published;
one that waits for its stream, or for more of it, is watching and synced; one that waits for a delay
to pass has failed, and what it published is syncing. Without a run the phase is idle or stopped and
nothing is published. A run always waits for something, and a snapshot is synced just when a run is
watching. -/
theorem phase_agrees_with_snapshot (client : Client) (options : Options) (acts : List Act) :
    let synchronizer : Synchronizer α := (Synchronizer.create client options).heedAll acts
    (∀ answer, synchronizer.WaitsFor (.answered answer) →
      synchronizer.phase = .syncing ∧ synchronizer.snapshot.freshness = .syncing) ∧
    (∀ answer, synchronizer.WaitsFor (.opened answer) →
      synchronizer.phase = .watching ∧ synchronizer.snapshot.freshness = .synced) ∧
    (∀ item, synchronizer.WaitsFor (.body item) →
      synchronizer.phase = .watching ∧ synchronizer.snapshot.freshness = .synced) ∧
    (synchronizer.WaitsFor .elapsed → (∀ answer, ¬ synchronizer.WaitsFor (.answered answer)) →
      synchronizer.phase = .failed ∧ synchronizer.snapshot.freshness = .syncing) ∧
    (synchronizer.run = none →
      (synchronizer.phase = .idle ∨ synchronizer.phase = .stopped) ∧
        synchronizer.snapshot = { items := [], freshness := .idle, resourceVersion := none }) ∧
    (∀ run, synchronizer.run = some run → ∃ signal, synchronizer.WaitsFor signal) ∧
    (synchronizer.snapshot.freshness = .synced ↔
      synchronizer.phase = .watching ∧ ∃ run, synchronizer.run = some run) := by
  intro synchronizer
  have created := Synchronizer.coherent_create (α := α) client options
  have coherent : synchronizer.Coherent := Synchronizer.coherent_heedAll created acts
  refine ⟨?_, ?_, ?_, ?_, ?_, ?_, coherent.synced_iff⟩
  · intro answer waits
    obtain ⟨run, -, hears, fits⟩ := coherent.fits_of_waitsFor waits
    generalize run.stage = stage at hears fits
    cases hears
    exact fits
  · intro answer waits
    obtain ⟨run, -, hears, fits⟩ := coherent.fits_of_waitsFor waits
    generalize run.stage = stage at hears fits
    cases hears
    exact fits
  · intro item waits
    obtain ⟨run, -, hears, fits⟩ := coherent.fits_of_waitsFor waits
    generalize run.stage = stage at hears fits
    cases hears
    exact fits
  · intro waits unlisted
    obtain ⟨run, active, hears, fits⟩ := coherent.fits_of_waitsFor waits
    cases staged : run.stage with
    | resting =>
      rw [staged] at fits
      exact fits
    | listing request =>
      -- A list that may be given up may still be answered.
      have answered : run.stage.Hears α (.answered (.ok { status := 200 })) := staged ▸ .answer
      exact absurd (Synchronizer.waitsFor_iff.mpr ⟨run, active, answered⟩) (unlisted _)
    | begun | opening _ | reading _ _ =>
      rw [staged] at hears
      cases hears
  · intro inactive
    obtain ⟨empty, phase⟩ := coherent.inactive inactive
    exact ⟨phase, empty⟩
  · intro run active
    obtain ⟨signal, hears⟩ := run.stage.exists_hears (α := α)
    exact ⟨signal, Synchronizer.waitsFor_iff.mpr ⟨run, active, hears⟩⟩

end ListWatch
