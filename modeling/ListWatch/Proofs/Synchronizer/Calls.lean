import ListWatch.Proofs.Synchronizer.Life

/-!
# Starting and stopping at any time

A synchronizer may be called at any time, and whatever the transport delivers may come
when nobody waits for it any more; such a step makes no difference. A start is answered
yes just when there is no run, and a stop just when there is one. After a stop there is
nothing left that could wait for anything, so until a start is answered yes nothing
happens but that stopping again publishes once more that nothing is held.
-/
namespace ListWatch

variable {α : Type} [Resource α]

/-! ## Acts that nobody waits for -/

namespace Turn

/-- The turn with one more act. A step that the run does not wait for makes no difference. -/
def heed (turn : Turn α) (act : Act) : Turn α := (turn.follow act).getD turn

def heedAll (turn : Turn α) (acts : List Act) : Turn α := acts.foldl heed turn

/-- An act that is heeded is a deed, and only a step may not be. -/
theorem heed_deed (turn : Turn α) (coherent : turn.synchronizer.Coherent) (act : Act) :
    (turn.synchronizer.act act = none ∧ turn.heed act = turn) ∨
      ∃ phase run effects, turn.heed act = turn.advance phase run effects ∧
        Deed turn.synchronizer act phase run effects := by
  cases followed : turn.follow act with
  | none => exact Or.inl ⟨Option.map_eq_none_iff.mp followed, by rw [heed, followed]; rfl⟩
  | some next =>
    obtain ⟨phase, run, effects, same, deed⟩ := Synchronizer.follow_deed coherent followed
    refine Or.inr ⟨phase, run, effects, ?_, deed⟩
    rw [heed, followed, ← same]
    rfl

end Turn

namespace Synchronizer

def heed (synchronizer : Synchronizer α) (act : Act) : Synchronizer α :=
  (synchronizer.unmoved.heed act).synchronizer

def heedAll (synchronizer : Synchronizer α) (acts : List Act) : Synchronizer α :=
  acts.foldl heed synchronizer

variable {synchronizer : Synchronizer α}

theorem heed_deed (coherent : synchronizer.Coherent) (act : Act) :
    (synchronizer.act act = none ∧ synchronizer.heed act = synchronizer) ∨
      ∃ phase run effects, (synchronizer.heed act).run = run ∧
        Deed synchronizer act phase run effects := by
  rcases synchronizer.unmoved.heed_deed coherent act with
    ⟨unheeded, same⟩ | ⟨phase, run, effects, same, deed⟩
  · exact Or.inl ⟨unheeded, by rw [heed, same]⟩
  · exact Or.inr ⟨phase, run, effects, by rw [heed, same, Turn.advance_run], deed⟩

theorem coherent_heed (coherent : synchronizer.Coherent) (act : Act) :
    (synchronizer.heed act).Coherent := by
  rcases synchronizer.unmoved.heed_deed coherent act with
    ⟨-, same⟩ | ⟨phase, run, effects, same, deed⟩
  · rw [heed, same]
    exact coherent
  · rw [heed, same]
    exact deed.coherent coherent

theorem coherent_heedAll (coherent : synchronizer.Coherent) (acts : List Act) :
    (synchronizer.heedAll acts).Coherent := by
  induction acts generalizing synchronizer with
  | nil => exact coherent
  | cons act acts ih => exact ih (coherent_heed coherent act)

theorem client_heed (coherent : synchronizer.Coherent) (act : Act) :
    (synchronizer.heed act).client = synchronizer.client := by
  rcases synchronizer.unmoved.heed_deed coherent act with
    ⟨-, same⟩ | ⟨phase, run, effects, same, -⟩
  · rw [heed, same]
  · rw [heed, same, Turn.advance_client]

theorem client_heedAll (coherent : synchronizer.Coherent) (acts : List Act) :
    (synchronizer.heedAll acts).client = synchronizer.client := by
  induction acts generalizing synchronizer with
  | nil => rfl
  | cons act acts ih => exact (ih (coherent_heed coherent act)).trans (client_heed coherent act)

/-! ## Answers -/

omit [Resource α] in
/-- A start is answered yes just when there is no run. -/
theorem start_eq_true_iff (coherent : synchronizer.Coherent) :
    synchronizer.start.2 = true ↔ synchronizer.run = none := by
  cases active : synchronizer.run with
  | some run => simp [start, active]
  | none =>
    -- The phase is one from which a start is granted.
    rcases (coherent.inactive active).2 with idle | stopped
    · simp [start, active, idle, Phase.move, Phase.Move.sources]
    · simp [start, active, stopped, Phase.move, Phase.Move.sources]

omit [Resource α] in
theorem stop_eq_true_iff : synchronizer.stop.2 = true ↔ synchronizer.run ≠ none :=
  Option.isSome_iff_ne_none

end Synchronizer

/-! ## After a stop -/

/-- Nothing runs, nothing is held, and the phase says so. -/
structure Synchronizer.Stopped (synchronizer : Synchronizer α) : Prop where
  inactive : synchronizer.run = none
  phase : synchronizer.phase = .stopped
  snapshot : synchronizer.snapshot = .empty

namespace Synchronizer.Stopped

variable {turn : Turn α}

omit [Resource α] in
theorem coherent {synchronizer : Synchronizer α} (stopped : synchronizer.Stopped) :
    synchronizer.Coherent := by
  rw [Coherent, stopped.inactive]
  exact ⟨stopped.snapshot, Or.inr stopped.phase⟩

/-- Whatever is done but a start, nothing happens but that the empty snapshot is published again. -/
theorem heed (stopped : turn.synchronizer.Stopped) {act : Act} (other : act ≠ .start) :
    (turn.heed act).synchronizer.Stopped ∧
      ∃ since, (turn.heed act).effects = turn.effects ++ since ∧
        ∀ effect ∈ since, effect = .publish .empty := by
  rcases turn.heed_deed stopped.coherent act with ⟨-, same⟩ | ⟨phase, run, effects, same, deed⟩
  · rw [same]
    exact ⟨stopped, [], (List.append_nil _).symm, List.forall_mem_nil _⟩
  · rw [same]
    cases deed with
    | started _ | startedAgain _ => exact absurd rfl other
    | stepped active _ => cases stopped.inactive.symm.trans active
    | stopped active => cases stopped.inactive.symm.trans active
    | stoppedIdle _ idle => cases stopped.phase.symm.trans idle
    | stoppedAgain _ _ =>
      refine ⟨⟨rfl, rfl, ?_⟩, [.publish .empty], rfl, ?_⟩
      · rw [Turn.advance_snapshot]
        rfl
      · exact fun effect => List.mem_singleton.mp

/-- A start would be answered yes, so as long as none is there has been none. -/
theorem heedAll (stopped : turn.synchronizer.Stopped) {later : List Act}
    (unstarted : ∀ earlier rest, later = earlier ++ .start :: rest →
      (turn.heedAll earlier).synchronizer.start.2 = false) :
    (turn.heedAll later).synchronizer.Stopped ∧
      ∃ since, (turn.heedAll later).effects = turn.effects ++ since ∧
        ∀ effect ∈ since, effect = .publish .empty := by
  induction later generalizing turn with
  | nil => exact ⟨stopped, [], (List.append_nil _).symm, List.forall_mem_nil _⟩
  | cons act later ih =>
    have other : act ≠ .start := by
      rintro rfl
      have refused : turn.synchronizer.start.2 = false := unstarted [] later rfl
      rw [(start_eq_true_iff stopped.coherent).mpr stopped.inactive] at refused
      cases refused
    obtain ⟨still, first, firstEffects, firstEmpty⟩ := stopped.heed other
    obtain ⟨final, more, moreEffects, moreEmpty⟩ := ih still fun earlier rest split =>
      unstarted (act :: earlier) rest (congrArg (act :: ·) split)
    refine ⟨final, first ++ more, ?_, ?_⟩
    · rw [← List.append_assoc, ← firstEffects]
      exact moreEffects
    · exact List.forall_mem_append.mpr ⟨firstEmpty, moreEmpty⟩

end Synchronizer.Stopped

omit [Resource α] in
theorem not_sent_mem_lastEffects (synchronizer : Synchronizer α) (run : Run α) (route : Route)
    (request : Request) : .send route request ∉ synchronizer.lastEffects run := by
  cases staged : run.stage <;> simp [Synchronizer.lastEffects, staged]

/-- Wherever the run waits, a stop ends it, sends nothing, and tells that it stopped, once. -/
theorem Turn.heed_stop {turn : Turn α} (coherent : turn.synchronizer.Coherent) :
    (turn.heed .stop).synchronizer.Stopped ∧
      ∃ ending, (turn.heed .stop).effects = turn.effects ++ ending ∧
        notices ending = (if turn.synchronizer.phase = .stopped then []
          else [.phaseChanged turn.collection .stopped]) ∧
        ∀ route request, .send route request ∉ ending := by
  rcases turn.heed_deed coherent .stop with ⟨unheeded, -⟩ | ⟨phase, run, effects, same, deed⟩
  · cases unheeded
  · rw [same]
    cases deed with
    | @stopped run active =>
      have unstopped : turn.synchronizer.phase ≠ .stopped := by
        intro stopped
        simpa [stopped, Phase.isActive] using coherent.isActive active
      refine ⟨⟨rfl, rfl, ?_⟩, _, rfl, ?_, ?_⟩
      · rw [Turn.advance_snapshot, shown_append, shown_lastEffects]
        rfl
      · rw [if_neg unstopped, notices_append, notices_lastEffects, notices_phaseEffects]
        rfl
      · simp [not_sent_mem_lastEffects, phaseEffects]
    | stoppedIdle _ idle =>
      refine ⟨⟨rfl, rfl, ?_⟩, _, rfl, ?_, by simp [phaseEffects]⟩
      · rw [Turn.advance_snapshot]
        rfl
      · rw [idle]
        rfl
    | stoppedAgain _ stopped =>
      refine ⟨⟨rfl, rfl, ?_⟩, _, rfl, ?_, by simp⟩
      · rw [Turn.advance_snapshot]
        rfl
      · rw [stopped]
        rfl

/-- A stop is final wherever the run waits. All it tells is that the phase is stopped, if it was not,
after everything that was told before. Then, whatever the transport delivers and however often it is
stopped again, until a start is answered yes the phase is stopped, nothing is held, nothing is told
or sent, and nothing is published but that nothing is held. -/
theorem stop_is_final {client : Client} {options : Options} {acts : List Act} {turn : Turn α}
    (lived : (Synchronizer.create client options).life acts = some turn) {later : List Act}
    (unstarted : ∀ earlier rest, later = earlier ++ .start :: rest →
      ((turn.heed .stop).heedAll earlier).synchronizer.start.2 = false) :
    let stopped := turn.heed .stop
    let after := stopped.heedAll later
    notices stopped.effects = notices turn.effects ++
      (if turn.synchronizer.phase = .stopped then [] else [.phaseChanged client.path .stopped]) ∧
    after.synchronizer.phase = .stopped ∧
    after.synchronizer.snapshot = { items := [], freshness := .idle, resourceVersion := none } ∧
    (∃ ending, stopped.effects = turn.effects ++ ending ∧
      ∀ route request, .send route request ∉ ending) ∧
    ∃ since, after.effects = stopped.effects ++ since ∧
      ∀ effect ∈ since, effect = .publish .empty := by
  intro stopped after
  have created := Synchronizer.coherent_create (α := α) client options
  have coherent := Synchronizer.coherent_life created lived
  have path : turn.collection = client.path := by
    rw [Turn.collection, Synchronizer.collection, Synchronizer.client_life created lived]
    rfl
  obtain ⟨still, ending, effects, told, unsent⟩ := Turn.heed_stop coherent
  obtain ⟨final, quiet⟩ := still.heedAll unstarted
  refine ⟨?_, final.phase, final.snapshot, ⟨ending, effects, unsent⟩, quiet⟩
  rw [← path, ← told, ← notices_append, ← effects]

/-- Stopped while it reads a stream, the synchronizer of the short life takes neither the rest of the
stream nor an answer any more. -/
theorem Sample.stop_is_final_while_reading :
    let later : List Act := [.step .anonymous (.body (.chunk line)), .step .anonymous .proceed,
      .stop, .step .anonymous (.answered (.ok list)), .step .anonymous .elapsed]
    (turn 7).synchronizer.isReading = true ∧
    (((turn 7).heed .stop).heedAll later).synchronizer.phase = .stopped ∧
    (((turn 7).heed .stop).heedAll later).synchronizer.snapshot.items = [] := by
  intro later
  have unstarted : ∀ earlier rest, later = earlier ++ .start :: rest →
      (((turn 7).heed .stop).heedAll earlier).synchronizer.start.2 = false := by
    intro earlier rest split
    have member : Act.start ∈ later := by simp [split]
    simp [later] at member
  obtain ⟨-, phase, snapshot, -⟩ := stop_is_final (lived 7 (by decide +kernel)) unstarted
  exact ⟨by decide +kernel, phase, congrArg Replica.items snapshot⟩

end ListWatch
