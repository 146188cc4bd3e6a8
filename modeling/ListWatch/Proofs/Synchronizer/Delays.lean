import Mathlib.Data.List.DropRight
import ListWatch.Proofs.Backoff
import ListWatch.Proofs.Synchronizer.Restart

/-!
# Delays and the failures before them

A run keeps the count of its failures in a word, and starts it over not when a list comes in but
when the next failure finds the replica synced. What it comes to can be told from the chronicle
alone: the count is that of the failures told since the last list, and every failure is told with
the delay for the count before it. The run then waits out that delay: nothing but a stop and the end
of the delay makes it do anything.
-/
namespace ListWatch

variable {α : Type}

/-- What stands in two lists in a row stands in the first or in the second. -/
private theorem append_eq_append_cons {β : Type} {first second before later : List β} {member : β}
    (split : first ++ second = before ++ member :: later) :
    (∃ rest, first = before ++ member :: rest ∧ later = rest ++ second) ∨
      ∃ opening, before = first ++ opening ∧ second = opening ++ member :: later := by
  rcases List.append_eq_append_iff.mp split with ⟨opening, left, right⟩ | ⟨rest, left, right⟩
  · exact Or.inr ⟨opening, left, right⟩
  · rcases List.append_eq_cons_iff.mp right.symm with ⟨rfl, here⟩ | ⟨rest, rfl, here⟩
    · exact Or.inr ⟨[], by rw [left, List.append_nil, List.append_nil], here⟩
    · exact Or.inl ⟨rest, left, here⟩

/-! ## Counting failures -/

def Notice.isFailure : Notice → Bool
  | .failure _ _ _ => true
  | .phaseChanged _ _ | .resynced _ _ _ | .applied _ _ _ _ | .anomaly _ _ _ _ => false

def Moment.isFailure : Moment α → Bool
  | .done (.emit notice) => notice.isFailure
  | .done _ | .heeded _ => false

/-- Failures are counted anew once a list has come in, and once a run was ended. -/
def Moment.startsOver : Moment α → Bool
  | .done (.emit (.resynced _ _ _)) | .heeded .stop => true
  | .done _ | .heeded _ => false

/-- The number of failures told since the last list that came in, or since the run was started if
none did. What is told before a start is told before the stop that ended the run before. -/
def failuresSince (moments : List (Moment α)) : Nat :=
  (moments.rtakeWhile fun moment => !moment.startsOver).countP Moment.isFailure

/-- The count after a notice. -/
def Notice.tally (count : Nat) : Notice → Nat
  | .resynced _ _ _ => 0
  | .failure _ _ _ => count + 1
  | .phaseChanged _ _ | .applied _ _ _ _ | .anomaly _ _ _ _ => count

/-- The count after an act. -/
def Act.tally (count : Nat) : Act → Nat
  | .stop => 0
  | .start | .step _ _ => count

theorem failuresSince_concat (moments : List (Moment α)) (moment : Moment α) :
    failuresSince (moments ++ [moment]) =
      if moment.startsOver then 0
      else failuresSince moments + (if moment.isFailure then 1 else 0) := by
  rw [failuresSince, List.rtakeWhile_concat]
  cases anew : moment.startsOver with
  | true => rfl
  | false =>
    simp only [Bool.not_false, if_true, Bool.false_eq_true, if_false]
    rw [List.countP_append, List.countP_singleton]
    rfl

theorem failuresSince_heeded (moments : List (Moment α)) (act : Act) :
    failuresSince (moments ++ [.heeded act]) = act.tally (failuresSince moments) := by
  rw [failuresSince_concat]
  cases act <;> rfl

theorem failuresSince_effects (moments : List (Moment α)) (effects : List (Effect α)) :
    failuresSince (moments ++ effects.map .done) =
      (notices effects).foldl Notice.tally (failuresSince moments) := by
  induction effects generalizing moments with
  | nil => rw [List.map_nil, List.append_nil]; rfl
  | cons effect effects ih =>
    rw [List.map_cons, ← List.singleton_append, ← List.append_assoc, ih, failuresSince_concat,
      notices_cons]
    cases effect with
    | emit notice => cases notice <;> rfl
    | publish _ | send _ _ | wait _ | log _ => rfl

/-! ## What a deed tells of failures -/

/-- A run counts as many failures as were told, up to the largest count. Without a run there are
none to count. -/
def Counts (count : Nat) : Option (Run α) → Prop
  | some run => run.failures.toNat = min count (UInt32.size - 1)
  | none => count = 0

/-- After so many failures these effects leave the run with the right count, and a failure among
them comes with the delay for the count before it, which the run waits out from then on. -/
structure Tells (backoff : Backoff) (count : Nat) (effects : List (Effect α))
    (run : Option (Run α)) : Prop where
  counts : Counts ((notices effects).foldl Notice.tally count) run
  failures : ∀ before name reason delay later,
    effects = before ++ .emit (.failure name reason delay) :: later →
    delay = backoff.after ((notices before).foldl Notice.tally count) ∧
      later = [.wait delay] ∧ ∃ resting, run = some resting ∧ resting.stage = .resting

section Deeds

variable {count : Nat} {backoff : Backoff} {synchronizer : Synchronizer α} {run : Run α}

theorem Tells.of_untold {effects : List (Effect α)} {run : Option (Run α)}
    (untold : ∀ notice ∈ notices effects, notice.isFailure = false)
    (counts : Counts ((notices effects).foldl Notice.tally count) run) :
    Tells backoff count effects run := by
  refine ⟨counts, ?_⟩
  rintro before name reason delay later rfl
  have told := untold (.failure name reason delay) (mem_notices.mpr (by simp))
  cases told

theorem toNat_nextAttempt (attempt : UInt32) :
    (Turn.nextAttempt attempt).toNat = min (attempt.toNat + 1) (UInt32.size - 1) := by
  have word := attempt.toNat_lt
  unfold Turn.nextAttempt
  split
  next fits =>
    rw [UInt32.toNat_add]
    simp only [UInt32.size] at fits ⊢
    simp
    omega
  next => simp only [UInt32.size] at *; omega

/-- The delay of a run is that of the failures it should have counted. -/
theorem delay_eq_after (counts : run.failures.toNat = min count (UInt32.size - 1)) :
    synchronizer.delay run = synchronizer.options.backoff.after count := by
  rw [Synchronizer.delay, Backoff.after, ← counts, UInt32.ofNat_toNat]

/-- A failure is told after the phase, and its delay is waited out at once. -/
theorem exists_failureEffects_eq (synchronizer : Synchronizer α) (run : Run α) (failure : Failure) :
    ∃ opening, notices opening = [.phaseChanged synchronizer.collection .failed] ∧
      synchronizer.failureEffects run failure = opening ++
        [.emit (.failure synchronizer.collection failure (synchronizer.delay run)),
          .wait (synchronizer.delay run)] :=
  ⟨phaseEffects synchronizer.collection .failed ++ [.publish run.rested.replica, .log _], rfl, rfl⟩

/-- A failure that follows effects without one is the only one. -/
theorem Tells.of_failure {opening : List (Effect α)} {failure : Failure}
    (untold : ∀ notice ∈ notices opening, notice.isFailure = false)
    (counts : run.failures.toNat =
      min ((notices opening).foldl Notice.tally count) (UInt32.size - 1)) :
    Tells synchronizer.options.backoff count
      (opening ++ synchronizer.failureEffects run failure) (some run.rested) := by
  constructor
  · -- What rests does not count as synced, so its failures are those of its own count.
    have stale : run.rested.failures = Turn.nextAttempt run.failures := rfl
    simp only [notices_append, notices_failureEffects, List.foldl_append, List.foldl_cons,
      List.foldl_nil, Notice.tally, Counts]
    rw [stale, toNat_nextAttempt, counts]
    omega
  · intro before name reason delay later split
    obtain ⟨failed, phase, same⟩ := exists_failureEffects_eq synchronizer run failure
    rw [same, ← List.append_assoc] at split
    have quiet : ∀ notice ∈ notices (opening ++ failed), notice.isFailure = false := by
      intro notice told
      rw [notices_append, phase] at told
      rcases List.mem_append.mp told with told | told
      · exact untold notice told
      · rw [List.mem_singleton.mp told]
        rfl
    rcases append_eq_append_cons split with ⟨rest, earlier, -⟩ | ⟨between, rfl, last⟩
    · -- No failure stands before the last two effects.
      have told := quiet (.failure name reason delay) (mem_notices.mpr (by simp [earlier]))
      cases told
    · -- Of those two the first is the failure, and the other one is the wait.
      rcases between with _ | ⟨first, _ | ⟨second, between⟩⟩
      · obtain ⟨told, rfl⟩ := List.cons.inj last
        cases told
        refine ⟨?_, rfl, _, rfl, rfl⟩
        rw [List.append_nil, notices_append, phase, List.foldl_append]
        exact delay_eq_after counts
      · simp at last
      · simp at last

variable [Resource α]

omit [Resource α] in
/-- A run that asks for its list again has as many failures behind it as before, for what it held
does not count as synced by then. -/
theorem failures_relisting (unsynced : run.replica.freshness ≠ .synced) :
    run.relisting.failures = run.failures := by
  have syncing : run.relisting.replica.freshness ≠ .synced := by
    rw [show run.relisting.replica.freshness = .syncing from rfl]
    decide
  rw [Run.failures, if_neg syncing, Run.failures, if_neg unsynced]
  rfl

omit [Resource α] in
theorem Resumes.unsynced {collection : String} {stage : Stage} {signal : Signal}
    {opening : List (Effect α)} {phase : Phase} {replica : Replica α}
    (resumes : Resumes collection stage signal opening) (fits : stage.Fits phase replica) :
    replica.freshness ≠ .synced := by
  cases resumes with
  | begin =>
    rw [fits.2]
    exact of_decide_eq_false rfl
  | retry =>
    rw [fits.2]
    decide

omit [Resource α] in
theorem Resumes.tally {collection : String} {stage : Stage} {signal : Signal}
    {opening : List (Effect α)} (resumes : Resumes collection stage signal opening) :
    (notices opening).foldl Notice.tally count = count := by
  cases resumes <;> rfl

omit [Resource α] in
theorem Resumes.untold {collection : String} {stage : Stage} {signal : Signal}
    {opening : List (Effect α)} (resumes : Resumes collection stage signal opening) :
    ∀ notice ∈ notices opening, notice.isFailure = false := by
  intro notice told
  rw [resumes.mem_notices told]
  rfl

/-- A change neither counts as a failure nor starts the count over. -/
theorem tally_changeEffects (collection : String) (replica : Replica α) (change : Change α) :
    (notices (changeEffects collection replica change)).foldl Notice.tally count = count := by
  rcases notices_changeEffects collection replica change with
    none | ⟨kind, key, outcome, one⟩ | ⟨object, -, -, one⟩
  · rw [none]; rfl
  · rw [one]; rfl
  · rw [one]; rfl

theorem untold_changeEffects (collection : String) (replica : Replica α) (change : Change α) :
    ∀ notice ∈ notices (changeEffects collection replica change), notice.isFailure = false := by
  intro notice told
  rcases mem_notices_changeEffects told with ⟨kind, key, outcome, rfl⟩ | ⟨object, -, -, rfl⟩
  · rfl
  · rfl

/-- What a passage tells of failures is right if the run's count was. -/
theorem Passage.tells {credential : Credential} {next : Run α} {signal : Signal} {phase : Phase}
    {effects : List (Effect α)}
    (passage : Passage synchronizer credential run signal phase next effects)
    (fits : run.stage.Fits synchronizer.phase run.replica) (counts : Counts count (some run)) :
    Tells synchronizer.options.backoff count effects (some next) := by
  cases passage with
  | @asked _ opening request resumes _ =>
    -- Whoever asks for a list holds nothing that counts as synced, so nothing is counted anew.
    have told : notices (opening ++ .publish run.relisting.replica ::
        synchronizer.askEffects request) = notices opening := by simp [Effect.notice?]
    have same : run.relisting.failures = run.failures :=
      failures_relisting (resumes.unsynced fits)
    refine .of_untold (by rw [told]; exact resumes.untold) ?_
    rw [told, resumes.tally]
    exact (congrArg UInt32.toNat same).trans counts
  | @unasked _ opening error resumes _ =>
    have told : notices (opening ++ [.publish run.relisting.replica]) = notices opening := by
      simp [Effect.notice?]
    have same : run.relisting.failures = run.failures :=
      failures_relisting (resumes.unsynced fits)
    rw [List.append_cons]
    refine .of_failure (by rw [told]; exact resumes.untold) ?_
    rw [told, resumes.tally, same]
    exact counts
  | @listed _ answer _ list watch _ _ _ _ =>
    -- What has come in counts as synced, so the next failure is the first again.
    have told : notices ((answerRecords answer).map .log ++
        (synchronizer.listEffects run list ++ Synchronizer.watchEffects watch)) =
        [.resynced synchronizer.collection list.resourceVersion list.items.length,
          .phaseChanged synchronizer.collection .watching] := by simp
    refine .of_untold ?_ ?_
    · rw [told]
      simp [Notice.isFailure]
    · rw [told]
      rfl
  | @unwatched _ answer _ list error _ _ _ _ =>
    have told : notices ((answerRecords answer).map .log ++ synchronizer.listEffects run list) =
        [.resynced synchronizer.collection list.resourceVersion list.items.length,
          .phaseChanged synchronizer.collection .watching] := by simp
    rw [← List.append_assoc]
    refine .of_failure ?_ ?_
    · rw [told]
      simp [Notice.isFailure]
    · rw [told]
      rfl
  | opened _ _ => exact .of_untold (List.forall_mem_nil _) counts
  | @applied _ _ change _ _ _ =>
    have told : notices ((Turn.remarks synchronizer.collection change).map .log ++
        changeEffects synchronizer.collection run.replica change) =
        notices (changeEffects synchronizer.collection run.replica change) := by simp
    refine .of_untold (by rw [told]; exact untold_changeEffects _ _ _) ?_
    rw [told, tally_changeEffects, Counts, Run.failures, Replica.apply_freshness]
    exact counts
  | fed _ _ => exact .of_untold (List.forall_mem_nil _) counts
  | @failed _ records _ _ =>
    -- Whether a list or its watch failed makes no difference: the count is right for the run.
    have told : notices (records.map (Effect.log (α := α))) = [] := notices_log records
    refine .of_failure (by simp [told]) ?_
    rw [told]
    exact counts

/-- What a deed tells of failures is right if the run's count was. -/
theorem Deed.tells {act : Act} {phase : Phase} {next : Option (Run α)} {effects : List (Effect α)}
    (deed : Deed synchronizer act phase next effects) (coherent : synchronizer.Coherent)
    (counts : Counts count synchronizer.run) :
    Tells synchronizer.options.backoff (act.tally count) effects next := by
  cases deed with
  | started inactive =>
    rw [inactive] at counts
    cases counts
    exact .of_untold (by simp [Notice.isFailure, Effect.notice?]) rfl
  | startedAgain active =>
    rw [active] at counts
    exact .of_untold (List.forall_mem_nil _) counts
  | stepped active passage =>
    rw [active] at counts
    exact passage.tells (coherent.fits active) counts
  | stopped _ => exact .of_untold (by simp [Notice.isFailure]) (by simp [Act.tally]; rfl)
  | stoppedIdle _ _ =>
    exact .of_untold (by simp [Notice.isFailure, Effect.notice?]) rfl
  | stoppedAgain _ _ => exact .of_untold (List.forall_mem_nil _) rfl

end Deeds

/-! ## Waiting out a delay -/

/-- What does not disturb a run that rests: one more start, and what is logged of it. -/
def Moment.isIdle : Moment α → Bool
  | .heeded .start | .done (.log _) => true
  | .heeded .stop | .heeded (.step _ _) | .done (.emit _) | .done (.publish _) | .done (.send _ _)
  | .done (.wait _) => false

/-- What ends a rest: a stop, or the end of the delay that was asked for. -/
def Moment.endsRest : Moment α → Bool
  | .heeded .stop | .heeded (.step _ .elapsed) => true
  | .heeded .start | .heeded (.step _ _) | .done _ => false

/-- Nothing disturbs a rest before it ends. -/
def Rests : List (Moment α) → Prop
  | [] => True
  | moment :: later => moment.endsRest = true ∨ moment.isIdle = true ∧ Rests later

theorem Rests.append {first second : List (Moment α)} (rests : Rests first)
    (further : (∀ moment ∈ first, moment.isIdle = true) → Rests second) :
    Rests (first ++ second) := by
  induction first with
  | nil => exact further (List.forall_mem_nil _)
  | cons moment first ih =>
    rcases rests with ends | ⟨idle, rests⟩
    · exact Or.inl ends
    · exact Or.inr ⟨idle, ih rests fun rest => further (List.forall_mem_cons.mpr ⟨idle, rest⟩)⟩

/-- What has come of a rest: it was not disturbed, and as long as it lasts the run rests. -/
structure Waits (synchronizer : Synchronizer α) (moments : List (Moment α)) : Prop where
  rests : Rests moments
  resting : (∀ moment ∈ moments, moment.isIdle = true) →
    ∃ run, synchronizer.run = some run ∧ run.stage = .resting

section Rest

variable [Resource α] {synchronizer : Synchronizer α}

/-- A run that rests waits for the end of its delay and nothing else. -/
theorem Passage.elapsed {credential : Credential} {run next : Run α} {signal : Signal}
    {phase : Phase} {effects : List (Effect α)}
    (passage : Passage synchronizer credential run signal phase next effects)
    (resting : run.stage = .resting) : signal = .elapsed := by
  cases passage with
  | asked resumes _ =>
    rw [resting] at resumes
    cases resumes
    rfl
  | unasked resumes _ =>
    rw [resting] at resumes
    cases resumes
    rfl
  | listed listing _ _ _ | unwatched listing _ _ _ =>
    rw [resting] at listing
    cases listing
  | opened opening _ =>
    rw [resting] at opening
    cases opening
  | applied reading _ | fed reading _ =>
    rw [resting] at reading
    cases reading
  | failed breaks =>
    rw [resting] at breaks
    cases breaks

/-- A deed leaves a run that rests alone or ends its rest. -/
theorem Waits.deed {moments : List (Moment α)} {act : Act} {phase : Phase} {next : Option (Run α)}
    {effects : List (Effect α)} (waits : Waits synchronizer moments)
    (deed : Deed synchronizer act phase next effects) :
    Waits (synchronizer.unmoved.advance phase next effects).synchronizer
      (moments ++ .heeded act :: effects.map .done) := by
  constructor
  · -- While it rests, the run takes part in a stop or in the end of the delay alone.
    refine waits.rests.append fun idle => ?_
    obtain ⟨run, active, resting⟩ := waits.resting idle
    cases deed with
    | started inactive =>
      rw [active] at inactive
      cases inactive
    | startedAgain _ => exact Or.inr ⟨rfl, Or.inr ⟨rfl, trivial⟩⟩
    | stepped stepping passage =>
      cases active.symm.trans stepping
      cases passage.elapsed resting
      exact Or.inl rfl
    | stopped _ => exact Or.inl rfl
    | stoppedIdle _ _ => exact Or.inl rfl
    | stoppedAgain _ _ => exact Or.inl rfl
  · intro idle
    obtain ⟨before, now⟩ := List.forall_mem_append.mp idle
    obtain ⟨run, active, resting⟩ := waits.resting before
    have heeded : (Moment.heeded act : Moment α).isIdle = true := now _ List.mem_cons_self
    cases deed with
    | started inactive =>
      rw [active] at inactive
      cases inactive
    | startedAgain same =>
      cases active.symm.trans same
      exact ⟨run, rfl, resting⟩
    | stepped _ _ | stopped _ | stoppedIdle _ _ | stoppedAgain _ _ => cases heeded

end Rest

/-! ## Chronicles -/

/-- Every failure told so far came with its delay, which the run waited out or still does. -/
structure Delayed (backoff : Backoff) (synchronizer : Synchronizer α) (moments : List (Moment α)) :
    Prop where
  chosen : synchronizer.options.backoff = backoff
  counts : Counts (failuresSince moments) synchronizer.run
  failures : ∀ before name reason delay rest,
    moments = before ++ .done (.emit (.failure name reason delay)) :: rest →
    delay = backoff.after (failuresSince before) ∧
      ∃ resting, rest = .done (.wait delay) :: resting ∧ Waits synchronizer resting

theorem Delayed.deed [Resource α] {backoff : Backoff} {synchronizer : Synchronizer α}
    {moments : List (Moment α)} {act : Act} {phase : Phase} {next : Option (Run α)}
    {effects : List (Effect α)} (delayed : Delayed backoff synchronizer moments)
    (coherent : synchronizer.Coherent) (deed : Deed synchronizer act phase next effects) :
    Delayed backoff (synchronizer.unmoved.advance phase next effects).synchronizer
      (moments ++ .heeded act :: effects.map .done) := by
  have tells := deed.tells coherent delayed.counts
  rw [delayed.chosen] at tells
  have counted (opening : List (Effect α)) :
      failuresSince (moments ++ .heeded act :: opening.map .done) =
        (notices opening).foldl Notice.tally (act.tally (failuresSince moments)) := by
    rw [List.append_cons, failuresSince_effects, failuresSince_heeded]
  refine ⟨delayed.chosen, by rw [counted]; exact tells.counts, ?_⟩
  intro before name reason delay rest split
  rcases append_eq_append_cons split with ⟨earlier, whole, rfl⟩ | ⟨opening, rfl, here⟩
  · -- A failure told before still rests, or its rest is over.
    obtain ⟨right, resting, rfl, waits⟩ := delayed.failures _ _ _ _ _ whole
    exact ⟨right, _, rfl, waits.deed deed⟩
  · -- A failure told now stands among the effects, behind the act itself.
    rcases opening with _ | ⟨first, opening⟩
    · cases (List.cons.inj here).1
    · rw [List.cons_append] at here
      obtain ⟨rfl, among⟩ := List.cons.inj here
      obtain ⟨earlier, later, rfl, rfl, told⟩ := List.map_eq_append_iff.mp among
      obtain ⟨effect, later, rfl, same, rfl⟩ := List.map_eq_cons_iff.mp told
      cases same
      obtain ⟨right, rfl, run, active, resting⟩ := tells.failures _ _ _ _ _ rfl
      refine ⟨by rw [counted]; exact right, [], rfl, trivial, fun _ => ⟨run, active, resting⟩⟩

/-- Whatever is asked of a synchronizer and whatever the transport delivers, every failure is told
with the delay for the number of failures told since the last list, or since the start if none came
in: the first one after a list with that for none, however many came before the list. That is the
base doubled as many times, twenty times at most, up to the greatest delay; the count has no end of
its own. The delay is asked for at once, and until it has passed or the run is stopped nothing is
done. -/
theorem failures_wait_their_delay [Resource α] (client : Client) (options : Options)
    (acts : List Act) {before rest : List (Moment α)} {name : String} {reason : Failure}
    {delay : Nat}
    (told : (Chronicle.of (.create client options) acts).moments =
      before ++ .done (.emit (.failure name reason delay)) :: rest) :
    let failures := failuresSince before
    delay = (options.backoff.delay (.ofNat (min failures (UInt32.size - 1)))).toNat ∧
    delay = min (options.backoff.base.toNat * 2 ^ min failures 20)
      options.backoff.greatest.toNat ∧
    ∃ resting, rest = .done (.wait delay) :: resting ∧ Rests resting := by
  intro failures
  have delayed : Delayed options.backoff _ _ :=
    (Chronicle.of_induction (motive := Delayed options.backoff)
      (Synchronizer.coherent_create (α := α) client options)
      ⟨rfl, rfl, fun before _ _ _ _ split => by simp at split⟩
      (fun coherent delayed deed => delayed.deed coherent deed) acts).2
  obtain ⟨right, resting, waited, waits⟩ := delayed.failures _ _ _ _ _ told
  exact ⟨right, right.trans (options.backoff.after_eq failures), resting, waited, waits.rests⟩

namespace Sample

/-- A list comes in, its watch is closed, the next list does not come in, and the run is started
once more before it is stopped. -/
def delayed : Chronicle UntypedObject :=
  .of (.create client { backoff := .growing 100 1000 })
    [.start, .step .anonymous .proceed, .step .anonymous (.answered (.ok marked)),
      .step .anonymous (.opened (.ok { status := 200 })), .step .anonymous (.body .ended),
      .step .anonymous .elapsed, .step .anonymous (.answered (.error (.connect "refused"))),
      .start, .stop]

/-- Why the second list did not come in. -/
def unanswered : Failure :=
  { category := .transport, code := "transport_error"
    message := "GET http://localhost/api/v1/pods?allowWatchBookmarks=1&timeoutSeconds=10: "
      ++ "connection failed: refused" }

/-- The second failure in a row comes with twice the delay of the first. -/
theorem delay_of_second_failure :
    ∃ before name reason rest,
      delayed.moments = before ++ .done (.emit (.failure name reason 200)) :: rest ∧
      failuresSince before = 1 ∧ 200 = min (100 * 2 ^ min 1 20) 1000 ∧
      ∃ resting, rest = .done (.wait 200) :: resting ∧ Rests resting := by
  -- Acts cannot be compared, but effects can.
  have told : (delayed.moments.drop 38).head?.bind Moment.effect? =
      some (.emit (.failure "/api/v1/pods" unanswered 200)) := by decide +kernel
  obtain ⟨moment, first, same⟩ := Option.bind_eq_some_iff.mp told
  cases moment <;> cases same
  obtain ⟨rest, later⟩ := List.head?_eq_some_iff.mp first
  have split : delayed.moments = delayed.moments.take 38 ++
      .done (.emit (.failure "/api/v1/pods" unanswered 200)) :: rest := by
    rw [← later, List.take_append_drop]
  have failures : failuresSince (delayed.moments.take 38) = 1 := by decide +kernel
  obtain ⟨-, doubled, waited⟩ :=
    failures_wait_their_delay client { backoff := .growing 100 1000 } _ split
  rw [failures] at doubled
  exact ⟨_, _, _, rest, split, failures, doubled, waited⟩

end Sample

end ListWatch
