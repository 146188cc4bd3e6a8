import Mathlib.Computability.Language
import Mathlib.Order.CompletePartialOrder
import ListWatch.Proofs.Synchronizer.Moves

/-!
# The order of notices

What a synchronizer tells in its whole life is the beginning of a word of a regular
language: the words of its runs one after the other, and before them that it is stopped
if that was asked first. A run tells that it is syncing, then of its attempts that failed
and were retried, then of a last one, and at the end that it is stopped. Where a run
waits decides how much of its word has been told.
-/
namespace ListWatch

open Computability

variable {α : Type}

/-! ## The grammar -/

namespace Grammar

variable (collection : String)

def told (phase : Phase) : Language Notice := {[.phaseChanged collection phase]}

def resync : Language Notice :=
  {word | ∃ version count, word = [.resynced collection version count]}

def change : Language Notice :=
  {word | (∃ kind key outcome, word = [.applied collection kind key outcome]) ∨
    ∃ kind key detail, word = [.anomaly collection kind key detail]}

def failure : Language Notice :=
  {word | ∃ reason delay, word = [.failure collection reason delay]}

/-- The words of a watch that has not ended, with those of its list. -/
def watch : Language Notice := resync collection * told collection .watching * (change collection)∗

/-- The words of a list and its watch; there are none while there is no list. -/
def attempt : Language Notice := 1 + watch collection

/-- The words of an attempt that failed. -/
def failed : Language Notice := attempt collection * told collection .failed * failure collection

/-- The words of a run until it asks for a list: those of the attempts that failed are behind it. -/
def asking : Language Notice :=
  told collection .syncing * (failed collection * told collection .syncing)∗

/-- The words of a run that is stopped. -/
def run : Language Notice :=
  asking collection * (attempt collection + failed collection) * told collection .stopped

/-- What is told before any run, which depends on the first act. -/
def lead : List Act → Language Notice
  | .stop :: _ => told collection .stopped
  | _ => 1

def life (acts : List Act) : Language Notice := lead collection acts * (run collection)∗

variable {collection}

theorem mem_told (phase : Phase) : [.phaseChanged collection phase] ∈ told collection phase := rfl

theorem begin_le : told collection .syncing ≤ asking collection :=
  le_mul_of_one_le_right' one_le_kstar

theorem retry_le :
    asking collection * failed collection * told collection .syncing ≤ asking collection := by
  rw [asking, mul_assoc, mul_assoc]
  gcongr
  exact kstar_mul_le_kstar

theorem watch_change_le : watch collection * change collection ≤ watch collection := by
  -- The watch ends with changes, so there is room for one more.
  rw [watch, mul_assoc]
  gcongr
  exact kstar_mul_le_kstar

theorem one_le_attempt : 1 ≤ attempt collection := le_sup_left

theorem watch_le_attempt : watch collection ≤ attempt collection := le_sup_right

/-- A list may fail. -/
theorem list_failed_le :
    told collection .failed * failure collection ≤ failed collection := by
  rw [failed, mul_assoc]
  exact le_mul_of_one_le_left' one_le_attempt

/-- A watch may fail. -/
theorem watch_failed_le :
    watch collection * (told collection .failed * failure collection) ≤ failed collection := by
  rw [failed, mul_assoc]
  gcongr
  exact watch_le_attempt

theorem mem_failure (reason : Failure) (delay : Nat) :
    [.phaseChanged collection .failed, .failure collection reason delay] ∈
      told collection .failed * failure collection := by
  have reported : [.failure collection reason delay] ∈ failure collection := ⟨reason, delay, rfl⟩
  exact Language.append_mem_mul (mem_told .failed) reported

theorem mem_watch (version : Option String) (count : Nat) :
    [.resynced collection version count, .phaseChanged collection .watching] ∈
      watch collection := by
  have list : [.resynced collection version count] ∈ resync collection := ⟨version, count, rfl⟩
  exact Language.append_mem_mul (Language.append_mem_mul list (mem_told .watching))
    (Language.nil_mem_kstar _)

end Grammar

open Grammar

/-- What a run has told by the time it waits at a stage. -/
def Stage.told (collection : String) : Stage → Language Notice
  | .begun => Grammar.told collection .syncing
  | .listing _ => asking collection
  | .opening _ | .reading _ _ => asking collection * watch collection
  | .resting => asking collection * failed collection

/-- A run may be stopped wherever it waits. -/
theorem Stage.told_stopped_le {collection : String} (stage : Stage) :
    stage.told collection * Grammar.told collection .stopped ≤ run collection := by
  -- Where nothing was told of an attempt, it is one whose list never came in.
  have attempted : attempt collection ≤ attempt collection + failed collection := le_sup_left
  have idle : asking collection ≤ asking collection * (attempt collection + failed collection) :=
    le_mul_of_one_le_right' (one_le_attempt.trans attempted)
  have watching := watch_le_attempt.trans attempted
  rw [run]
  gcongr
  cases stage with
  | begun => exact begin_le.trans idle
  | listing _ => exact idle
  | opening _ => rw [told]; gcongr
  | reading _ _ => rw [told]; gcongr
  | resting =>
    rw [told]
    gcongr
    exact le_sup_right

section Words

variable {synchronizer : Synchronizer α} {run : Run α} {signal : Signal} {word : List Notice}

private theorem asking_mem_of_resumes {stage : Stage} {opening : List (Effect α)}
    (resumes : Resumes synchronizer.collection stage signal opening)
    (member : word ∈ stage.told synchronizer.collection) :
    word ++ notices opening ∈ asking synchronizer.collection := by
  cases resumes with
  | begin =>
    rw [notices_nil, List.append_nil]
    exact Set.mem_of_mem_of_subset member begin_le
  | retry =>
    exact Set.mem_of_mem_of_subset (Language.append_mem_mul member (mem_told .syncing)) retry_le

private theorem failed_mem_of_asking (run : Run α) (failure : Failure)
    (member : word ∈ asking synchronizer.collection) :
    word ++ notices (synchronizer.failureEffects run failure) ∈
      asking synchronizer.collection * failed synchronizer.collection :=
  Language.append_mem_mul member
    (Set.mem_of_mem_of_subset (mem_failure failure _) list_failed_le)

private theorem watch_mem_of_list (run : Run α) (list : ObjectList α)
    (member : word ∈ asking synchronizer.collection) :
    word ++ notices (synchronizer.listEffects run list) ∈
      asking synchronizer.collection * watch synchronizer.collection :=
  Language.append_mem_mul member (mem_watch _ _)

private theorem failed_mem_of_watch (run : Run α) (failure : Failure)
    (member : word ∈ asking synchronizer.collection * watch synchronizer.collection) :
    word ++ notices (synchronizer.failureEffects run failure) ∈
      asking synchronizer.collection * failed synchronizer.collection := by
  obtain ⟨asked, asking, watched, watch, rfl⟩ := Language.mem_mul.mp member
  rw [List.append_assoc]
  exact Language.append_mem_mul asking
    (Set.mem_of_mem_of_subset (Language.append_mem_mul watch (mem_failure failure _))
      watch_failed_le)

private theorem watch_mem_of_change {notice : Notice}
    (member : word ∈ asking synchronizer.collection * watch synchronizer.collection)
    (changed : [notice] ∈ change synchronizer.collection) :
    word ++ [notice] ∈ asking synchronizer.collection * watch synchronizer.collection := by
  obtain ⟨asked, asking, watched, watch, rfl⟩ := Language.mem_mul.mp member
  rw [List.append_assoc]
  exact Language.append_mem_mul asking
    (Set.mem_of_mem_of_subset (Language.append_mem_mul watch changed) watch_change_le)

variable [Resource α]

/-- With what a passage tells, a run has told what it has by the time it waits at the next stage. -/
theorem Passage.told {credential : Credential} {next : Run α} {phase : Phase}
    {effects : List (Effect α)}
    (passage : Passage synchronizer credential run signal phase next effects)
    (member : word ∈ run.stage.told synchronizer.collection) :
    word ++ notices effects ∈ next.stage.told synchronizer.collection := by
  cases passage with
  | asked resumes _ =>
    have asking := asking_mem_of_resumes resumes member
    rw [notices_append, notices_cons, notices_askEffects]
    exact (List.append_nil (notices _)).symm ▸ asking
  | @unasked _ _ error resumes _ =>
    have asking := asking_mem_of_resumes resumes member
    have failed := failed_mem_of_asking run.relisting error.toFailure asking
    rw [List.append_assoc] at failed
    rw [notices_append, notices_cons]
    exact failed
  | @listed _ _ _ list _ listing _ _ _ =>
    rw [listing] at member
    rw [notices_append, notices_log, List.nil_append, notices_append, notices_watchEffects,
      List.append_nil]
    exact watch_mem_of_list run list member
  | @unwatched _ _ _ list error listing _ _ _ =>
    rw [listing] at member
    have watched := watch_mem_of_list run list member
    have failed := failed_mem_of_watch (run.relisted list) error.toFailure watched
    rw [List.append_assoc] at failed
    rw [notices_append, notices_log, List.nil_append, notices_append]
    exact failed
  | opened opening _ =>
    rw [opening] at member
    rw [notices_nil, List.append_nil]
    exact member
  | @applied _ _ change _ reading _ =>
    rw [reading] at member
    rw [notices_append, notices_log, List.nil_append]
    rcases notices_changeEffects synchronizer.collection run.replica change with
      none | ⟨kind, key, outcome, one⟩ | ⟨object, -, -, one⟩
    -- A change that makes no difference is not told.
    · rw [none, List.append_nil]
      exact member
    · rw [one]
      exact watch_mem_of_change member (Or.inl ⟨kind, key, outcome, rfl⟩)
    · rw [one]
      exact watch_mem_of_change member (Or.inr ⟨_, _, _, rfl⟩)
  | fed reading _ =>
    rw [reading] at member
    rw [notices_nil, List.append_nil]
    exact member
  | failed breaks =>
    rw [notices_append, notices_log, List.nil_append]
    generalize run.stage = stage at breaks member
    cases breaks with
    | list _ _ => exact failed_mem_of_asking _ _ member
    | opening _ => exact failed_mem_of_watch _ _ member
    | line _ => exact failed_mem_of_watch _ _ member
    | stream _ => exact failed_mem_of_watch _ _ member
    | closed _ => exact failed_mem_of_watch _ _ member

end Words

/-! ## The notices of a life -/

/-- Only the first act decides what is told before any run, and only when it is a stop. -/
theorem Grammar.life_concat (collection : String) {acts : List Act} {act : Act}
    (settled : acts = [] → act ≠ .stop) :
    life collection (acts ++ [act]) = life collection acts := by
  cases acts with
  | nil =>
    cases act with
    | stop => exact absurd rfl (settled rfl)
    | start | step _ _ => rfl
  | cons first acts => cases first <;> rfl

/-- The words of the runs so far and of a run that is stopped are those of the runs so far. -/
theorem Grammar.append_stopped_mem {collection : String} {acts : List Act} {stage : Stage}
    {word : List Notice} (member : word ∈ life collection acts * stage.told collection) :
    word ++ [.phaseChanged collection .stopped] ∈ life collection acts := by
  refine Set.mem_of_mem_of_subset (Language.append_mem_mul member (mem_told .stopped)) ?_
  calc life collection acts * stage.told collection * told collection .stopped
      ≤ life collection acts * run collection := by
        rw [mul_assoc]
        gcongr
        exact stage.told_stopped_le
    _ ≤ life collection acts := by
        rw [life, mul_assoc]
        gcongr
        exact kstar_mul_le_kstar

/-- What may have been told after several acts, as the run stands. -/
def Synchronizer.told (synchronizer : Synchronizer α) (acts : List Act) : Language Notice :=
  match synchronizer.run with
  | some run => Grammar.life synchronizer.collection acts * run.stage.told synchronizer.collection
  | none => Grammar.life synchronizer.collection acts

/-- The notices of a turn follow the grammar, and none has been told before the first act. -/
structure Turn.Follows (turn : Turn α) (acts : List Act) : Prop where
  told : notices turn.effects ∈ turn.synchronizer.told acts
  fresh : acts = [] ↔ turn.synchronizer.phase = .idle
  silent : acts = [] → notices turn.effects = []

namespace Turn.Follows

variable {turn : Turn α} {acts : List Act} {run : Run α}

private theorem idle (follows : turn.Follows acts) (inactive : turn.synchronizer.run = none) :
    notices turn.effects ∈ life turn.collection acts := by
  have told := follows.told
  rw [Synchronizer.told, inactive] at told
  exact told

private theorem active (follows : turn.Follows acts) (active : turn.synchronizer.run = some run) :
    notices turn.effects ∈ life turn.collection acts * run.stage.told turn.collection := by
  have told := follows.told
  rw [Synchronizer.told, active] at told
  exact told

private theorem settled (follows : turn.Follows acts)
    (active : turn.synchronizer.phase ≠ .idle) : acts ≠ [] :=
  fun none => active (follows.fresh.mp none)

theorem deed [Resource α] {act : Act} {phase : Phase} {next : Option (Run α)}
    {effects : List (Effect α)} (follows : turn.Follows acts)
    (coherent : turn.synchronizer.Coherent)
    (deed : Deed turn.synchronizer act phase next effects) :
    (turn.advance phase next effects).Follows (acts ++ [act]) := by
  have moved : phase ≠ .idle := deed.phase_ne_idle coherent
  refine ⟨?_, by simp [moved], by simp⟩
  rw [advance_effects, notices_append]
  cases deed with
  | started inactive =>
    change _ ∈ life turn.collection (acts ++ [.start]) * Grammar.told turn.collection .syncing
    rw [life_concat _ fun _ => Act.noConfusion]
    exact Language.append_mem_mul (follows.idle inactive) (mem_told .syncing)
  | @startedAgain run active =>
    change _ ∈ life turn.collection (acts ++ [.start]) * run.stage.told turn.collection
    rw [life_concat _ fun _ => Act.noConfusion]
    simpa [Effect.notice?] using follows.active active
  | @stepped credential signal run _ next _ active passage =>
    change _ ∈ life turn.collection (acts ++ [.step credential signal]) *
      next.stage.told turn.collection
    rw [life_concat _ fun _ => Act.noConfusion]
    obtain ⟨before, earlier, now, member, whole⟩ := Language.mem_mul.mp (follows.active active)
    rw [← whole, List.append_assoc]
    exact Language.append_mem_mul earlier (passage.told member)
  | @stopped run active =>
    -- The run was started by an act before, so this stop is not the first.
    have busy : turn.synchronizer.phase ≠ .idle := by
      intro idle
      simpa [idle, Phase.isActive] using coherent.isActive active
    change _ ∈ life turn.collection (acts ++ [.stop])
    rw [life_concat _ fun none => absurd none (follows.settled busy), notices_append,
      notices_lastEffects, List.nil_append]
    exact append_stopped_mem (follows.active active)
  | stoppedIdle inactive idle =>
    -- Only the first act finds the synchronizer idle.
    have none := follows.fresh.mpr idle
    subst none
    rw [follows.silent rfl]
    change [_] ++ [] ∈ Grammar.told turn.collection .stopped * (Grammar.run turn.collection)∗
    exact Language.append_mem_mul (mem_told .stopped) (Language.nil_mem_kstar _)
  | stoppedAgain inactive stopped =>
    have busy : turn.synchronizer.phase ≠ .idle := by
      rw [stopped]
      exact Phase.noConfusion
    change _ ∈ life turn.collection (acts ++ [.stop])
    rw [life_concat _ fun none => absurd none (follows.settled busy)]
    simpa [Effect.notice?] using follows.idle inactive

end Turn.Follows

/-! ## Anomalies -/

section Anomalies

variable [Resource α] {synchronizer : Synchronizer α} {act : Act}

/-- The change that the run takes with an act. -/
def Synchronizer.Handles (synchronizer : Synchronizer α) (act : Act) (run : Run α)
    (change : Change α) : Prop :=
  synchronizer.run = some run ∧ ∃ credential url decoder rest,
    act = .step credential .proceed ∧ run.stage = .reading url decoder ∧
    decoder.next α = (some (.ok change), rest)

private theorem Passage.of_handled {credential : Credential} {run next : Run α} {phase : Phase}
    {effects : List (Effect α)} {url : String} {decoder rest : LineDecoder} {change : Change α}
    (passage : Passage synchronizer credential run .proceed phase next effects)
    (reading : run.stage = .reading url decoder)
    (taken : decoder.next α = (some (.ok change), rest)) :
    effects = (Turn.remarks synchronizer.collection change).map .log ++
      changeEffects synchronizer.collection run.replica change := by
  -- While a line is at hand no other passage is possible.
  cases passage with
  | asked resumes _ => rw [reading] at resumes; cases resumes
  | unasked resumes _ => rw [reading] at resumes; cases resumes
  | listed listing _ _ _ => cases reading.symm.trans listing
  | unwatched listing _ _ _ => cases reading.symm.trans listing
  | applied reading' taken' =>
    cases reading.symm.trans reading'
    cases taken.symm.trans taken'
    rfl
  | failed breaks =>
    rw [reading] at breaks
    cases breaks with | line taken' =>
    cases taken.symm.trans taken'

/-- An anomaly is told just when the run takes a modification of an object that its replica does
not hold. -/
theorem anomaly_iff {next : Turn α} (coherent : synchronizer.Coherent)
    (acted : synchronizer.act act = some next) (collection : String) (kind : ChangeKind)
    (key : Option Key) (detail : String) :
    .anomaly collection kind key detail ∈ notices next.effects ↔
      ∃ run object, synchronizer.Handles act run (.modified object) ∧
        Resource.key object ∉ run.replica.keys ∧ collection = synchronizer.collection ∧
        kind = .modified ∧ key = some (Resource.key object) ∧ detail = Turn.notHeld := by
  obtain ⟨phase, run, effects, rfl, deed⟩ := Synchronizer.act_deed coherent acted
  rw [Turn.advance_effects, List.nil_append]
  constructor
  · intro told
    obtain ⟨credential, signal, current, next, rfl, active, rfl, passage⟩ :=
      deed.passage told (by simp)
    obtain ⟨url, decoder, change, rest, reading, rfl, taken, -, rfl⟩ := passage.handled told rfl
    rw [notices_append, notices_log, List.nil_append] at told
    rcases mem_notices_changeEffects told with ⟨_, _, _, same⟩ | ⟨object, rfl, absent, same⟩
    · cases same
    · cases same
      exact ⟨current, object, ⟨active, credential, url, decoder, rest, rfl, reading, taken⟩,
        absent, rfl, rfl, rfl, rfl⟩
  · rintro ⟨current, object, ⟨active, credential, url, decoder, rest, rfl, reading, taken⟩,
      absent, rfl, rfl, rfl, rfl⟩
    cases deed with | stepped active' passage =>
    cases active.symm.trans active'
    rw [passage.of_handled reading taken, changeEffects, if_neg absent]
    simp [Effect.notice?]

end Anomalies

/-! ## A whole life -/

theorem follows_life [Resource α] {client : Client} {options : Options} {acts : List Act}
    {turn : Turn α} (lived : (Synchronizer.create client options).life acts = some turn) :
    turn.Follows acts := by
  have begins : (Synchronizer.create (α := α) client options).unmoved.Follows [] :=
    ⟨Language.append_mem_mul (Language.nil_mem_one) (Language.nil_mem_kstar _),
      iff_of_true rfl rfl, fun _ => rfl⟩
  exact (Synchronizer.life_induction (motive := fun acts turn => turn.Follows acts)
    (Synchronizer.coherent_create client options) begins
    (fun coherent follows deed => follows.deed coherent deed) lived).2

/-- Where a run is active its word ends when it is stopped. -/
theorem Turn.Follows.exists_word {turn : Turn α} {acts : List Act} (follows : turn.Follows acts) :
    ∃ word ∈ Grammar.life turn.collection acts, notices turn.effects <+: word := by
  cases active : turn.synchronizer.run with
  | none => exact ⟨_, follows.idle active, List.prefix_refl _⟩
  | some run => exact ⟨_, append_stopped_mem (follows.active active), List.prefix_append _ _⟩

/-- For every order of starting, stopping and steps, and whatever the steps are given, the notices
so far begin a word of the grammar. Anomalies are told just for modifications of what the replica
does not hold. Every sequence of moves of the phase that may be asked for is granted, an act other
than a stop makes one of them and tells it, and nothing logged or told reports a refused move. -/
theorem notices_follow_grammar [Resource α] {client : Client} {options : Options}
    {acts : List Act} {turn : Turn α}
    (lived : (Synchronizer.create client options).life acts = some turn) :
    (∃ word ∈ Grammar.life client.path acts, notices turn.effects <+: word) ∧
    (∀ act next, turn.synchronizer.act act = some next → ∀ collection kind key detail,
      .anomaly collection kind key detail ∈ notices next.effects ↔
        ∃ run object, turn.synchronizer.Handles act run (.modified object) ∧
          Resource.key object ∉ run.replica.keys ∧ collection = client.path ∧
          kind = .modified ∧ key = some (Resource.key object) ∧ detail = Turn.notHeld) ∧
    (∀ act, ∀ moves ∈ turn.synchronizer.asks act,
      ∃ phase, turn.synchronizer.phase.moveAll moves = .ok phase) ∧
    (∀ act next, act ≠ .stop → turn.synchronizer.act act = some next →
      ∃ moves ∈ turn.synchronizer.asks act,
        turn.synchronizer.phase.moveAll moves = .ok next.synchronizer.phase ∧
        phases next.effects = moves.map Phase.Move.target) ∧
    ∀ effect ∈ turn.effects, ¬ effect.ReportsRefusal := by
  have created := Synchronizer.coherent_create (α := α) client options
  have coherent := Synchronizer.coherent_life created lived
  have path : turn.synchronizer.collection = client.path := by
    rw [Synchronizer.collection, Synchronizer.client_life created lived]
    rfl
  refine ⟨?_, ?_, asks_granted coherent, ?_, ?_⟩
  · rw [← path]
    exact (follows_life lived).exists_word
  · intro act next acted collection kind key detail
    rw [anomaly_iff coherent acted, path]
  · intro act next goes acted
    obtain ⟨phase, run, effects, rfl, deed⟩ := Synchronizer.act_deed coherent acted
    exact deed.moves coherent goes
  · exact unrefused_life created lived

/-- The notices of the short life, with a failed attempt and a stop, begin such a word. -/
theorem Sample.notices_follow_grammar_to_stop :
    ∃ word ∈ Grammar.life client.path (acts.take 10), notices (turn 10).effects <+: word :=
  (notices_follow_grammar (lived 10 (by decide +kernel))).1

end ListWatch
