import ListWatch.Proofs.Synchronizer.Faithful

/-!
# What an act publishes

What an act publishes is accounted for by what it tells. Without a notice of a list, of
a change or of the end of the run, it is what was published before; with a list that came
in it is that list, and a change leaves the version alone. In particular a list or a watch
that fails, and an anomaly, leave everything as it was.
-/
namespace ListWatch

variable {α : Type}

/-- Everything that observers can see from the beginning of a turn's effects to their end holds
this. -/
def Turn.Shows (turn : Turn α) (content : Replica α) : Prop :=
  ∀ snapshot, snapshot = turn.synchronizer.snapshot ∨ .publish snapshot ∈ turn.effects →
    snapshot.SameContent content

namespace Synchronizer

variable [Resource α]

/-- The list that comes in with an act. -/
def Receives (synchronizer : Synchronizer α) (act : Act) (list : ObjectList α) : Prop :=
  ∃ run request credential signal answer, synchronizer.run = some run ∧
    run.stage = .listing request ∧ act = .step credential signal ∧
    signal.answer? synchronizer.client = some answer ∧
    request.conclude (ObjectList.decode α) answer = .ok list

/-- A list or a watch fails with an act. -/
inductive Falters (synchronizer : Synchronizer α) : Act → Prop where
  /-- There is no request, for want of a credential that can be sent. -/
  | unasked {run credential signal opening error} : synchronizer.run = some run →
      Resumes (α := α) synchronizer.collection run.stage signal opening →
      synchronizer.client.request credential (.list : Call α) = .error error →
      Falters synchronizer (.step credential signal)
  /-- The list or the watch that the run waits for breaks. -/
  | broken {run credential signal records failure} : synchronizer.run = some run →
      Breaks synchronizer run.stage signal records failure →
      Falters synchronizer (.step credential signal)

end Synchronizer

namespace Passage

variable [Resource α] {synchronizer : Synchronizer α} {credential : Credential}
  {run next : Run α} {signal : Signal} {phase : Phase} {effects : List (Effect α)}

/-- A passage that tells of a list has just received it, and publishes nothing else. -/
theorem received {collection : String} {version : Option String} {count : Nat}
    (passage : Passage synchronizer credential run signal phase next effects)
    (told : .resynced collection version count ∈ notices effects) :
    ∃ request answer list, run.stage = .listing request ∧
      signal.answer? synchronizer.client = some answer ∧
      request.conclude (ObjectList.decode α) answer = .ok list ∧
      version = list.resourceVersion ∧ count = list.items.length ∧
      next.replica.SameContent (.replaceAll {} list) ∧
      ∀ snapshot, .publish snapshot ∈ effects → snapshot.SameContent (.replaceAll {} list) := by
  cases passage with
  | asked resumes _ =>
    simp [Effect.notice?] at told
    cases resumes.mem_notices told
  | unasked resumes _ =>
    simp [Effect.notice?] at told
    cases resumes.mem_notices told
  | listed listing given concluded _ =>
    simp at told
    refine ⟨_, _, _, listing, given, concluded, told.2.1, told.2.2, ⟨rfl, rfl⟩, ?_⟩
    intro snapshot published
    simp at published
    subst published
    exact ⟨rfl, rfl⟩
  | unwatched listing given concluded _ =>
    simp at told
    refine ⟨_, _, _, listing, given, concluded, told.2.1, told.2.2, ⟨rfl, rfl⟩, ?_⟩
    -- The failure that follows publishes the list once more, no longer as synced.
    intro snapshot published
    simp at published
    rcases published with rfl | rfl <;> exact ⟨rfl, rfl⟩
  | opened _ _ => cases told
  | applied _ _ =>
    rw [notices_append, notices_log, List.nil_append] at told
    rcases mem_notices_changeEffects told with ⟨_, _, _, same⟩ | ⟨_, _, _, same⟩ <;> cases same
  | fed _ _ => cases told
  | failed _ => simp at told

/-- No passage ends the run. -/
theorem not_isEnd (passage : Passage synchronizer credential run signal phase next effects) :
    ∀ notice ∈ notices effects, ¬ notice.IsEnd := by
  rintro _ told ⟨collection, rfl⟩
  cases passage with
  | asked resumes _ =>
    simp [Effect.notice?] at told
    cases resumes.mem_notices told
  | unasked resumes _ =>
    simp [Effect.notice?] at told
    cases resumes.mem_notices told
  | listed _ _ _ _ => simp at told
  | unwatched _ _ _ _ => simp at told
  | opened _ _ => cases told
  | applied _ _ =>
    simp at told
    rcases mem_notices_changeEffects told with ⟨_, _, _, same⟩ | ⟨_, _, _, same⟩ <;> cases same
  | fed _ _ => cases told
  | failed _ => simp at told

end Passage

namespace Synchronizer

variable [Resource α]

/-- What an act tells accounts for what it publishes. -/
structure Accounts (synchronizer : Synchronizer α) (act : Act) (next : Turn α) : Prop where
  unchanged : (∀ notice ∈ notices next.effects,
      ¬ notice.IsResync ∧ ¬ notice.IsApplication ∧ ¬ notice.IsEnd) →
    next.Shows synchronizer.snapshot
  resynced : ∀ collection version count,
    .resynced collection version count ∈ notices next.effects →
    ∃ list, synchronizer.Receives act list ∧ version = list.resourceVersion ∧
      count = list.items.length ∧ next.Shows (.replaceAll {} list)
  applied : ∀ notice ∈ notices next.effects, notice.IsApplication →
    next.synchronizer.snapshot.resourceVersion = synchronizer.snapshot.resourceVersion
  ended : act = .stop → next.synchronizer.run = none ∧ next.Shows .empty
  faltered : synchronizer.Falters act → next.Shows synchronizer.snapshot
  anomalous : ∀ collection kind key detail,
    .anomaly collection kind key detail ∈ notices next.effects → next.Shows synchronizer.snapshot

variable {synchronizer : Synchronizer α} {act : Act} {phase : Phase} {run : Option (Run α)}
  {effects : List (Effect α)}

omit [Resource α] in
private theorem shows_of_published {content : Replica α}
    (last : (shown synchronizer.snapshot effects).SameContent content)
    (published : ∀ snapshot, .publish snapshot ∈ effects → snapshot.SameContent content) :
    (synchronizer.unmoved.advance phase run effects).Shows content := by
  rintro snapshot (rfl | member)
  · rw [Turn.advance_snapshot]
    exact last
  · exact published snapshot (by simpa using member)

private theorem shows_of_told_nothing (coherent : synchronizer.Coherent)
    (deed : Deed synchronizer act phase run effects)
    (nothing : ∀ notice ∈ notices effects,
      ¬ notice.IsResync ∧ ¬ notice.IsApplication ∧ ¬ notice.IsEnd) :
    (synchronizer.unmoved.advance phase run effects).Shows synchronizer.snapshot := by
  have published (snapshot : Snapshot α) (member : .publish snapshot ∈ effects) :
      snapshot.SameContent synchronizer.snapshot :=
    (deed.faithful coherent).unchanged
      (fun notice told => ⟨(nothing notice told).1, (nothing notice told).2.2⟩)
      (fun notice told => (nothing notice told).2.1) member
  refine shows_of_published ?_ published
  rcases shown_eq_or_mem synchronizer.snapshot effects with same | member
  · rw [same]
    exact ⟨rfl, rfl⟩
  · exact published _ member

/-- With a stop nothing is held any more, whatever was done before. -/
private theorem shows_empty (coherent : synchronizer.Coherent)
    (deed : Deed synchronizer .stop phase run effects) :
    run = none ∧ (synchronizer.unmoved.advance phase run effects).Shows .empty := by
  cases deed with
  | @stopped run active =>
    refine ⟨rfl, shows_of_published ?_ ?_⟩
    · rw [shown_append, shown_lastEffects]
      exact ⟨rfl, rfl⟩
    · intro snapshot member
      simp [published_mem_lastEffects] at member
      rcases member with ⟨begun, rfl⟩ | rfl
      -- A run that was just begun holds nothing yet.
      · have fits := coherent.fits active
        rw [begun] at fits
        rw [Run.relisting, fits.2]
        exact ⟨rfl, rfl⟩
      · exact ⟨rfl, rfl⟩
  | stoppedIdle _ _ =>
    refine ⟨rfl, shows_of_published ⟨rfl, rfl⟩ ?_⟩
    intro snapshot member
    simp at member
    subst member
    exact ⟨rfl, rfl⟩
  | stoppedAgain _ _ =>
    refine ⟨rfl, shows_of_published ⟨rfl, rfl⟩ ?_⟩
    intro snapshot member
    simp at member
    subst member
    exact ⟨rfl, rfl⟩

/-- What falters neither receives a list nor handles a change. -/
private theorem Falters.told_nothing (falters : synchronizer.Falters act)
    (deed : Deed synchronizer act phase run effects) :
    ∀ notice ∈ notices effects, ¬ notice.IsResync ∧ ¬ notice.IsApplication ∧ ¬ notice.IsEnd := by
  intro notice told
  cases falters with
  | unasked active resumes _ =>
    -- A run that asks for a list waits for none, and reads no stream.
    cases deed with | stepped active' passage =>
    cases active.symm.trans active'
    refine ⟨?_, ?_, passage.not_isEnd notice told⟩
    · rintro ⟨_, _, _, rfl⟩
      obtain ⟨_, _, _, listing, -⟩ := passage.received told
      rw [listing] at resumes
      cases resumes
    · rintro ⟨_, _, _, _, rfl⟩
      obtain ⟨_, _, _, _, reading, -⟩ := passage.handled told rfl
      rw [reading] at resumes
      cases resumes
  | broken active breaks =>
    -- An answer or a line that breaks is not one that came in whole.
    cases deed with | stepped active' passage =>
    cases active.symm.trans active'
    refine ⟨?_, ?_, passage.not_isEnd notice told⟩
    · rintro ⟨_, _, _, rfl⟩
      obtain ⟨_, _, _, listing, given, concluded, -⟩ := passage.received told
      rw [listing] at breaks
      cases breaks with | list given' concluded' =>
      cases given.symm.trans given'
      cases concluded.symm.trans concluded'
    · rintro ⟨_, _, _, _, rfl⟩
      obtain ⟨_, _, _, _, reading, rfl, taken, -⟩ := passage.handled told rfl
      rw [reading] at breaks
      cases breaks with | line taken' =>
      cases taken.symm.trans taken'

theorem act_accounts {next : Turn α} (coherent : synchronizer.Coherent)
    (acted : synchronizer.act act = some next) : synchronizer.Accounts act next := by
  obtain ⟨phase, run, effects, rfl, deed⟩ := act_deed coherent acted
  refine ⟨?_, ?_, ?_, ?_, ?_, ?_⟩
  · exact shows_of_told_nothing coherent deed
  · intro collection version count told
    obtain ⟨credential, signal, current, next, rfl, active, rfl, passage⟩ :=
      deed.passage told (by simp)
    obtain ⟨request, answer, list, listing, given, concluded, ofVersion, ofCount, last, published⟩ :=
      passage.received told
    refine ⟨list, ⟨current, request, credential, signal, answer, active, listing, rfl, given,
      concluded⟩, ofVersion, ofCount, shows_of_published ?_ published⟩
    rw [coherent.snapshot active, passage.shown]
    exact last
  · rintro notice told ⟨collection, kind, key, outcome, rfl⟩
    obtain ⟨credential, signal, current, next, rfl, active, rfl, passage⟩ :=
      deed.passage told (by simp)
    obtain ⟨url, decoder, change, rest, reading, rfl, taken, applied, -⟩ := passage.handled told rfl
    rw [Turn.advance_snapshot, coherent.snapshot active, passage.shown, applied,
      Replica.apply_resourceVersion]
  · rintro rfl
    exact shows_empty coherent deed
  · exact fun falters => shows_of_told_nothing coherent deed (falters.told_nothing deed)
  · intro collection kind key detail told
    obtain ⟨credential, signal, current, next, rfl, active, rfl, passage⟩ :=
      deed.passage told (by simp)
    obtain ⟨url, decoder, change, rest, reading, rfl, taken, applied, rfl⟩ :=
      passage.handled told rfl
    apply shows_of_told_nothing coherent deed
    rw [Turn.advance_effects, List.nil_append, notices_append, notices_log,
      List.nil_append] at told
    rcases mem_notices_changeEffects told with ⟨_, _, _, same⟩ | ⟨object, rfl, absent, -⟩
    · cases same
    -- A modification of what is not held is told as this one anomaly.
    · rw [changeEffects, if_neg absent]
      rintro notice member
      cases List.mem_singleton.mp member
      simp [Notice.IsResync, Notice.IsApplication, Notice.IsEnd]

/-- At every point of a life observers see the replica of the run. With every further act the
objects and the version published stay as they are, or become those of the list that came in and is
told, or the change that is told is made to the objects, or the run ends and nothing is held. And
whoever starts from the keys that were published with a list, and follows the notices of changes,
has the keys published now, unless another list came in or the run ended. -/
theorem published_follows_notices {client : Client} {options : Options} {acts : List Act}
    {turn : Turn α} (lived : (create client options).life acts = some turn) :
    (∀ run, turn.synchronizer.run = some run → turn.synchronizer.snapshot = run.replica) ∧
    (∀ act next, turn.synchronizer.act act = some next → turn.synchronizer.Accounts act next) ∧
    ∀ before since collection version count,
      turn.effects = before ++ .emit (.resynced collection version count) :: since →
      version = (shown .empty before).resourceVersion ∧
      count = (shown .empty before).items.length ∧
      (Uninterrupted since →
        turn.synchronizer.snapshot.keys =
          (notices since).foldl Notice.replay (shown .empty before).keys) := by
  have coherent := coherent_life (coherent_create client options) lived
  obtain ⟨faithful, snapshot⟩ := faithful_life lived
  refine ⟨fun run active => coherent.snapshot active, fun act next => act_accounts coherent, ?_⟩
  intro before since collection version count split
  rw [split] at faithful
  obtain ⟨ofVersion, ofCount, further⟩ := faithful.after_resynced
  refine ⟨ofVersion, ofCount, fun uninterrupted => ?_⟩
  rw [snapshot, split, shown_append]
  exact (further.replays uninterrupted).1

end Synchronizer

/-- In the short life the keys published after the change are those of the list and the change. -/
theorem Sample.published_follows_notices_of_addition :
    ∃ before since,
      (turn 7).effects = before ++ .emit (.resynced client.path (some "7") 1) :: since ∧
      (turn 7).synchronizer.snapshot.keys =
        (notices since).foldl Notice.replay (shown .empty before).keys := by
  have listed : (turn 7).effects[9]? = some (.emit (.resynced client.path (some "7") 1)) := by
    decide +kernel
  have told : notices ((turn 7).effects.drop 10) =
      [.phaseChanged client.path .watching,
        .applied client.path .added { scope := none, name := "second" } .appended] := by
    decide +kernel
  have uninterrupted : Uninterrupted ((turn 7).effects.drop 10) := by
    intro notice member
    rw [told] at member
    simp at member
    rcases member with rfl | rfl <;> simp [Notice.IsResync, Notice.IsEnd]
  obtain ⟨bound, there⟩ := List.getElem?_eq_some_iff.mp listed
  have split : (turn 7).effects = (turn 7).effects.take 9 ++
      .emit (.resynced client.path (some "7") 1) :: (turn 7).effects.drop 10 := by
    rw [← there, ← List.drop_eq_getElem_cons bound, List.take_append_drop]
  have follows := Synchronizer.published_follows_notices (lived 7 (by decide +kernel))
  exact ⟨_, _, split, (follows.2.2 _ _ _ _ _ split).2.2 uninterrupted⟩

end ListWatch
