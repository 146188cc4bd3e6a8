import ListWatch.Proofs.Synchronizer.Life

/-!
# Faithful effects

Observers see snapshots and are told notices. Effects are faithful when the two go
together: a snapshot holds something else than the one before only with a notice that
says so. Of faithful effects the keys of every snapshot can be told from the notices
since the last list, and after a failure nothing changes until another list. Every deed
is faithful, so every life is.
-/
namespace ListWatch

variable {α : Type}

/-! ## Following notices -/

/-- The keys held after a notice. -/
def Notice.replay (keys : List Key) : Notice → List Key
  | .applied _ _ key .appended => keys ++ [key]
  | .applied _ _ key .removed => keys.erase key
  | .applied _ _ _ _ | .phaseChanged _ _ | .resynced _ _ _ | .anomaly _ _ _ _ | .failure _ _ _ =>
    keys

/-- A notice of a list that came in. -/
def Notice.IsResync (notice : Notice) : Prop :=
  ∃ collection version count, notice = .resynced collection version count

def Notice.IsApplication (notice : Notice) : Prop :=
  ∃ collection kind key outcome, notice = .applied collection kind key outcome

/-- The last notice of a run. -/
def Notice.IsEnd (notice : Notice) : Prop := ∃ collection, notice = .phaseChanged collection .stopped

/-- A notice that neither tells of a snapshot nor of a failure. -/
def Notice.isPlain : Notice → Bool
  | .resynced _ _ _ | .applied _ _ _ _ | .phaseChanged _ .failed => false
  | .phaseChanged _ _ | .anomaly _ _ _ _ | .failure _ _ _ => true

/-- An effect that observers do not see. -/
def Effect.isSilent : Effect α → Bool
  | .send _ _ | .wait _ | .log _ => true
  | .emit _ | .publish _ => false

/-- Two snapshots that hold the same objects, as of the same version. -/
def Replica.SameContent (first second : Replica α) : Prop :=
  first.items = second.items ∧ first.resourceVersion = second.resourceVersion

theorem Replica.SameContent.trans {first second third : Replica α}
    (left : first.SameContent second) (right : second.SameContent third) :
    first.SameContent third :=
  ⟨left.1.trans right.1, left.2.trans right.2⟩

/-- Effects of which the notices tell what is published. Observers have seen a snapshot before; the
next one may hold the same while it stops counting as synced, or a list that is told at once, or
one change that is told at once, or nothing when the run ends. -/
inductive Faithful [Resource α] : Snapshot α → List (Effect α) → Prop where
  | nil {seen} : Faithful seen []
  | silent {seen effect rest} : effect.isSilent = true → Faithful seen rest →
      Faithful seen (effect :: rest)
  | plain {seen notice rest} : notice.isPlain = true → Faithful seen rest →
      Faithful seen (.emit notice :: rest)
  | staled {seen snapshot rest} : snapshot.SameContent seen → snapshot.freshness ≠ .synced →
      Faithful snapshot rest → Faithful seen (.publish snapshot :: rest)
  | failed {seen snapshot collection rest} : snapshot.SameContent seen →
      snapshot.freshness ≠ .synced → Faithful snapshot rest →
      Faithful seen (.emit (.phaseChanged collection .failed) :: .publish snapshot :: rest)
  | resynced {seen snapshot collection rest} : Faithful snapshot rest →
      Faithful seen (.publish snapshot ::
        .emit (.resynced collection snapshot.resourceVersion snapshot.items.length) :: rest)
  | applied {seen snapshot collection kind key outcome rest} : seen.freshness = .synced →
      snapshot.resourceVersion = seen.resourceVersion →
      snapshot.keys = (Notice.applied collection kind key outcome).replay seen.keys →
      Faithful snapshot rest →
      Faithful seen (.publish snapshot :: .emit (.applied collection kind key outcome) :: rest)
  | ended {seen rest} : (∃ notice ∈ notices rest, notice.IsEnd) → Faithful .empty rest →
      Faithful seen (.publish .empty :: rest)

theorem Effect.show_of_isSilent {effect : Effect α} (unseen : effect.isSilent = true)
    (before : Snapshot α) : effect.show before = before := by
  cases effect <;> first | rfl | exact absurd unseen Bool.false_ne_true

theorem Effect.notice?_of_isSilent {effect : Effect α} (unseen : effect.isSilent = true) :
    effect.notice? = none := by
  cases effect <;> first | rfl | exact absurd unseen Bool.false_ne_true

/-- Effects in which no list comes in and no run ends. -/
def Uninterrupted (effects : List (Effect α)) : Prop :=
  ∀ notice ∈ notices effects, ¬ notice.IsResync ∧ ¬ notice.IsEnd

theorem Uninterrupted.of_cons {effect : Effect α} {rest : List (Effect α)}
    (uninterrupted : Uninterrupted (effect :: rest)) : Uninterrupted rest := by
  intro notice member
  apply uninterrupted notice
  rw [notices_cons]
  exact List.mem_append_right _ member

namespace Faithful

variable [Resource α] {seen : Snapshot α} {first second before since effects : List (Effect α)}

theorem append (faithful : Faithful seen first) (further : Faithful (shown seen first) second) :
    Faithful seen (first ++ second) := by
  induction faithful with
  | nil => exact further
  | silent unseen _ ih =>
    rw [shown_cons, Effect.show_of_isSilent unseen] at further
    exact .silent unseen (ih further)
  | plain isPlain _ ih => exact .plain isPlain (ih further)
  | staled same stale _ ih => exact .staled same stale (ih further)
  | failed same stale _ ih => exact .failed same stale (ih further)
  | resynced _ ih => exact .resynced (ih further)
  | applied synced version keys _ ih => exact .applied synced version keys (ih further)
  | @ended _ rest told _ ih =>
    -- The notice of the end is still among those to come.
    obtain ⟨notice, member, isEnd⟩ := told
    have still : notice ∈ notices (rest ++ second) := by
      rw [notices_append]
      exact List.mem_append_left _ member
    exact .ended ⟨notice, still, isEnd⟩ (ih further)

theorem log (records : List LogRecord) : Faithful seen (records.map .log) := by
  induction records with
  | nil => exact .nil
  | cons record records ih => exact .silent rfl ih

/-! ### Cutting -/

/-- What is left of faithful effects is faithful, unless a snapshot was cut from the notice that
tells of it. -/
def Cut (seen : Snapshot α) (before since : List (Effect α)) : Prop :=
  Faithful (shown seen before) since ∨
    ∃ earlier snapshot, before = earlier ++ [.publish snapshot] ∧
      Faithful (shown seen earlier) (.publish snapshot :: since)

private theorem Cut.cons {effect : Effect α} (cut : Cut (effect.show seen) before since) :
    Cut seen (effect :: before) since := by
  rcases cut with faithful | ⟨earlier, snapshot, rfl, faithful⟩
  · exact Or.inl faithful
  · exact Or.inr ⟨effect :: earlier, snapshot, rfl, faithful⟩

theorem cut (faithful : Faithful seen (before ++ since)) : Cut seen before since := by
  -- Only where two effects belong together can the cut fall between them.
  generalize whole : before ++ since = effects at faithful
  induction faithful generalizing before with
  | nil =>
    obtain ⟨rfl, rfl⟩ := List.append_eq_nil_iff.mp whole
    exact Or.inl .nil
  | silent unseen rest ih =>
    rcases List.append_eq_cons_iff.mp whole with ⟨rfl, rfl⟩ | ⟨before, rfl, same⟩
    · exact Or.inl (.silent unseen rest)
    · exact Cut.cons (by rw [Effect.show_of_isSilent unseen]; exact ih same.symm)
  | plain isPlain rest ih =>
    rcases List.append_eq_cons_iff.mp whole with ⟨rfl, rfl⟩ | ⟨before, rfl, same⟩
    · exact Or.inl (.plain isPlain rest)
    · exact Cut.cons (ih same.symm)
  | staled content stale rest ih =>
    rcases List.append_eq_cons_iff.mp whole with ⟨rfl, rfl⟩ | ⟨before, rfl, same⟩
    · exact Or.inl (.staled content stale rest)
    · exact Cut.cons (ih same.symm)
  | ended told rest ih =>
    rcases List.append_eq_cons_iff.mp whole with ⟨rfl, rfl⟩ | ⟨before, rfl, same⟩
    · exact Or.inl (.ended told rest)
    · exact Cut.cons (ih same.symm)
  | failed content stale rest ih =>
    rcases List.append_eq_cons_iff.mp whole with ⟨rfl, rfl⟩ | ⟨before, rfl, same⟩
    · exact Or.inl (.failed content stale rest)
    -- Without its notice, the snapshot of a failure is one that holds the same.
    · rcases List.append_eq_cons_iff.mp same.symm with ⟨rfl, rfl⟩ | ⟨before, rfl, later⟩
      · exact Or.inl (.staled content stale rest)
      · exact Cut.cons (Cut.cons (ih later.symm))
  | resynced rest ih =>
    rcases List.append_eq_cons_iff.mp whole with ⟨rfl, rfl⟩ | ⟨before, rfl, same⟩
    · exact Or.inl (.resynced rest)
    · rcases List.append_eq_cons_iff.mp same.symm with ⟨rfl, rfl⟩ | ⟨before, rfl, later⟩
      · exact Or.inr ⟨[], _, rfl, .resynced rest⟩
      · exact Cut.cons (Cut.cons (ih later.symm))
  | applied synced version keys rest ih =>
    rcases List.append_eq_cons_iff.mp whole with ⟨rfl, rfl⟩ | ⟨before, rfl, same⟩
    · exact Or.inl (.applied synced version keys rest)
    · rcases List.append_eq_cons_iff.mp same.symm with ⟨rfl, rfl⟩ | ⟨before, rfl, later⟩
      · exact Or.inr ⟨[], _, rfl, .applied synced version keys rest⟩
      · exact Cut.cons (Cut.cons (ih later.symm))

/-- From a notice on effects are faithful again, or it told of the snapshot before it. -/
private theorem at_notice {notice : Notice}
    (faithful : Faithful seen (before ++ .emit notice :: since)) :
    Faithful (shown seen before) (.emit notice :: since) ∨
      (notice.IsApplication ∨ ∃ collection, notice = .resynced collection
          (shown seen before).resourceVersion (shown seen before).items.length) ∧
        Faithful (shown seen before) since := by
  rcases faithful.cut with there | ⟨earlier, snapshot, rfl, there⟩
  · exact Or.inl there
  · rw [shown_append]
    cases there with
    | silent unseen _ => cases unseen
    | staled _ _ rest => exact Or.inl rest
    | ended _ rest => exact Or.inl rest
    | resynced rest => exact Or.inr ⟨Or.inr ⟨_, rfl⟩, rest⟩
    | applied _ _ _ rest => exact Or.inr ⟨Or.inl ⟨_, _, _, _, rfl⟩, rest⟩

/-- A list is told as it was published. -/
theorem after_resynced {collection : String} {version : Option String} {count : Nat}
    (faithful : Faithful seen (before ++ .emit (.resynced collection version count) :: since)) :
    version = (shown seen before).resourceVersion ∧ count = (shown seen before).items.length ∧
      Faithful (shown seen before) since := by
  rcases faithful.at_notice with there | ⟨told, further⟩
  · cases there with
    | silent unseen _ => cases unseen
    | plain isPlain _ => cases isPlain
  · rcases told with ⟨_, _, _, _, same⟩ | ⟨_, same⟩
    · cases same
    · cases same
      exact ⟨rfl, rfl, further⟩

/-- A failure leaves what was held and has it no longer count as synced. -/
theorem after_failed {collection : String}
    (faithful : Faithful seen (before ++ .emit (.phaseChanged collection .failed) :: since)) :
    ∃ snapshot rest, since = .publish snapshot :: rest ∧
      snapshot.SameContent (shown seen before) ∧ snapshot.freshness ≠ .synced ∧
      Faithful snapshot rest := by
  rcases faithful.at_notice with there | ⟨told, -⟩
  · cases there with
    | silent unseen _ => cases unseen
    | plain isPlain _ => cases isPlain
    | failed content stale rest => exact ⟨_, _, rfl, content, stale, rest⟩
  · rcases told with ⟨_, _, _, _, same⟩ | ⟨_, same⟩ <;> cases same

/-! ### Between lists -/

private theorem replay_of_isPlain {notice : Notice} (isPlain : notice.isPlain = true)
    (keys : List Key) : notice.replay keys = keys := by
  cases notice with
  | applied _ _ _ _ => cases isPlain
  | phaseChanged _ _ | resynced _ _ _ | anomaly _ _ _ _ | failure _ _ _ => rfl

/-- While no list comes in and the run goes on, the notices of changes lead from the keys seen to
the keys shown, and the version stays. -/
theorem replays (faithful : Faithful seen effects) (uninterrupted : Uninterrupted effects) :
    (shown seen effects).keys = (notices effects).foldl Notice.replay seen.keys ∧
      (shown seen effects).resourceVersion = seen.resourceVersion := by
  induction faithful with
  | nil => exact ⟨rfl, rfl⟩
  | silent unseen _ ih =>
    rw [shown_cons, Effect.show_of_isSilent unseen, notices_cons,
      Effect.notice?_of_isSilent unseen]
    exact ih uninterrupted.of_cons
  | @plain _ notice rest isPlain _ ih =>
    simp only [notices_cons, Effect.notice?, Option.toList_some, List.singleton_append,
      List.foldl_cons, replay_of_isPlain isPlain]
    exact ih uninterrupted.of_cons
  | @staled seen snapshot rest same _ _ ih =>
    -- The same objects have the same keys.
    have keys : snapshot.keys = seen.keys := congrArg (List.map Resource.key) same.1
    rw [← keys, ← same.2]
    exact ih uninterrupted.of_cons
  | @failed seen snapshot _ rest same _ _ ih =>
    have keys : snapshot.keys = seen.keys := congrArg (List.map Resource.key) same.1
    rw [← keys, ← same.2]
    exact ih uninterrupted.of_cons.of_cons
  | resynced _ _ => exact absurd ⟨_, _, _, rfl⟩ (uninterrupted _ List.mem_cons_self).1
  | applied _ version keys _ ih =>
    obtain ⟨followed, still⟩ := ih uninterrupted.of_cons.of_cons
    rw [version] at still
    rw [keys] at followed
    exact ⟨followed, still⟩
  | ended told _ _ =>
    obtain ⟨notice, member, isEnd⟩ := told
    exact absurd isEnd (uninterrupted notice member).2

/-- After a failure no change is applied until a list came in. -/
theorem not_isApplication (faithful : Faithful seen effects) (stale : seen.freshness ≠ .synced)
    (uninterrupted : Uninterrupted effects) :
    ∀ notice ∈ notices effects, ¬ notice.IsApplication := by
  induction faithful with
  | nil => intro notice member; cases member
  | silent unseen _ ih =>
    rw [notices_cons, Effect.notice?_of_isSilent unseen]
    exact ih stale uninterrupted.of_cons
  | plain isPlain _ ih =>
    rw [notices_cons]
    intro notice member
    rcases List.mem_cons.mp member with rfl | member
    · rintro ⟨_, _, _, _, rfl⟩
      cases isPlain
    · exact ih stale uninterrupted.of_cons notice member
  | staled _ staled _ ih => exact ih staled uninterrupted.of_cons
  | failed _ staled _ ih =>
    intro notice member
    rcases List.mem_cons.mp member with rfl | member
    · rintro ⟨_, _, _, _, same⟩
      cases same
    · exact ih staled uninterrupted.of_cons.of_cons notice member
  -- Only a list makes what is seen count as synced again, which an application needs.
  | resynced _ _ => exact absurd ⟨_, _, _, rfl⟩ (uninterrupted _ List.mem_cons_self).1
  | applied synced _ _ _ _ => exact absurd synced stale
  | ended told _ _ =>
    obtain ⟨notice, member, isEnd⟩ := told
    exact absurd isEnd (uninterrupted notice member).2

/-- What is published holds the same while no notice tells of anything else. -/
theorem unchanged (faithful : Faithful seen effects) (uninterrupted : Uninterrupted effects)
    (unapplied : ∀ notice ∈ notices effects, ¬ notice.IsApplication) {snapshot : Snapshot α}
    (published : .publish snapshot ∈ effects) : snapshot.SameContent seen := by
  induction faithful with
  | nil => cases published
  | @silent _ effect rest unseen _ ih =>
    rcases List.mem_cons.mp published with rfl | published
    · cases unseen
    · rw [notices_cons, Effect.notice?_of_isSilent unseen] at unapplied
      exact ih uninterrupted.of_cons unapplied published
  | plain _ _ ih =>
    rcases List.mem_cons.mp published with same | published
    · cases same
    · exact ih uninterrupted.of_cons (fun _ member => unapplied _ (List.mem_cons_of_mem _ member))
        published
  | staled same _ _ ih =>
    rcases List.mem_cons.mp published with this | published
    · cases this
      exact same
    · exact (ih uninterrupted.of_cons unapplied published).trans same
  | failed same _ _ ih =>
    rcases List.mem_cons.mp published with other | published
    · cases other
    · rcases List.mem_cons.mp published with this | published
      · cases this
        exact same
      · refine (ih uninterrupted.of_cons.of_cons ?_ published).trans same
        exact fun _ member => unapplied _ (List.mem_cons_of_mem _ member)
  | resynced _ _ => exact absurd ⟨_, _, _, rfl⟩ (uninterrupted _ List.mem_cons_self).1
  | applied _ _ _ _ _ => exact absurd ⟨_, _, _, _, rfl⟩ (unapplied _ List.mem_cons_self)
  | ended told _ _ =>
    obtain ⟨notice, member, isEnd⟩ := told
    exact absurd isEnd (uninterrupted notice member).2

/-- From a failure on everything holds what was held then, until a list comes in or the run ends. -/
theorem unchanged_after_failed {collection : String}
    (faithful : Faithful seen (before ++ .emit (.phaseChanged collection .failed) :: since))
    (uninterrupted : Uninterrupted since) :
    (shown (shown seen before) since).SameContent (shown seen before) ∧
      ∀ snapshot, .publish snapshot ∈ since → snapshot.SameContent (shown seen before) := by
  obtain ⟨first, rest, rfl, content, stale, further⟩ := faithful.after_failed
  have quiet : Uninterrupted rest := uninterrupted.of_cons
  have unapplied := further.not_isApplication stale quiet
  have same (snapshot : Snapshot α) (published : .publish snapshot ∈ rest) :
      snapshot.SameContent (shown seen before) :=
    (further.unchanged quiet unapplied published).trans content
  refine ⟨?_, ?_⟩
  · change (shown first rest).SameContent _
    rcases shown_eq_or_mem first rest with last | published
    · rw [last]
      exact content
    · exact same _ published
  · intro snapshot published
    rcases List.mem_cons.mp published with this | published
    · cases this
      exact content
    · exact same snapshot published

end Faithful

/-! ## Lives are faithful -/

section Passages

variable [Resource α] {synchronizer : Synchronizer α} {run next : Run α}

private theorem faithful_phaseEffects (seen : Snapshot α) (collection : String) {phase : Phase}
    (other : phase ≠ .failed) : Faithful seen (phaseEffects collection phase) := by
  have isPlain : (Notice.phaseChanged collection phase).isPlain = true := by
    cases phase <;> first | rfl | exact absurd rfl other
  exact .silent rfl (.plain isPlain .nil)

private theorem faithful_failureEffects (failure : Failure) :
    Faithful run.replica (synchronizer.failureEffects run failure) :=
  .silent rfl (.failed ⟨rfl, rfl⟩ Freshness.noConfusion
    (.silent rfl (.plain rfl (.silent rfl .nil))))

private theorem faithful_listEffects (seen : Snapshot α) (list : ObjectList α) :
    Faithful seen (synchronizer.listEffects run list) :=
  .silent rfl (.resynced (faithful_phaseEffects _ _ Phase.noConfusion))

private theorem faithful_changeEffects (collection : String) {replica : Replica α}
    (synced : replica.freshness = .synced) (change : Change α) :
    Faithful replica (changeEffects collection replica change) := by
  cases change with
  | added object =>
    exact .applied synced (replica.apply_resourceVersion _) (replica.keys_apply_added object) .nil
  | modified object =>
    by_cases held : Resource.key object ∈ replica.keys
    · rw [changeEffects, if_pos held]
      exact .applied synced (replica.apply_resourceVersion _)
        (replica.keys_apply_modified object) .nil
    · rw [changeEffects, if_neg held]
      exact .silent rfl (.plain rfl .nil)
  | deleted object =>
    by_cases held : Resource.key object ∈ replica.keys
    · rw [changeEffects, if_pos held]
      exact .applied synced (replica.apply_resourceVersion _)
        (replica.keys_apply_deleted object) .nil
    · rw [changeEffects, if_neg held]
      exact .nil
  | bookmark _ => exact .nil
  | error _ => exact .nil
  | unknown _ => exact .nil

/-- A run that asks for a list goes on holding what it holds. -/
private theorem Resumes.faithful {stage : Stage} {signal : Signal} {opening rest : List (Effect α)}
    (resumes : Resumes synchronizer.collection stage signal opening)
    (further : Faithful run.relisting.replica rest) :
    Faithful run.replica (opening ++ .publish run.relisting.replica :: rest) := by
  have staled : Faithful run.replica (.publish run.relisting.replica :: rest) :=
    .staled ⟨rfl, rfl⟩ Freshness.noConfusion further
  cases resumes with
  | begin => exact staled
  | retry => exact (faithful_phaseEffects _ _ Phase.noConfusion).append staled

theorem Passage.faithful {credential : Credential} {signal : Signal} {phase : Phase}
    {effects : List (Effect α)}
    (passage : Passage synchronizer credential run signal phase next effects)
    (fits : run.stage.Fits synchronizer.phase run.replica) :
    Faithful run.replica effects := by
  cases passage with
  | asked resumes _ => exact resumes.faithful (.silent rfl (.silent rfl (.silent rfl .nil)))
  | unasked resumes _ => exact resumes.faithful (faithful_failureEffects _)
  | listed _ _ _ _ =>
    exact (Faithful.log _).append
      ((faithful_listEffects _ _).append (.silent rfl (.silent rfl .nil)))
  | unwatched _ _ _ _ =>
    exact (Faithful.log _).append ((faithful_listEffects _ _).append (faithful_failureEffects _))
  | opened _ _ => exact .nil
  | applied reading _ =>
    -- While a stream is read the replica counts as synced.
    rw [reading] at fits
    refine (Faithful.log _).append ?_
    rw [shown_log]
    exact faithful_changeEffects _ fits.2 _
  | fed _ _ => exact .nil
  | failed _ =>
    refine (Faithful.log _).append ?_
    rw [shown_log]
    exact faithful_failureEffects _

private theorem faithful_ended (seen : Snapshot α) (records : List LogRecord) (collection : String) :
    Faithful seen (.publish .empty :: (records.map .log ++ phaseEffects collection .stopped)) := by
  have told : .phaseChanged collection .stopped ∈
      notices (records.map .log ++ phaseEffects (α := α) collection .stopped) := by
    simp [phaseEffects, Effect.notice?]
  exact .ended ⟨_, told, collection, rfl⟩
    ((Faithful.log records).append (faithful_phaseEffects _ _ Phase.noConfusion))

theorem Deed.faithful {act : Act} {phase : Phase} {run : Option (Run α)}
    {effects : List (Effect α)} (coherent : synchronizer.Coherent)
    (deed : Deed synchronizer act phase run effects) :
    Faithful synchronizer.snapshot effects := by
  cases deed with
  | started _ =>
    exact (faithful_phaseEffects _ _ Phase.noConfusion).append (.silent rfl .nil)
  | startedAgain _ => exact .silent rfl .nil
  | stepped active passage =>
    rw [coherent.snapshot active]
    exact passage.faithful (coherent.fits active)
  | @stopped run active =>
    have snapshot := coherent.snapshot active
    have last (seen : Snapshot α) := faithful_ended seen
      [{ level := .debug, message := "sync run finished"
         fields := [("collection", synchronizer.collection)] },
        { level := .info, message := "sync stopped"
          fields := [("collection", synchronizer.collection)] }] synchronizer.collection
    cases staged : run.stage with
    | begun =>
      -- It shows that it was begun before it shows that nothing is held.
      rw [Synchronizer.lastEffects, staged, snapshot]
      exact .staled ⟨rfl, rfl⟩ Freshness.noConfusion (last _)
    | reading url _ =>
      rw [Synchronizer.lastEffects, staged]
      exact .silent rfl (last _)
    | listing _ => rw [Synchronizer.lastEffects, staged]; exact last _
    | opening _ => rw [Synchronizer.lastEffects, staged]; exact last _
    | resting => rw [Synchronizer.lastEffects, staged]; exact last _
  | stoppedIdle _ _ => exact faithful_ended _ [] _
  | stoppedAgain inactive _ =>
    rw [(coherent.inactive inactive).1]
    exact .staled ⟨rfl, rfl⟩ Freshness.noConfusion .nil

end Passages

/-- A life is faithful, and what its effects show at last is what is published. -/
theorem faithful_life [Resource α] {client : Client} {options : Options} {acts : List Act}
    {turn : Turn α} (lived : (Synchronizer.create client options).life acts = some turn) :
    Faithful .empty turn.effects ∧ turn.synchronizer.snapshot = shown .empty turn.effects := by
  refine (Synchronizer.life_induction
    (motive := fun _ turn =>
      Faithful .empty turn.effects ∧ turn.synchronizer.snapshot = shown .empty turn.effects)
    (Synchronizer.coherent_create client options) ⟨.nil, rfl⟩ ?_ lived).2
  rintro acts act turn phase run effects coherent ⟨faithful, snapshot⟩ deed
  rw [Turn.advance_effects, Turn.advance_snapshot, shown_append, ← snapshot]
  exact ⟨faithful.append (snapshot ▸ deed.faithful coherent), rfl⟩

end ListWatch
