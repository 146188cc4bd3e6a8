import ListWatch.Proofs.Event.Framing
import ListWatch.Proofs.Replica.History
import ListWatch.Proofs.Synchronizer.Published

/-!
# Mirroring a server

A server answers lists with its collection as it was after some step of its history, and
the watch opened after a list carries the changes that follow that step, cut into chunks
anywhere, until it hangs, ends, breaks or turns malformed. Under such a server, and across
any failures, what is published as synced mirrors the collection after the step of the
list and the changes taken since. The invariant ties the decoder to the bytes received and
the results it returned to the steps taken.
-/
namespace ListWatch

variable {α : Type} [Resource α]

/-! ## Servers -/

/-- Where a watch stands: the step of its list, the bytes of its stream received, and the number of
its lines taken. -/
structure Ledger where
  position : Nat := 0
  received : List UInt8 := []
  handled : Nat := 0

namespace Ledger

/-- The ledger after a step of a run, if a list that came in with it was as of `position`. -/
def next (ledger : Ledger) (position : Nat) : Stage → Signal → Ledger
  | .listing _, _ => { position }
  | .reading _ _, .body (.chunk bytes) => { ledger with received := ledger.received ++ bytes }
  | .reading _ _, .proceed => { ledger with handled := ledger.handled + 1 }
  | _, _ => ledger

def after (ledger : Ledger) (synchronizer : Synchronizer α) (position : Nat) : Act → Ledger
  | .step _ signal => match synchronizer.run with
    | some run => ledger.next position run.stage signal
    | none => ledger
  | .start | .stop => ledger

omit [Resource α] in
theorem after_step {synchronizer : Synchronizer α} {run : Run α}
    (active : synchronizer.run = some run) (ledger : Ledger) (position : Nat)
    (credential : Credential) (signal : Signal) :
    ledger.after synchronizer position (.step credential signal) =
      ledger.next position run.stage signal := by
  simp only [after, active]

/-- The step of the history that a replica should be at. -/
def step (ledger : Ledger) : Nat := ledger.position + ledger.handled

end Ledger

namespace History

/-- The lines of a stream are the changes after a step, up to some later one, and then perhaps
a malformed line. -/
def Streams (history : History α) (position : Nat) (bytes : List UInt8) : Prop :=
  ∃ count tail, streamResults α bytes =
      ((history.changes.drop position).take count).map .ok ++ tail ∧
    ∀ change, tail.head? ≠ some (.ok change)

/-- What an act brings in from the server agrees with its history. -/
structure Agrees (history : History α) (synchronizer : Synchronizer α) (ledger : Ledger)
    (position : Nat) (act : Act) : Prop where
  list : ∀ list, synchronizer.Receives act list →
    (Replica.replaceAll {} list).Mirrors (history.after position)
  stream : history.Streams (ledger.after synchronizer position act).position
    (ledger.after synchronizer position act).received

/-- The lives of a synchronizer whose server has a history. -/
inductive Serves (history : History α) (client : Client) (options : Options) :
    Ledger → Turn α → Prop where
  | created : Serves history client options {} (Synchronizer.create client options).unmoved
  | acted {ledger turn position act next} : Serves history client options ledger turn →
      history.Agrees turn.synchronizer ledger position act → turn.follow act = some next →
      Serves history client options (ledger.after turn.synchronizer position act) next

end History

/-! ## The invariant -/

/-- Where a run watches, its replica mirrors the collection after the changes taken, and its decoder
has returned just those. -/
def Stage.Keeps (history : History α) (ledger : Ledger) (replica : Replica α) : Stage → Prop
  | .begun | .listing _ | .resting => True
  | .opening _ => ledger.received = [] ∧ ledger.handled = 0 ∧
      replica.Mirrors (history.after ledger.step)
  | .reading _ decoder =>
    decoder.HasRead ledger.received
        (((history.changes.drop ledger.position).take ledger.handled).map .ok) ∧
      ledger.handled ≤ (history.changes.drop ledger.position).length ∧
      replica.Mirrors (history.after ledger.step)

/-- At the stages without a watch a replica does not count as synced, and at the others it mirrors
the collection. -/
theorem Stage.Keeps.mirrors {history : History α} {ledger : Ledger} {replica : Replica α}
    {stage : Stage} {phase : Phase} (keeps : stage.Keeps history ledger replica)
    (fits : stage.Fits phase replica) (synced : replica.freshness = .synced) :
    replica.Mirrors (history.after ledger.step) := by
  cases stage with
  | begun => rw [fits.2] at synced; cases synced
  | listing _ => rw [fits.2] at synced; cases synced
  | resting => rw [fits.2] at synced; cases synced
  | opening _ => exact keeps.2.2
  | reading _ _ => exact keeps.2.2

/-- Results without an error come before the malformed line. -/
private theorem isPrefix_of_map_ok {ε β : Type} {results changes : List β}
    {tail : List (Except ε β)} (malformed : ∀ change, tail.head? ≠ some (.ok change))
    (initial : results.map .ok <+: changes.map .ok ++ tail) : results <+: changes := by
  induction results generalizing changes with
  | nil => exact List.nil_prefix
  | cons result results ih =>
    cases changes with
    | nil =>
      cases tail with
      | nil => simp at initial
      | cons first tail =>
        -- With no change left, this result would be the malformed line.
        rw [List.map_cons, List.map_nil, List.nil_append, List.cons_prefix_cons] at initial
        exact absurd (congrArg some initial.1.symm) (malformed result)
    | cons change changes =>
      rw [List.map_cons, List.map_cons, List.cons_append, List.cons_prefix_cons] at initial
      obtain ⟨same, later⟩ := initial
      cases same
      exact List.cons_prefix_cons.mpr ⟨rfl, ih later⟩

/-- The change that a decoder returns next is the next of the history. -/
private theorem getElem?_of_next {history : History α} {position handled : Nat}
    {bytes : List UInt8} {decoder rest : LineDecoder} {change : Change α}
    (streams : history.Streams position bytes)
    (read : decoder.HasRead bytes (((history.changes.drop position).take handled).map .ok))
    (within : handled ≤ (history.changes.drop position).length)
    (taken : decoder.next α = (some (.ok change), rest)) :
    (history.changes.drop position)[handled]? = some change := by
  obtain ⟨count, tail, lines, malformed⟩ := streams
  -- What was returned, and this change after it, is a beginning of what the stream says.
  have after := read.next.1.isPrefix
  rw [taken, Option.toList_some, lines] at after
  have initial : (history.changes.drop position).take handled ++ [change] <+:
      (history.changes.drop position).take count := by
    apply isPrefix_of_map_ok malformed
    simpa using after
  obtain ⟨more, whole⟩ := initial.trans (List.take_prefix count _)
  have length : ((history.changes.drop position).take handled).length = handled :=
    List.length_take_of_le within
  rw [← whole, List.append_assoc, List.getElem?_append_right (by rw [length]), length]
  simp

theorem Passage.keeps {history : History α} {ledger : Ledger} {position : Nat}
    {synchronizer : Synchronizer α} {credential : Credential} {run next : Run α} {signal : Signal}
    {phase : Phase} {effects : List (Effect α)}
    (passage : Passage synchronizer credential run signal phase next effects)
    (active : synchronizer.run = some run)
    (agrees : history.Agrees synchronizer ledger position (.step credential signal))
    (keeps : run.stage.Keeps history ledger run.replica) :
    next.stage.Keeps history (ledger.next position run.stage signal) next.replica := by
  have streams := agrees.stream
  rw [Ledger.after_step active] at streams
  cases passage with
  | asked _ _ => trivial
  | unasked _ _ => trivial
  | listed listing given concluded _ =>
    -- The list mirrors its own step, and nothing of its watch was taken yet.
    have mirrors := agrees.list _ ⟨_, _, _, _, _, active, listing, rfl, given, concluded⟩
    rw [listing]
    exact ⟨rfl, rfl, mirrors⟩
  | unwatched _ _ _ _ => trivial
  | opened opening _ =>
    rw [opening] at keeps ⊢
    obtain ⟨unread, untaken, mirrors⟩ := keeps
    refine ⟨?_, ?_, mirrors⟩
    · change ({} : LineDecoder).HasRead ledger.received
        (((history.changes.drop ledger.position).take ledger.handled).map .ok)
      rw [unread, untaken]
      exact LineDecoder.hasRead_new
    · change ledger.handled ≤ _
      rw [untaken]
      exact Nat.zero_le _
  | @applied _ _ change rest reading taken =>
    rw [reading] at keeps streams ⊢
    obtain ⟨read, within, mirrors⟩ := keeps
    -- The change taken is the next of the history, so decoder and replica advance together.
    have found : (history.changes.drop ledger.position)[ledger.handled]? = some change :=
      getElem?_of_next streams read within taken
    have there : history.changes[ledger.step]? = some change := by
      rw [Ledger.step, ← List.getElem?_drop]
      exact found
    refine ⟨?_, ?_, ?_⟩
    · have after := read.next.1
      rw [taken] at after
      change rest.HasRead ledger.received
        (((history.changes.drop ledger.position).take (ledger.handled + 1)).map .ok)
      rw [List.take_add_one, found]
      simpa using after
    · exact (List.getElem?_eq_some_iff.mp found).1
    · change Replica.Mirrors _ (history.after (ledger.step + 1))
      rw [History.after_succ there]
      exact mirrors.apply (History.lawful_of_getElem there)
  | fed reading taken =>
    rw [reading] at keeps ⊢
    obtain ⟨read, within, mirrors⟩ := keeps
    have after := read.next.1
    rw [taken, Option.toList_none, List.append_nil] at after
    exact ⟨after.feed _, within, mirrors⟩
  | failed _ => trivial

/-- Whatever a passage publishes as synced mirrors the collection after the step that is then taken. -/
theorem Passage.mirrors_published {history : History α} {ledger : Ledger} {position : Nat}
    {synchronizer : Synchronizer α} {credential : Credential} {run next : Run α} {signal : Signal}
    {phase : Phase} {effects : List (Effect α)} {snapshot : Snapshot α}
    (passage : Passage synchronizer credential run signal phase next effects)
    (active : synchronizer.run = some run)
    (agrees : history.Agrees synchronizer ledger position (.step credential signal))
    (keeps : run.stage.Keeps history ledger run.replica)
    (published : .publish snapshot ∈ effects) (synced : snapshot.freshness = .synced) :
    snapshot.Mirrors (history.after (ledger.next position run.stage signal).step) := by
  have kept := passage.keeps active agrees keeps
  cases passage with
  | asked resumes _ =>
    simp [resumes.not_published_mem] at published
    rw [published] at synced
    cases synced
  | unasked resumes _ =>
    simp [resumes.not_published_mem] at published
    rcases published with rfl | rfl <;> cases synced
  | listed listing given concluded _ =>
    have mirrors := agrees.list _ ⟨_, _, _, _, _, active, listing, rfl, given, concluded⟩
    rw [listing]
    simp at published
    exact mirrors.of_items (congrArg Replica.items published)
  | unwatched listing given concluded _ =>
    have mirrors := agrees.list _ ⟨_, _, _, _, _, active, listing, rfl, given, concluded⟩
    rw [listing]
    simp at published
    rcases published with rfl | rfl
    · exact mirrors.of_items rfl
    · cases synced
  | opened _ _ => cases published
  | applied reading taken =>
    rw [List.mem_append] at published
    rcases published with logged | published
    · simp at logged
    · rw [eq_of_published_mem_changeEffects published]
      rw [reading] at kept ⊢
      exact kept.2.2
  | fed _ _ => cases published
  | failed _ =>
    simp at published
    rw [published] at synced
    cases synced

namespace History.Serves

variable {history : History α} {client : Client} {options : Options} {ledger : Ledger}
  {turn : Turn α}

/-- A life with a server is a life. -/
theorem lived (serves : history.Serves client options ledger turn) :
    ∃ acts, (Synchronizer.create client options).life acts = some turn := by
  induction serves with
  | created => exact ⟨[], rfl⟩
  | @acted _ _ _ act next _ _ followed ih =>
    obtain ⟨acts, lived⟩ := ih
    refine ⟨acts ++ [act], ?_⟩
    rw [Synchronizer.life_concat, lived]
    exact followed

theorem coherent (serves : history.Serves client options ledger turn) :
    turn.synchronizer.Coherent := by
  obtain ⟨acts, lived⟩ := serves.lived
  exact Synchronizer.coherent_life (Synchronizer.coherent_create client options) lived

theorem keeps (serves : history.Serves client options ledger turn) :
    ∀ run, turn.synchronizer.run = some run → run.stage.Keeps history ledger run.replica := by
  induction serves with
  | created => intro run active; cases active
  | acted serves agrees followed ih =>
    intro run active
    obtain ⟨phase, next, effects, rfl, deed⟩ := Synchronizer.follow_deed serves.coherent followed
    rw [Turn.advance_run] at active
    subst active
    cases deed with
    | started _ => trivial
    | startedAgain active => exact ih run active
    | stepped active passage =>
      rw [Ledger.after_step active]
      exact passage.keeps active agrees (ih _ active)

end History.Serves

/-- Under a server with a history, what is published as synced mirrors the collection after the step
of the last list and the changes taken since, at every point of a life and within every act. And
from a failure until another list comes in or the run ends, the objects published are those
published when it happened. -/
theorem mirrors_history {history : History α} {client : Client} {options : Options}
    {ledger : Ledger} {turn : Turn α} (serves : history.Serves client options ledger turn) :
    (turn.synchronizer.snapshot.freshness = .synced →
      turn.synchronizer.snapshot.Mirrors (history.after ledger.step)) ∧
    (∀ position act next, history.Agrees turn.synchronizer ledger position act →
      turn.synchronizer.act act = some next →
      ∀ snapshot, .publish snapshot ∈ next.effects → snapshot.freshness = .synced →
        snapshot.Mirrors (history.after (ledger.after turn.synchronizer position act).step)) ∧
    ∀ before since collection,
      turn.effects = before ++ .emit (.phaseChanged collection .failed) :: since →
      Uninterrupted since →
      turn.synchronizer.snapshot.items = (shown .empty before).items ∧
        ∀ snapshot, .publish snapshot ∈ since → snapshot.items = (shown .empty before).items := by
  have coherent := serves.coherent
  refine ⟨?_, ?_, ?_⟩
  · intro synced
    cases active : turn.synchronizer.run with
    | none =>
      rw [(coherent.inactive active).1] at synced
      cases synced
    | some run =>
      rw [coherent.snapshot active] at synced ⊢
      exact (serves.keeps run active).mirrors (coherent.fits active) synced
  · intro position act next agrees acted snapshot published synced
    obtain ⟨phase, run, effects, rfl, deed⟩ := Synchronizer.act_deed coherent acted
    rw [Turn.advance_effects, List.nil_append] at published
    obtain ⟨credential, signal, current, next, rfl, active, rfl, passage⟩ :=
      deed.passage_of_published published synced
    rw [Ledger.after_step active]
    exact passage.mirrors_published active agrees (serves.keeps current active) published synced
  · intro before since collection split uninterrupted
    obtain ⟨acts, lived⟩ := serves.lived
    obtain ⟨faithful, snapshot⟩ := faithful_life lived
    rw [split] at faithful
    obtain ⟨last, all⟩ := faithful.unchanged_after_failed uninterrupted
    refine ⟨?_, fun other published => (all other published).1⟩
    rw [snapshot, split, shown_append]
    exact last.1

namespace Sample

def first : UntypedObject := .named none "first"

def second : UntypedObject := .named none "second"

/-- The server of the short life holds one object and adds another. -/
def history : History UntypedObject where
  initial := [first]
  changes := [.added second]
  distinct := List.nodup_singleton _
  lawful :=
    have absent : Replica.get? { items := [first] } (Resource.key second) = none := by
      decide +kernel
    ⟨absent, trivial⟩

/-- One more act of the short life, served from the beginning of the history. -/
private theorem serve {count : Nat} {ledger next : Ledger} (act : Act)
    (serves : history.Serves client {} ledger (turn count))
    (further : acts.take (count + 1) = acts.take count ++ [act])
    (alive : ((Synchronizer.create client {} : Synchronizer UntypedObject).life
      (acts.take (count + 1))).isSome = true)
    (received : ∀ list, (turn count).synchronizer.Receives act list →
      (Replica.replaceAll {} list).Mirrors (history.after 0))
    (moved : ledger.after (turn count).synchronizer 0 act = next)
    (streams : history.Streams next.position next.received) :
    history.Serves client {} next (turn (count + 1)) := by
  have later := lived _ alive
  rw [further, Synchronizer.life_concat] at later
  obtain ⟨earlier, before, followed⟩ := Option.bind_eq_some_iff.mp later
  have same : turn count = earlier := by
    rw [turn, before]
    rfl
  rw [← same] at followed
  subst moved
  exact serves.acted ⟨received, streams⟩ followed

private theorem streams_of_open {bytes : List UInt8}
    (unread : streamResults UntypedObject bytes = []) : history.Streams 0 bytes :=
  ⟨0, [], unread, by simp⟩

private theorem not_received_of_start {synchronizer : Synchronizer UntypedObject}
    (list : ObjectList UntypedObject) (brought : synchronizer.Receives .start list) :
    (Replica.replaceAll {} list).Mirrors (history.after 0) := by
  obtain ⟨_, _, _, _, _, _, _, same, _⟩ := brought
  cases same

private theorem not_received {synchronizer : Synchronizer UntypedObject} {credential : Credential}
    {signal : Signal} (unanswered : signal.answer? synchronizer.client = none)
    (list : ObjectList UntypedObject)
    (brought : synchronizer.Receives (.step credential signal) list) :
    (Replica.replaceAll {} list).Mirrors (history.after 0) := by
  obtain ⟨_, _, _, _, _, _, _, same, given, _⟩ := brought
  cases same
  cases unanswered.symm.trans given

private theorem received {synchronizer : Synchronizer UntypedObject} {credential : Credential}
    (taken : ObjectList UntypedObject)
    (brought : synchronizer.Receives (.step credential (.answered (.ok list))) taken) :
    (Replica.replaceAll {} taken).Mirrors (history.after 0) := by
  obtain ⟨_, request, _, _, _, _, _, same, given, concluded⟩ := brought
  cases same
  cases given
  have decoded : ObjectList.decode UntypedObject list.payload =
      .ok { items := [first], resourceVersion := some "7" } := by decide +kernel
  have read : request.conclude (ObjectList.decode UntypedObject) (.ok list) =
      (ObjectList.decode UntypedObject list.payload).mapError (.body request.url.render) := rfl
  rw [read, decoded] at concluded
  cases concluded
  exact history.mirrors_initial.of_items rfl

/-- Once the change was taken, what is published mirrors the server as it is then. -/
theorem mirrors_history_of_addition :
    ∃ ledger, history.Serves client {} ledger (turn 7) ∧ ledger.step = 1 ∧
      (turn 7).synchronizer.snapshot.Mirrors (history.after 1) := by
  have begun : history.Streams 0 [] := streams_of_open (by decide)
  have cut : history.Streams 0 (line.take 9) := streams_of_open (by decide +kernel)
  have whole : history.Streams 0 line := ⟨1, [], by decide +kernel, by simp⟩
  have new : history.Serves client {} {} (turn 0) := .created
  have started : history.Serves client {} {} (turn 1) :=
    serve .start new rfl (by decide +kernel) not_received_of_start rfl begun
  have asked : history.Serves client {} {} (turn 2) :=
    serve _ started rfl (by decide +kernel) (not_received rfl) rfl begun
  have listed : history.Serves client {} {} (turn 3) :=
    serve _ asked rfl (by decide +kernel) received rfl begun
  have opened : history.Serves client {} {} (turn 4) :=
    serve _ listed rfl (by decide +kernel) (not_received rfl) rfl begun
  have fed : history.Serves client {} { received := line.take 9 } (turn 5) :=
    serve _ opened rfl (by decide +kernel) (not_received rfl) rfl cut
  have fedAgain : history.Serves client {} { received := line } (turn 6) :=
    serve _ fed rfl (by decide +kernel) (not_received rfl) rfl whole
  have taken : history.Serves client {} { received := line, handled := 1 } (turn 7) :=
    serve _ fedAgain rfl (by decide +kernel) (not_received rfl) rfl whole
  have synced : (turn 7).synchronizer.snapshot.freshness = .synced := by decide +kernel
  exact ⟨_, taken, rfl, (mirrors_history taken).1 synced⟩

end Sample

end ListWatch
