import ListWatch.Client.Watch
import ListWatch.Proofs.Event.Framing

/-!
# What a watch hands over

A watch that is open hands over the changes of the whole lines it receives, once each and
in order, until a line is malformed, its handler cancels it, or the stream ends. How the
stream is cut makes no difference, because whatever lines are held are handed over before
anything more is received. So the bytes received decide where the watch stands, and one
invariant says how: `Handled`. It is found for the lines held by induction on their number,
and kept by every item of the body.
-/
namespace ListWatch

variable {α σ : Type}

/-! ## Changes before a malformed line -/

/-- The changes before the first malformed line. -/
def deliverable : List (Except LineError (Change α)) → List (Change α)
  | .ok change :: results => change :: deliverable results
  | .error _ :: _ | [] => []

/-- The first malformed line. -/
def malformed? : List (Except LineError (Change α)) → Option LineError
  | .ok _ :: results => malformed? results
  | .error error :: _ => some error
  | [] => none

/-- Without a malformed line all changes are handed over, and what follows decides the rest. -/
theorem deliverable_append {results : List (Except LineError (Change α))}
    (sound : malformed? results = none) (more : List (Except LineError (Change α))) :
    deliverable (results ++ more) = deliverable results ++ deliverable more ∧
      malformed? (results ++ more) = malformed? more := by
  induction results with
  | nil => exact ⟨rfl, rfl⟩
  | cons result results ih =>
    cases result with
    | error error => cases sound
    | ok change =>
      obtain ⟨changes, first⟩ := ih sound
      exact ⟨congrArg (change :: ·) changes, first⟩

/-- Nothing after a malformed line matters. -/
theorem deliverable_append_of_malformed {results : List (Except LineError (Change α))}
    {error : LineError} (malformed : malformed? results = some error)
    (more : List (Except LineError (Change α))) :
    deliverable (results ++ more) = deliverable results ∧
      malformed? (results ++ more) = some error := by
  induction results with
  | nil => cases malformed
  | cons result results ih =>
    cases result with
    | error error => exact ⟨rfl, malformed⟩
    | ok change =>
      obtain ⟨changes, first⟩ := ih malformed
      exact ⟨congrArg (change :: ·) changes, first⟩

theorem deliverable_isPrefix {results more : List (Except LineError (Change α))}
    (initial : results <+: more) : deliverable results <+: deliverable more := by
  obtain ⟨rest, rfl⟩ := initial
  cases found : malformed? results with
  | none => exact ⟨deliverable rest, (deliverable_append found rest).1.symm⟩
  | some error => exact ⟨[], by simp [(deliverable_append_of_malformed found rest).1]⟩

/-! ## Bodies -/

/-- How a body comes to its end, if it does. -/
inductive Ending where
  | closed
  | broken (error : TransportError)
  | hanging

/-- The bytes that a body gives before it ends. -/
def received : List BodyItem → List UInt8
  | .chunk bytes :: items => bytes ++ received items
  | .failed _ :: _ | .ended :: _ | [] => []

def ending : List BodyItem → Ending
  | .chunk _ :: items => ending items
  | .failed error :: _ => .broken error
  | .ended :: _ => .closed
  | [] => .hanging

theorem received_isPrefix (items more : List BodyItem) :
    received items <+: received (items ++ more) := by
  induction items with
  | nil => exact List.nil_prefix
  | cons item items ih =>
    cases item with
    | chunk bytes => exact List.prefix_append_right_inj bytes |>.mpr ih
    | failed error => exact List.prefix_refl _
    | ended => exact List.prefix_refl _

/-! ## Watches -/

/-- Whether the answer to a watch opens it: its status is 200, and a body follows. -/
def Opens (answer : Except TransportError StreamHead) : Prop :=
  ∃ head, answer = .ok head ∧ head.status = 200 ∧ head.hasBody = true

theorem openingError?_eq_none_iff (url : String) (answer : Except TransportError StreamHead) :
    openingError? url answer = none ↔ Opens answer := by
  cases answer with
  | error source => simp [openingError?, Opens]
  | ok head =>
    by_cases status : head.status = 200 <;> cases body : head.hasBody <;>
      simp [openingError?, Opens, status, body]

/-- A failure to open is never a clean end. -/
theorem watchResult_of_openingError? {url : String} {answer : Except TransportError StreamHead}
    {error : WatchError} (failed : openingError? url answer = some error) :
    watchResult (.error error) = .error error := by
  cases error with
  | cancelled _ =>
    cases answer with
    | error source => cases failed
    | ok head =>
      by_cases status : head.status = 200 <;> cases body : head.hasBody <;>
        simp [openingError?, status, body] at failed
  | connect _ _ | unexpectedStatus _ _ _ | missingBody _ | stream _ _ | line _ _ => rfl

/-- Takes every change, cancels nothing, and keeps them in order. -/
def Handler.recording (α : Type) : Handler α (List (Change α)) where
  handle changes change := changes ++ [change]

theorem Handler.foldl_recording (changes before : List (Change α)) :
    changes.foldl (Handler.recording α).handle before = before ++ changes := by
  induction changes generalizing before with
  | nil => simp
  | cons change changes ih =>
    rw [List.foldl_cons, ih]
    simp [Handler.recording]

/-- A handler that has made its way through some changes without cancelling. -/
def Handler.Goes (handler : Handler α σ) (held : σ) (changes : List (Change α)) : Prop :=
  ∀ earlier, earlier <+: changes → handler.cancelled (earlier.foldl handler.handle held) = false

theorem Handler.Goes.concat {handler : Handler α σ} {held : σ} {changes : List (Change α)}
    (goes : handler.Goes held changes) {change : Change α}
    (still : handler.cancelled ((changes ++ [change]).foldl handler.handle held) = false) :
    handler.Goes held (changes ++ [change]) := by
  intro earlier initial
  rcases List.prefix_concat_iff.mp initial with rfl | initial
  · exact still
  · exact goes earlier initial

namespace WatchState

variable [Resource α]

/-- What a watch gives once it is over. -/
def result? : WatchState → Option (Except WatchError WatchEnd)
  | .over result => some (watchResult result)
  | .opening _ | .reading _ _ => none

/-- A watch with what its handler holds, after one more signal. -/
def heed (handler : Handler α σ) (watch : WatchState × σ) (signal : WatchSignal) :
    WatchState × σ :=
  watch.1.step handler watch.2 signal

/-- A watch after several signals, from the request to open it. -/
def run (handler : Handler α σ) (url : String) (held : σ) (signals : List WatchSignal) :
    WatchState × σ :=
  signals.foldl (heed handler) (.opening url, held)

variable {handler : Handler α σ} {url : String} {held : σ} {watch : WatchState × σ}

theorem run_append (first second : List WatchSignal) :
    run handler url held (first ++ second) =
      second.foldl (heed handler) (run handler url held first) :=
  List.foldl_append

theorem foldl_heed_over (result : Except WatchError WatchEnd) (held : σ)
    (signals : List WatchSignal) :
    signals.foldl (heed handler) (.over result, held) = (.over result, held) := by
  induction signals with
  | nil => rfl
  | cons signal signals ih => exact ih

end WatchState

/-- Where an open watch stands after what it has received, and what its handler holds. -/
inductive Handled [Resource α] (handler : Handler α σ) (url : String) (held : σ)
    (bytes : List UInt8) : Ending → WatchState × σ → Prop where
  /-- The handler has cancelled the watch with the last change it took. -/
  | cancelled {ending changes change} : handler.Goes held changes →
      changes ++ [change] <+: deliverable (streamResults α bytes) →
      handler.cancelled ((changes ++ [change]).foldl handler.handle held) = true →
      Handled handler url held bytes ending
        (.over (.ok .cancelled), (changes ++ [change]).foldl handler.handle held)
  | malformed {ending error} : handler.Goes held (deliverable (streamResults α bytes)) →
      malformed? (streamResults α bytes) = some error →
      Handled handler url held bytes ending
        (.over (.error (.line url error)),
          (deliverable (streamResults α bytes)).foldl handler.handle held)
  | waiting {decoder : LineDecoder} : handler.Goes held (deliverable (streamResults α bytes)) →
      malformed? (streamResults α bytes) = none →
      decoder.HasRead bytes (streamResults α bytes) →
      Handled handler url held bytes .hanging
        (.reading url decoder, (deliverable (streamResults α bytes)).foldl handler.handle held)
  | broken {error} : handler.Goes held (deliverable (streamResults α bytes)) →
      malformed? (streamResults α bytes) = none →
      Handled handler url held bytes (.broken error)
        (.over (.error (.stream url error)),
          (deliverable (streamResults α bytes)).foldl handler.handle held)
  | closed : handler.Goes held (deliverable (streamResults α bytes)) →
      malformed? (streamResults α bytes) = none →
      Handled handler url held bytes .closed
        (.over (.ok .closed), (deliverable (streamResults α bytes)).foldl handler.handle held)

section Steps

variable [Resource α] {handler : Handler α σ} {url : String} {held : σ} {bytes : List UInt8}
  {watch : WatchState × σ}

/-- What follows a malformed line makes no difference to where the watch stands. -/
theorem handled_of_malformed {results : List (Except LineError (Change α))} {error : LineError}
    {ending : Ending} (goes : handler.Goes held (deliverable results))
    (found : malformed? results = some error) (initial : results <+: streamResults α bytes) :
    Handled handler url held bytes ending
      (.over (.error (.line url error)), (deliverable results).foldl handler.handle held) := by
  obtain ⟨rest, whole⟩ := initial
  obtain ⟨same, still⟩ := deliverable_append_of_malformed found rest
  rw [whole] at same still
  rw [← same] at goes ⊢
  exact .malformed goes still

/-- The lines held are handed over one by one, from where the watch stands after the results that
were returned before. -/
theorem handled_drainFrom {fuel : Nat} {decoder : LineDecoder}
    {results : List (Except LineError (Change α))} (read : decoder.HasRead bytes results)
    (sound : malformed? results = none) (goes : handler.Goes held (deliverable results))
    (enough : decoder.pending.length < fuel) :
    Handled handler url held bytes .hanging
      (WatchState.drainFrom handler url fuel decoder
        ((deliverable results).foldl handler.handle held)) := by
  induction fuel generalizing decoder results with
  | zero => omega
  | succ fuel ih =>
    have going := goes _ (List.prefix_refl _)
    obtain ⟨after, unfed⟩ := read.next
    simp only [WatchState.drainFrom, going, Bool.false_eq_true, if_false]
    rcases taken : decoder.next α with ⟨_ | result, rest⟩ <;> rw [taken] at after unfed
    · -- No line is left, so everything the bytes say has been returned.
      obtain ⟨all, -⟩ := after.of_not_mem (unfed rfl)
      rw [Option.toList_none, List.append_nil] at all after
      subst all
      exact .waiting goes sound after
    have shorter : rest.pending.length < decoder.pending.length :=
      LineDecoder.length_pending_of_next taken
    have initial := after.isPrefix
    rw [Option.toList_some] at after initial
    cases result with
    | error error =>
      obtain ⟨same, found⟩ := deliverable_append sound [.error error]
      rw [deliverable, List.append_nil] at same
      rw [← same] at goes ⊢
      exact handled_of_malformed goes found initial
    | ok change =>
      have grown : deliverable (results ++ [.ok change]) = deliverable results ++ [change] :=
        (deliverable_append sound _).1
      have still : malformed? (results ++ [.ok change]) = none := (deliverable_append sound _).2
      have took : handler.handle ((deliverable results).foldl handler.handle held) change =
          (deliverable results ++ [change]).foldl handler.handle held := by
        rw [List.foldl_append]
        rfl
      simp only [took]
      by_cases stopped :
          handler.cancelled ((deliverable results ++ [change]).foldl handler.handle held) = true
      · -- The next round finds the watch cancelled before it takes another line.
        obtain ⟨fuel, rfl⟩ : ∃ less, fuel = less + 1 := ⟨fuel - 1, by omega⟩
        simp only [WatchState.drainFrom, stopped, if_true]
        exact .cancelled goes (grown ▸ deliverable_isPrefix initial) stopped
      · have further : handler.Goes held (deliverable (results ++ [.ok change])) :=
          grown ▸ goes.concat (by simpa using stopped)
        rw [← grown]
        exact ih after still further (by omega)

namespace Handled

theorem chunk (stands : Handled handler url held bytes .hanging watch) (more : List UInt8) :
    Handled handler url held (bytes ++ more) .hanging
      (WatchState.heed handler watch (.body (.chunk more))) := by
  have said := streamResults_isPrefix α bytes more
  cases stands with
  | cancelled goes initial stopped =>
    exact .cancelled goes (initial.trans (deliverable_isPrefix said)) stopped
  | malformed goes found => exact handled_of_malformed goes found said
  | waiting goes sound read =>
    exact handled_drainFrom (read.feed more) sound goes (Nat.lt_succ_self _)

theorem failed (stands : Handled handler url held bytes .hanging watch) (error : TransportError) :
    Handled handler url held bytes (.broken error)
      (WatchState.heed handler watch (.body (.failed error))) := by
  cases stands with
  | cancelled goes initial stopped => exact .cancelled goes initial stopped
  | malformed goes found => exact .malformed goes found
  | waiting goes sound _ => exact .broken goes sound

theorem ended (stands : Handled handler url held bytes .hanging watch) :
    Handled handler url held bytes .closed (WatchState.heed handler watch (.body .ended)) := by
  cases stands with
  | cancelled goes initial stopped => exact .cancelled goes initial stopped
  | malformed goes found => exact .malformed goes found
  | waiting goes sound _ => exact .closed goes sound

/-- A watch whose body has ended is over. -/
theorem foldl_heed {ending : Ending} (stands : Handled handler url held bytes ending watch)
    (ended : ending ≠ .hanging) (signals : List WatchSignal) :
    signals.foldl (WatchState.heed handler) watch = watch := by
  cases stands with
  | waiting _ _ _ => exact absurd rfl ended
  | cancelled _ _ _ | malformed _ _ | broken _ _ | closed _ _ =>
    exact WatchState.foldl_heed_over _ _ signals

theorem items (stands : Handled handler url held bytes .hanging watch) (items : List BodyItem) :
    Handled handler url held (bytes ++ received items) (ending items)
      ((items.map .body).foldl (WatchState.heed handler) watch) := by
  induction items generalizing bytes watch with
  | nil => simpa [received, ending] using stands
  | cons item items ih =>
    rw [List.map_cons, List.foldl_cons]
    cases item with
    | chunk more =>
      rw [received, ← List.append_assoc]
      exact ih (stands.chunk more)
    | failed error =>
      have broken := stands.failed error
      rw [received, List.append_nil, broken.foldl_heed Ending.noConfusion]
      exact broken
    | ended =>
      have closed := stands.ended
      rw [received, List.append_nil, closed.foldl_heed Ending.noConfusion]
      exact closed

/-- The handler took the first of the changes that could be handed over: all of them, or those up to
the one with which it cancelled. -/
theorem exists_taken {ending : Ending} (stands : Handled handler url held bytes ending watch) :
    ∃ taken, taken <+: deliverable (streamResults α bytes) ∧
      watch.2 = taken.foldl handler.handle held ∧
      (handler.cancelled watch.2 = false → taken = deliverable (streamResults α bytes)) ∧
      ∀ earlier, earlier <+: taken →
        handler.cancelled (earlier.foldl handler.handle held) = true →
        earlier = taken ∧ watch.1 = .over (.ok .cancelled) := by
  cases stands with
  | @cancelled _ changes change goes initial stopped =>
    refine ⟨changes ++ [change], initial, rfl, ?_, ?_⟩
    · intro going
      rw [stopped] at going
      cases going
    · intro earlier before stops
      rcases List.prefix_concat_iff.mp before with last | before
      · exact ⟨last, rfl⟩
      · rw [goes earlier before] at stops
        cases stops
  -- In every other case nothing the handler took made it cancel.
  | malformed goes _ | waiting goes _ _ | broken goes _ | closed goes _ =>
    refine ⟨_, List.prefix_refl _, rfl, fun _ => rfl, ?_⟩
    intro earlier before stops
    rw [goes earlier before] at stops
    cases stops

end Handled

end Steps

/-! ## Whole watches -/

/-- What a watch is given: the answer to its request, and the body. -/
def conversation (answer : Except TransportError StreamHead) (items : List BodyItem) :
    List WatchSignal :=
  .opened answer :: items.map .body

section Whole

variable [Resource α] (handler : Handler α σ) (url : String) {held : σ}
  {answer : Except TransportError StreamHead}

theorem handled_run (going : handler.cancelled held = false) (opens : Opens answer)
    (items : List BodyItem) :
    Handled handler url held (received items) (ending items)
      (WatchState.run handler url held (conversation answer items)) := by
  have none := (openingError?_eq_none_iff url answer).mpr opens
  have opened : Handled handler url held [] .hanging
      (WatchState.heed handler (.opening url, held) (.opened answer)) := by
    simp only [WatchState.heed, WatchState.step, none]
    refine handled_drainFrom LineDecoder.hasRead_new rfl ?_ (Nat.lt_succ_self _)
    intro earlier initial
    rw [List.prefix_nil.mp initial]
    exact going
  exact opened.items items

/-- A watch that does not open hands nothing over. -/
theorem run_of_not_opens (held : σ) (unopened : ¬ Opens answer) (items : List BodyItem) :
    ∃ error, openingError? url answer = some error ∧
      WatchState.run handler url held (conversation answer items) =
        (.over (.error error), held) := by
  cases failed : openingError? url answer with
  | none => exact absurd ((openingError?_eq_none_iff url answer).mp failed) unopened
  | some error =>
    refine ⟨error, rfl, ?_⟩
    have step : WatchState.heed handler (.opening url, held) (.opened answer) =
        (.over (.error error), held) := by
      simp only [WatchState.heed, WatchState.step, failed]
    rw [WatchState.run, conversation, List.foldl_cons, step]
    exact WatchState.foldl_heed_over _ _ _

/-- A watch that opens hands over the changes of the whole lines received, once each and in order,
up to the first malformed line. Such a line fails it, whatever follows; without one it fails as the
stream does, or is closed, and the line begun is discarded. A watch that does not open hands nothing
over. -/
theorem hands_over_until_malformed (handle : σ → Change α → σ) (url : String) (held : σ)
    (answer : Except TransportError StreamHead) (items : List BodyItem) :
    let watch := WatchState.run { handle } url held (conversation answer items)
    let said := streamResults α (received items)
    (Opens answer →
      watch.2 = (deliverable said).foldl handle held ∧
      watch.1.result? = match malformed? said, ending items with
        | some error, _ => some (.error (.line url error))
        | none, .broken error => some (.error (.stream url error))
        | none, .closed => some (.ok .closed)
        | none, .hanging => none) ∧
    (¬ Opens answer → watch.2 = held ∧
      ∃ error, openingError? url answer = some error ∧
        watch.1.result? = some (.error error)) := by
  intro watch said
  constructor
  · intro opens
    have stands : Handled { handle } url held (received items) (ending items) watch :=
      handled_run { handle } url rfl opens items
    generalize ending items = ending at stands ⊢
    clear_value watch
    cases stands with
    | cancelled _ _ stopped => cases stopped
    | malformed _ found => simp [said, found, WatchState.result?, watchResult]
    | waiting _ sound _ => simp [said, sound, WatchState.result?]
    | broken _ sound => simp [said, sound, WatchState.result?, watchResult]
    | closed _ sound => simp [said, sound, WatchState.result?, watchResult]
  · intro unopened
    obtain ⟨error, failed, ended⟩ := run_of_not_opens { handle } url held unopened items
    have same : watch = (.over (.error error), held) := ended
    rw [same]
    exact ⟨rfl, error, failed, congrArg some (watchResult_of_openingError? failed)⟩

end Whole

namespace Sample

/-- A line that adds an object. -/
def addition (name : String) : List UInt8 :=
  Utf8.ofString ("\x7b\"type\":\"ADDED\",\"object\":\x7b\"metadata\":\x7b\"name\":\"" ++ name
    ++ "\"\x7d\x7d\x7d" ++ "\n")

/-- Two changes, a malformed line and a third change, cut within the second. -/
def items : List BodyItem :=
  [.chunk (addition "first" ++ (addition "second").take 9),
    .chunk ((addition "second").drop 9 ++ Utf8.ofString "?\n" ++ addition "third"), .ended]

/-- The two changes before the malformed line are handed over, and the line fails the watch. -/
theorem hands_over_two_before_malformed :
    let watch := WatchState.run (.recording UntypedObject) "/pods" []
      (conversation (.ok { status := 200 }) items)
    Opens (.ok { status := 200 }) ∧
      watch.2 = [.added (.named none "first"), .added (.named none "second")] ∧
      ∃ error, watch.1.result? = some (.error (.line "/pods" error)) := by
  have opens : Opens (.ok { status := 200 }) := ⟨_, rfl, rfl, rfl⟩
  obtain ⟨changes, result⟩ := (hands_over_until_malformed (Handler.recording UntypedObject).handle
    "/pods" [] (.ok { status := 200 }) items).1 opens
  refine ⟨opens, changes.trans (by decide +kernel), ?_⟩
  have malformed : (malformed? (streamResults UntypedObject (received items))).isSome = true := by
    decide +kernel
  obtain ⟨error, found⟩ := Option.isSome_iff_exists.mp malformed
  rw [found] at result
  exact ⟨error, result⟩

end Sample

end ListWatch
