import ListWatch.Proofs.Client.Delivery
import ListWatch.Rehearsal.World

/-!
# Cancelled watches

A watch can be cancelled from outside wherever it waits, and by its handler with any change
that it takes. Either way it is over at once: nothing more is handed over, whatever lines
are held and whatever the stream still gives, and it ends as cancelled. What was handed over
before is what a watch that goes on would have handed over first.
-/
namespace ListWatch

variable {α σ : Type} [Resource α]

section Cancelling

variable {handler : Handler α σ} {url : String} {held : σ}
  {answer : Except TransportError StreamHead} {items : List BodyItem}

/-- A watch that is not over yet is cancelled wherever it waits, and then stays as it is. -/
theorem WatchState.foldl_heed_cancel (handler : Handler α σ) {watch : WatchState × σ}
    (waiting : watch.1.result? = none) (after : List WatchSignal) :
    let cancelled := (WatchSignal.cancel :: after).foldl (heed handler) watch
    cancelled.1.result? = some (.ok .cancelled) ∧ cancelled.2 = watch.2 := by
  obtain ⟨state, held⟩ := watch
  rw [List.foldl_cons]
  cases state with
  | opening url =>
    simp only [heed, step, foldl_heed_over]
    exact ⟨rfl, trivial⟩
  | reading url decoder =>
    simp only [heed, step, foldl_heed_over]
    exact ⟨rfl, trivial⟩
  | «over» result => cases waiting

/-- A handler that never cancels is handed everything that can be. -/
theorem run_recording (opens : Opens answer) (items : List BodyItem) :
    (WatchState.run (.recording α) url [] (conversation answer items)).2 =
      deliverable (streamResults α (received items)) := by
  obtain ⟨taken, -, last, all, -⟩ :=
    (handled_run (.recording α) url rfl opens items).exists_taken
  rw [last, all rfl, Handler.foldl_recording, List.nil_append]

/-- While a watch is not over its handler has taken the first of the changes. -/
theorem taken_of_waiting (going : handler.cancelled held = false) {before after : List WatchSignal}
    (split : conversation answer items = before ++ after)
    (waiting : (WatchState.run handler url held before).1.result? = none) :
    ∃ taken, taken <+:
        (WatchState.run (.recording α) url [] (conversation answer items)).2 ∧
      (WatchState.run handler url held before).2 = taken.foldl handler.handle held := by
  cases before with
  | nil => exact ⟨[], List.nil_prefix, rfl⟩
  | cons signal before =>
    -- What is left of the conversation is a part of the body.
    obtain ⟨rfl, rest⟩ := List.cons.inj split
    obtain ⟨earlier, later, rfl, rfl, -⟩ := List.map_eq_append_iff.mp rest
    by_cases opens : Opens answer
    · obtain ⟨taken, initial, last, -⟩ :=
        (handled_run handler url going opens earlier).exists_taken
      refine ⟨taken, ?_, last⟩
      have grown : streamResults α (received earlier) <+:
          streamResults α (received (earlier ++ later)) := by
        obtain ⟨more, whole⟩ := received_isPrefix earlier later
        exact whole ▸ streamResults_isPrefix α (received earlier) more
      rw [run_recording opens]
      exact initial.trans (deliverable_isPrefix grown)
    · obtain ⟨error, -, failed⟩ :=
        run_of_not_opens handler url held opens earlier
      rw [show WatchSignal.opened answer :: earlier.map .body = conversation answer earlier from rfl,
        failed] at waiting
      cases waiting

/-- A watch that its handler may cancel has handed over the first of the changes, and none after the
one with which the handler cancelled it. -/
theorem taken_of_run (going : handler.cancelled held = false)
    (answer : Except TransportError StreamHead) (items : List BodyItem) :
    let watch := WatchState.run handler url held (conversation answer items)
    let offered := (WatchState.run (.recording α) url [] (conversation answer items)).2
    ∃ taken, taken <+: offered ∧ watch.2 = taken.foldl handler.handle held ∧
      (handler.cancelled watch.2 = false → taken = offered) ∧
      ∀ earlier, earlier <+: taken →
        handler.cancelled (earlier.foldl handler.handle held) = true →
        earlier = taken ∧ watch.1.result? = some (.ok .cancelled) := by
  intro watch offered
  by_cases opens : Opens answer
  · obtain ⟨taken, initial, last, all, final⟩ :=
      (handled_run handler url going opens items).exists_taken
    have same : offered = deliverable (streamResults α (received items)) :=
      run_recording opens items
    rw [← same] at initial all
    refine ⟨taken, initial, last, all, ?_⟩
    intro earlier before stops
    obtain ⟨whole, cancelled⟩ := final earlier before stops
    exact ⟨whole, congrArg WatchState.result? cancelled⟩
  · obtain ⟨error, -, failed⟩ :=
      run_of_not_opens handler url held opens items
    obtain ⟨_, -, silent⟩ :=
      run_of_not_opens (.recording α) url [] opens items
    have untouched : watch.2 = held := congrArg Prod.snd failed
    have nothing : offered = [] := congrArg Prod.snd silent
    refine ⟨[], List.nil_prefix, untouched, fun _ => nothing.symm, ?_⟩
    intro earlier before stops
    rw [List.prefix_nil.mp before, List.foldl_nil, going] at stops
    cases stops

end Cancelling

/-- Being cancelled is final. A watch that is cancelled from outside before it is over hands over
nothing more, whatever it would still be given, and ends as cancelled; one that its handler cancels
does so with that change. The changes handed over are the first of those that are handed over when
nothing cancels. And a watch that was cancelled before it opens leaves the world as it is, so that
no request is sent. -/
theorem cancelled_watch_is_final {κ : Type} [ResourceFamily κ] (handler : Handler α σ)
    (url : String) (held : σ) (going : handler.cancelled held = false)
    (answer : Except TransportError StreamHead) (items : List BodyItem) :
    let watch := WatchState.run handler url held
    let offered := (WatchState.run (.recording α) url [] (conversation answer items)).2
    (∀ before after, conversation answer items = before ++ after →
      (watch before).1.result? = none →
      (watch (before ++ .cancel :: after)).1.result? = some (.ok .cancelled) ∧
      (watch (before ++ .cancel :: after)).2 = (watch before).2 ∧
      ∃ taken, taken <+: offered ∧ (watch before).2 = taken.foldl handler.handle held) ∧
    (∃ taken, taken <+: offered ∧
      (watch (conversation answer items)).2 = taken.foldl handler.handle held ∧
      (handler.cancelled (watch (conversation answer items)).2 = false → taken = offered) ∧
      ∀ earlier, earlier <+: taken →
        handler.cancelled (earlier.foldl handler.handle held) = true →
        earlier = taken ∧
          (watch (conversation answer items)).1.result? = some (.ok .cancelled)) ∧
    ∀ (world : Rehearsal.World κ) (client : Client) (cursor : Option String),
      (world.watch α client cursor .before).1 = world ∧
      ∀ request, client.watchRequest world.credential cursor = .ok request →
        (world.watch α client cursor .before).2 = some { ending := .ok .cancelled } := by
  intro watch offered
  refine ⟨?_, taken_of_run going answer items, ?_⟩
  · intro before after split waiting
    obtain ⟨ended, same⟩ := WatchState.foldl_heed_cancel handler waiting after
    have whole : watch (before ++ .cancel :: after) =
        (WatchSignal.cancel :: after).foldl (WatchState.heed handler) (watch before) :=
      WatchState.run_append before (.cancel :: after)
    rw [whole]
    exact ⟨ended, same, taken_of_waiting going split waiting⟩
  · intro world client cursor
    cases made : client.watchRequest world.credential cursor with
    | error error =>
      simp [Rehearsal.World.watch, Rehearsal.World.openWatch, made]
    | ok request =>
      simp [Rehearsal.World.watch, Rehearsal.World.openWatch, made, watchResult, Except.mapError]

/-- Cancelled while it waits for the rest of the second line, a watch has handed over the first change
alone; cancelled with the first change, it does not hand over the second, which it already holds. -/
theorem Sample.cancelled_after_first_change :
    let watch (cancellation : Rehearsal.Cancellation) :=
      WatchState.run (Rehearsal.collector UntypedObject cancellation) "/pods" []
    let signals := conversation (.ok { status := 200 }) items
    ((Rehearsal.collector UntypedObject .never).cancelled [] = false ∧
      (watch .never (signals.take 2 ++ .cancel :: signals.drop 2)).2 =
        [.added (.named none "first")] ∧
      (watch .never (signals.take 2 ++ .cancel :: signals.drop 2)).1.result? =
        some (.ok .cancelled)) ∧
    ((Rehearsal.collector UntypedObject (.afterEvents 1)).cancelled [] = false ∧
      (watch (.afterEvents 1) signals).2 = [.added (.named none "first")] ∧
      (watch (.afterEvents 1) signals).1.result? = some (.ok .cancelled)) := by
  intro watch signals
  constructor
  · have waiting : (watch .never (signals.take 2)).1.result?.isNone = true := by decide +kernel
    obtain ⟨ended, same, -⟩ := (cancelled_watch_is_final (κ := Unit)
      (Rehearsal.collector UntypedObject .never) "/pods" [] rfl (.ok { status := 200 }) items).1
      (signals.take 2) (signals.drop 2) (List.take_append_drop 2 signals).symm
      (Option.isNone_iff_eq_none.mp waiting)
    exact ⟨rfl, same.trans (by decide +kernel), ended⟩
  · have last : (watch (.afterEvents 1) signals).2 = [.added (.named none "first")] := by
      decide +kernel
    obtain ⟨-, ⟨taken, -, took, -, final⟩, -⟩ := cancelled_watch_is_final (κ := Unit)
      (Rehearsal.collector UntypedObject (.afterEvents 1)) "/pods" [] rfl (.ok { status := 200 })
      items
    refine ⟨rfl, last, (final taken (List.prefix_refl _) ?_).2⟩
    rw [← took]
    exact congrArg _ last

end ListWatch
