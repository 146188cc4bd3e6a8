import ListWatch.Proofs.Client.Answers
import ListWatch.Proofs.Client.Obstacles
import ListWatch.Rehearsal.World

/-!
# How a call comes out

A call that is stopped sends nothing. Every other call sends its one request, and then gives what
the answer to it means. A list that has no answer by its deadline counts as timed out; other calls
wait for theirs. Synchronizers of the same world may send requests of their own in the meantime.
-/
namespace ListWatch.Rehearsal

/-! ## What was sent stays sent -/

namespace World

variable {κ : Type} [ResourceFamily κ]

theorem sent_perform (world : World κ) (act : StoreEffect κ) :
    world.sent <+: (world.perform act).sent := by
  obtain ⟨path, kind, effect⟩ := act
  cases effect with
  | emit _ | publish _ | log _ | wait _ => exact List.prefix_rfl
  | send route request =>
    cases route with
    | whole =>
      have sent : (world.perform ⟨path, kind, .send .whole request⟩).sent =
          world.sent ++ [⟨world.now, .whole, request⟩] := by
        simp only [perform, exchangeWhole]
        split <;> rfl
      exact sent ▸ List.prefix_append _ _
    | stream =>
      have sent : (world.perform ⟨path, kind, .send .stream request⟩).sent =
          world.sent ++ [⟨world.now, .stream, request⟩] := by
        simp only [perform, exchangeStream]
        split <;> rfl
      exact sent ▸ List.prefix_append _ _

theorem sent_foldl_perform (acts : List (StoreEffect κ)) (world : World κ) :
    world.sent <+: (acts.foldl perform world).sent := by
  induction acts generalizing world with
  | nil => exact List.prefix_rfl
  | cons act acts ih => exact (sent_perform world act).trans (ih _)

theorem sent_step? {world next : World κ} {path : String} {signal : Signal}
    (stepped : world.step? path signal = some next) : world.sent <+: next.sent := by
  obtain ⟨⟨stores, effects⟩, -, rfl⟩ := Option.map_eq_some_iff.mp stepped
  exact sent_foldl_perform effects ({ world with stores }.forget path)

/-- A run only adds to what was sent, however far it goes. -/
theorem sent_drive (path : String) (fuel : Nat) (signal : Option Signal) (world : World κ) :
    world.sent <+: (drive path fuel signal world).sent := by
  induction fuel generalizing signal world with
  | zero => exact List.prefix_rfl
  | succ fuel ih =>
    cases signal with
    | some signal =>
      rw [drive]
      split
      next next stepped => exact (sent_step? stepped).trans (ih _ _)
      next => exact List.prefix_rfl
    | none =>
      rw [drive]
      split
      next next stepped => exact (sent_step? stepped).trans (ih _ _)
      next =>
        -- Taking from the body is nothing that is sent.
        split
        next =>
          split
          next => exact List.prefix_rfl
          next item rest _ => exact ih (some (.body item)) (world.setBody path rest)
          next milliseconds rest _ =>
            split
            next => exact ih none (world.setBody path rest)
            next => exact List.prefix_rfl
        next => exact List.prefix_rfl

theorem sent_tick? {world next : World κ} {limit : Nat} (ticked : world.tick? limit = some next) :
    world.sent <+: next.sent := by
  obtain ⟨entry, -, rfl⟩ := Option.map_eq_some_iff.mp ticked
  exact sent_drive entry.path _ _ (World.forget { world with now := max world.now entry.time } _)

theorem sent_runUntil (limit fuel : Nat) (world : World κ) :
    world.sent <+: (runUntil limit fuel world).sent := by
  induction fuel generalizing world with
  | zero => exact List.prefix_rfl
  | succ fuel ih =>
    rw [runUntil]
    split
    next next ticked => exact (sent_tick? ticked).trans (ih next)
    next => exact List.prefix_rfl

/-- While time passes only runs that are waited for send anything. -/
theorem exists_sent_sleep (world : World κ) (milliseconds : Nat) :
    ∃ others, (world.sleep milliseconds).sent = world.sent ++ others ∧
      (world.pending = [] → others = []) := by
  obtain ⟨others, whole⟩ : world.sent <+: (world.sleep milliseconds).sent :=
    sent_runUntil _ _ world
  refine ⟨others, whole.symm, fun quiet => ?_⟩
  -- Where nothing is waited for, time passes and the world is left as it is.
  have still (limit fuel : Nat) : runUntil limit fuel world = world := by
    cases fuel with
    | zero => rfl
    | succ fuel =>
      have ended : world.tick? limit = none := by
        rw [tick?, quiet]
        rfl
      rw [runUntil, ended]
  rw [sleep, still] at whole
  exact List.append_right_eq_self.mp whole

end World

/-! ## What a call sees -/

variable {α : Type}

/-- What a call sees of the entry that answers its request, and after how long: the answer, or for a
list that has none by its deadline the end of its waiting. -/
inductive Sees (client : Client) (call : Call α) (entry : WholeEntry) :
    Nat → Except TransportError Response → Prop where
  | answer {answer : Except TransportError Response} (given : entry.answer = some answer)
      (timely : call = .list → entry.delay ≤ client.listDeadline) :
      Sees client call entry entry.delay answer
  | deadline (listing : call = .list)
      (late : ∀ answer, entry.answer = some answer → client.listDeadline < entry.delay) :
      Sees client call entry client.listDeadline (.error client.listTimedOut)

theorem at_result {β : Type} {elapsed : Nat} {held result : β} :
    (Timed.at elapsed held).result = some result ↔ elapsed ≤ patience ∧ held = result := by
  rw [Timed.at]
  split
  next within => simp [within]
  next beyond => simp [beyond]

variable {client : Client} {call : Call α} {entry : WholeEntry}
  {answer : Except TransportError Response}

theorem answerTo_of_sees {moment : Nat} (sees : Sees client call entry moment answer) :
    answerTo client call entry = .at moment answer := by
  cases sees with
  | answer given timely =>
    cases call with
    | list => simp [answerTo, given, timely rfl]
    | get _ _ | create _ | update _ | delete _ _ => simp [answerTo, given]
  | deadline listing late =>
    subst listing
    cases given : entry.answer with
    | none => simp [answerTo, given]
    | some answer => simp [answerTo, given, Nat.not_le_of_lt (late answer given)]

/-- What is not a list and has no answer is waited for in vain. -/
theorem answerTo_of_blind (blind : ∀ moment answer, ¬ Sees client call entry moment answer) :
    answerTo client call entry = ⟨patience, none⟩ := by
  have other : call ≠ .list := by
    intro listing
    cases given : entry.answer with
    | none => exact blind _ _ (.deadline listing fun answer some => by cases given.symm.trans some)
    | some answer =>
      by_cases timely : entry.delay ≤ client.listDeadline
      · exact blind _ _ (.answer given fun _ => timely)
      · exact blind _ _ (.deadline listing fun _ _ => Nat.lt_of_not_le timely)
  have unanswered : entry.answer = none := by
    cases given : entry.answer with
    | none => rfl
    | some answer => exact absurd (.answer given fun listing => absurd listing other) (blind _ _)
  cases call with
  | list => exact absurd rfl other
  | get _ _ | create _ | update _ | delete _ _ => simp [answerTo, unanswered]

/-- A caller gets what the call sees, unless that comes too late for the caller. -/
theorem answerTo_result : (answerTo client call entry).result = some answer ↔
    ∃ moment, Sees client call entry moment answer ∧ moment ≤ patience := by
  constructor
  · intro got
    by_cases seen : ∃ moment answer, Sees client call entry moment answer
    · obtain ⟨moment, answer, sees⟩ := seen
      rw [answerTo_of_sees sees] at got
      obtain ⟨within, rfl⟩ := at_result.mp got
      exact ⟨moment, sees, within⟩
    · rw [answerTo_of_blind fun moment answer sees => seen ⟨moment, answer, sees⟩] at got
      cases got
  · rintro ⟨moment, sees, within⟩
    rw [answerTo_of_sees sees]
    exact at_result.mpr ⟨within, rfl⟩

/-- A call that is stopped fails by the first obstacle, and nothing is sent. Every other call sends
one request and gives what the answer that it sees means. All else that is sent until then is sent
by runs that the world was waiting for. -/
theorem call_outcome {κ : Type} [ResourceFamily κ] [Resource α] (world : World κ)
    (client : Client) (call : Call α) :
    (∃ error, FirstFinds (call.Stopped client world.credential) Obstacle.all error ∧
      world.call client call = (world, some (.error error))) ∨
    (∀ obstacle error, ¬ call.Stopped client world.credential obstacle error) ∧
    ∃ request, client.request world.credential call = .ok request ∧
      request.Labelled ∧ request.body.isSome = call.object?.isSome ∧
      (∃ others, (world.call client call).1.sent =
          world.sent ++ ⟨world.now, .whole, request⟩ :: others ∧
        (world.pending = [] → others = [])) ∧
      (∀ answer result, call.conclude request answer = result ↔
        Means call request answer result) ∧
      ∀ result, (world.call client call).2 = some result ↔ ∃ moment answer,
        Sees client call (world.server.takeWhole request).2 moment answer ∧ moment ≤ patience ∧
        Means call request answer result := by
  cases made : client.request world.credential call with
  | error error =>
    refine .inl ⟨error, (Client.request_eq_error client _ call error).mp made, ?_⟩
    rw [World.call, made]
  | ok request =>
    -- An obstacle would have made the request fail, if not by itself then by one before it.
    have unstopped : ∀ obstacle error,
        ¬ call.Stopped client world.credential obstacle error := by
      intro obstacle error stopped
      have member : obstacle ∈ Obstacle.all := by cases obstacle <;> decide
      obtain ⟨error, first⟩ := exists_firstFinds member stopped
      cases made.symm.trans ((Client.request_eq_error client _ call error).mpr first)
    obtain ⟨-, bodied, labelled⟩ := Client.request_eq_ok made
    have called : world.call client call =
        ((world.exchangeWhole request).1.sleep
          (answerTo client call (world.server.takeWhole request).2).elapsed,
        (answerTo client call (world.server.takeWhole request).2).result.map
          (call.conclude request)) := by
      rw [World.call, made]
      rfl
    rw [called]
    refine .inr ⟨unstopped, request, rfl, labelled, bodied, ?_, fun _ _ => conclude_eq_iff,
      fun result => ?_⟩
    · -- The call itself sends once; the rest of what is sent comes while it waits.
      obtain ⟨others, whole, quiet⟩ := World.exists_sent_sleep (world.exchangeWhole request).1
        (answerTo client call (world.server.takeWhole request).2).elapsed
      refine ⟨others, ?_, quiet⟩
      rw [whole]
      simp [World.exchangeWhole]
    · simp only [Option.map_eq_some_iff, answerTo_result, conclude_eq_iff]
      constructor
      · rintro ⟨answer, ⟨moment, sees, within⟩, meant⟩
        exact ⟨moment, answer, sees, within, meant⟩
      · rintro ⟨moment, answer, sees, within, meant⟩
        exact ⟨answer, ⟨moment, sees, within⟩, meant⟩

namespace Sample

def pods : Client :=
  { server := { scheme := "https", authority := some { host := "localhost" } }
    collection := { apiPath := "/api/v1", resource := "pods" } }

/-- A world without runs, whose server answers that nothing was found. -/
def lonely : World Unit :=
  { server := .scripted [{ delay := 5, answer := some (.ok
      { status := 404, contentType := some "Application/JSON; charset=utf-8"
        body := Utf8.ofString "\x7b\"message\":\"gone\"\x7d" }) }] []
    credential := .anonymous
    stores := { server := pods.server, options := {} } }

theorem get_sends_once :
    ∃ request, request.Labelled ∧ lonely.pending = [] ∧
      (lonely.call pods (.get none "first" : Call UntypedObject)).1.sent =
        [⟨0, .whole, request⟩] ∧
      ∃ result, (lonely.call pods (.get none "first" : Call UntypedObject)).2 = some result ∧
        ∃ answer, Means (.get none "first" : Call UntypedObject) request answer result := by
  have count : (lonely.call pods (.get none "first" : Call UntypedObject)).1.sent.length = 1 := by
    decide +kernel
  have returned : (lonely.call pods (.get none "first" : Call UntypedObject)).2.isSome = true := by
    decide +kernel
  obtain ⟨result, given⟩ := Option.isSome_iff_exists.mp returned
  obtain ⟨error, -, stopped⟩ | ⟨-, request, -, labelled, -, ⟨others, sent, quiet⟩, -, results⟩ :=
    call_outcome lonely pods (.get none "first" : Call UntypedObject)
  · rw [stopped] at count
    cases count
  · obtain ⟨_, answer, -, -, meant⟩ := (results result).mp given
    rw [quiet rfl] at sent
    exact ⟨request, labelled, rfl, sent, result, given, answer, meant⟩

end Sample

end ListWatch.Rehearsal
