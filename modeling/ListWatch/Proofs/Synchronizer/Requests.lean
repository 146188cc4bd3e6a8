import Mathlib.Computability.Language
import Mathlib.Order.CompletePartialOrder
import ListWatch.Proofs.Client.Target
import ListWatch.Proofs.Synchronizer.Calls

/-!
# Requests and their cursors

A chronicle tells in order which acts a synchronizer heeded and what it did. From it alone one can
tell at every moment how the requests stand: which of them still wait, whether the list of the
attempt came in, and which list was the last one of the run. A synchronizer asks only when nothing
waits, opens a watch only for a list that has just come in, and takes the cursor of the watch from
that list and from nothing else.
-/
namespace ListWatch

open Computability

variable {α : Type}

/-! ## Chronicles -/

/-- What happens to a synchronizer, and what it does. -/
inductive Moment (α : Type) where
  | heeded (act : Act)
  | done (effect : Effect α)

def Moment.effect? : Moment α → Option (Effect α)
  | .done effect => some effect
  | .heeded _ => none

/-- A synchronizer and what has come of it so far. -/
structure Chronicle (α : Type) where
  synchronizer : Synchronizer α
  moments : List (Moment α) := []

namespace Chronicle

variable [Resource α]

/-- The chronicle with one more act and its effects. An act that nobody waits for leaves no
trace. -/
def heed (chronicle : Chronicle α) (act : Act) : Chronicle α :=
  match chronicle.synchronizer.act act with
  | some next =>
    { synchronizer := next.synchronizer
      moments := chronicle.moments ++ .heeded act :: next.effects.map .done }
  | none => chronicle

/-- The chronicle of a synchronizer and any acts. -/
def of (synchronizer : Synchronizer α) (acts : List Act) : Chronicle α :=
  acts.foldl heed { synchronizer }

/-- A chronicle holds the effects of the life, in their order. -/
theorem effects_of (synchronizer : Synchronizer α) (acts : List Act) :
    (of synchronizer acts).synchronizer = (synchronizer.unmoved.heedAll acts).synchronizer ∧
    (of synchronizer acts).moments.filterMap Moment.effect? =
      (synchronizer.unmoved.heedAll acts).effects := by
  induction acts using List.reverseRecOn with
  | nil => exact ⟨rfl, rfl⟩
  | append_singleton acts act ih =>
    obtain ⟨same, effects⟩ := ih
    rw [of, List.foldl_concat, ← of, Turn.heedAll, List.foldl_concat, ← Turn.heedAll, heed,
      Turn.heed, Turn.follow, same]
    cases (synchronizer.unmoved.heedAll acts).synchronizer.act act with
    | none => exact ⟨same, effects⟩
    | some next =>
      have done : (next.effects.map Moment.done).filterMap Moment.effect? = next.effects := by
        rw [List.filterMap_map]
        exact List.filterMap_some
      refine ⟨rfl, ?_⟩
      rw [List.filterMap_append, effects]
      exact congrArg _ done

/-- What holds before anything happens and is kept by every deed holds in every chronicle. -/
theorem of_induction {synchronizer : Synchronizer α}
    {motive : Synchronizer α → List (Moment α) → Prop} (coherent : synchronizer.Coherent)
    (before : motive synchronizer [])
    (kept : ∀ {earlier moments act phase run effects}, Synchronizer.Coherent earlier →
      motive earlier moments → Deed earlier act phase run effects →
      motive (earlier.unmoved.advance phase run effects).synchronizer
        (moments ++ .heeded act :: effects.map .done))
    (acts : List Act) :
    (of synchronizer acts).synchronizer.Coherent ∧
      motive (of synchronizer acts).synchronizer (of synchronizer acts).moments := by
  induction acts using List.reverseRecOn with
  | nil => exact ⟨coherent, before⟩
  | append_singleton acts act ih =>
    obtain ⟨still, held⟩ := ih
    rw [of, List.foldl_concat, ← of, heed]
    cases acted : (of synchronizer acts).synchronizer.act act with
    | none => exact ⟨still, held⟩
    | some next =>
      obtain ⟨phase, run, effects, rfl, deed⟩ := Synchronizer.act_deed still acted
      exact ⟨deed.coherent still, kept still held deed⟩

end Chronicle

/-! ## How the requests stand -/

/-- How the requests stand after some moments. -/
structure Standing (α : Type) where
  /-- The phase that was told last. -/
  phase : Phase := .idle
  /-- What was sent and neither answered nor given up. A stream is given up with its run's
  failure. -/
  awaited : List (Route × Request) := []
  /-- The list of this attempt, until its watch is asked for. -/
  attempt : Option (ObjectList α) := none
  /-- The last list of the run. -/
  last : Option (ObjectList α) := none

namespace Standing

/-- The version of the last list of the run. -/
def version (standing : Standing α) : Option String := standing.last.bind ObjectList.resourceVersion

/-- A request that waits is answered. -/
def answer [Resource α] (standing : Standing α) (answer : Except TransportError Response) :
    Standing α :=
  match standing.awaited with
  | [(.whole, request)] =>
    match request.conclude (ObjectList.decode α) answer with
    | .ok list => { standing with awaited := [], attempt := some list, last := some list }
    | .error _ => { standing with awaited := [] }
  | _ => standing

def take [Resource α] (standing : Standing α) : Act → Standing α
  | .stop => { phase := standing.phase }
  | .step _ (.answered answer) => standing.answer answer
  | .step _ .elapsed => { standing with awaited := standing.awaited.filter (·.1 ≠ .whole) }
  | .step _ .proceed | .step _ (.opened _) | .step _ (.body _) | .start => standing

def perform (standing : Standing α) : Effect α → Standing α
  | .send .whole request =>
    { standing with awaited := standing.awaited ++ [(.whole, request)], attempt := none }
  | .send .stream request =>
    { standing with awaited := standing.awaited ++ [(.stream, request)], attempt := none }
  | .emit (.phaseChanged _ .failed) => { standing with phase := .failed, awaited := [] }
  | .emit (.phaseChanged _ phase) => { standing with phase }
  | .emit _ | .publish _ | .wait _ | .log _ => standing

def next [Resource α] (standing : Standing α) : Moment α → Standing α
  | .heeded act => standing.take act
  | .done effect => standing.perform effect

/-- How the requests stand after several moments. -/
def after [Resource α] (standing : Standing α) (moments : List (Moment α)) : Standing α :=
  moments.foldl next standing

end Standing

/-- The request's query is the form of a watch from a version, or from now on. -/
def Request.WatchesFrom (request : Request) (version : Option String) : Prop :=
  request.url.query.bind Percent.formPairs? =
    some (("watch", "1") :: (version.map fun text => ("resourceVersion", text)).toList)

/-- What an effect may be when the requests stand as they do. -/
def Effect.Due (standing : Standing α) : Effect α → Prop
  | .send .whole _ => standing.phase = .syncing ∧ standing.awaited = []
  | .send .stream request =>
    standing.phase = .watching ∧ standing.awaited = [] ∧
      ∃ list, standing.attempt = some list ∧ request.WatchesFrom list.resourceVersion
  | .emit (.resynced _ version count) =>
    ∃ list, standing.attempt = some list ∧ version = list.resourceVersion ∧
      count = list.items.length
  | .publish snapshot => snapshot.resourceVersion = standing.version
  | .emit _ | .wait _ | .log _ => True

/-- Every effect is due at its moment. -/
def Orderly [Resource α] (standing : Standing α) : List (Moment α) → Prop
  | [] => True
  | .heeded act :: moments => Orderly (standing.take act) moments
  | .done effect :: moments => effect.Due standing ∧ Orderly (standing.perform effect) moments

section Orders

variable [Resource α] {standing : Standing α} {moments later : List (Moment α)}

@[simp] theorem Standing.after_nil : standing.after [] = standing := rfl

@[simp] theorem Standing.after_append :
    standing.after (moments ++ later) = (standing.after moments).after later :=
  List.foldl_append

theorem orderly_append :
    Orderly standing (moments ++ later) ↔
      Orderly standing moments ∧ Orderly (standing.after moments) later := by
  induction moments generalizing standing with
  | nil => simp [Orderly]
  | cons moment moments ih =>
    cases moment with
    | heeded act => exact ih
    | done effect =>
      simp only [List.cons_append, Orderly, ih, and_assoc]
      rfl

/-- In an order of effects each of them is due. -/
theorem Orderly.due {before rest : List (Moment α)} {effect : Effect α}
    (orderly : Orderly standing moments) (split : moments = before ++ .done effect :: rest) :
    effect.Due (standing.after before) := by
  subst split
  exact (orderly_append.mp orderly).2.1

/-! ### One request at a time -/

theorem Standing.length_awaited_take (act : Act) :
    (standing.take act).awaited.length ≤ standing.awaited.length := by
  cases act with
  | start => exact Nat.le_refl _
  | stop => exact Nat.zero_le _
  | step credential signal =>
    cases signal with
    | proceed | opened _ | body _ => exact Nat.le_refl _
    | elapsed => exact List.length_filter_le _ _
    | answered answer =>
      simp only [take, Standing.answer]
      split
      · split <;> exact Nat.zero_le _
      · exact Nat.le_refl _

omit [Resource α] in
theorem Effect.Due.length_awaited {effect : Effect α} (due : effect.Due standing)
    (single : standing.awaited.length ≤ 1) : (standing.perform effect).awaited.length ≤ 1 := by
  cases effect with
  | publish _ | wait _ | log _ => exact single
  | send route request =>
    -- A request is sent only when none waits.
    cases route with
    | whole => simp [Standing.perform, due.2]
    | stream => simp [Standing.perform, due.2.1]
  | emit notice =>
    cases notice with
    | resynced _ _ _ | applied _ _ _ _ | anomaly _ _ _ _ | failure _ _ _ => exact single
    | phaseChanged collection phase => cases phase <;> first | exact single | exact Nat.zero_le _

theorem Orderly.length_awaited (orderly : Orderly standing moments)
    (single : standing.awaited.length ≤ 1) : (standing.after moments).awaited.length ≤ 1 := by
  induction moments generalizing standing with
  | nil => exact single
  | cons moment moments ih =>
    cases moment with
    | heeded act => exact ih orderly ((Standing.length_awaited_take act).trans single)
    | done effect => exact ih orderly.2 (orderly.1.length_awaited single)

/-! ### Attempts -/

/-- Lists, each of them followed by a watch or not. -/
def attempts : Language Route := ({[.whole]} * (1 + {[.stream]}))∗

/-- The routes of the requests sent, in order. -/
def routes (moments : List (Moment α)) : List Route :=
  moments.filterMap fun
    | .done (.send route _) => some route
    | _ => none

/-- A list is asked for or has come in, and its watch is not asked for yet. -/
def Standing.Listing (standing : Standing α) : Prop :=
  standing.attempt.isSome = true ∨ ∃ request, standing.awaited = [(.whole, request)]

/-- The routes so far are those of attempts, of which the last may go on. -/
structure Standing.Follows (standing : Standing α) (word : List Route) : Prop where
  attempts : word ∈ ListWatch.attempts
  listing : standing.Listing → word ∈ ListWatch.attempts * {[.whole]}

theorem attempts_list_le : attempts * {[.whole]} ≤ attempts := by
  have one : ({[.whole]} : Language Route) ≤ {[.whole]} * (1 + {[.stream]}) :=
    le_mul_of_one_le_right' le_sup_left
  calc attempts * {[.whole]} ≤ attempts * ({[.whole]} * (1 + {[.stream]})) := by gcongr
    _ ≤ attempts := kstar_mul_le_kstar

theorem attempts_watch_le : attempts * {[.whole]} * {[.stream]} ≤ attempts := by
  have other : ({[.stream]} : Language Route) ≤ 1 + {[.stream]} := le_sup_right
  rw [mul_assoc]
  calc attempts * ({[.whole]} * {[.stream]}) ≤ attempts * ({[.whole]} * (1 + {[.stream]})) := by
        gcongr
    _ ≤ attempts := kstar_mul_le_kstar

theorem Standing.Listing.of_take {act : Act} (listing : (standing.take act).Listing) :
    standing.Listing := by
  cases act with
  | start => exact listing
  | stop => rcases listing with none | ⟨request, none⟩ <;> cases none
  | step credential signal =>
    cases signal with
    | proceed | opened _ | body _ => exact listing
    | elapsed =>
      rcases listing with came | ⟨request, waits⟩
      · exact Or.inl came
      · -- No list waits any more.
        have member : (Route.whole, request) ∈ standing.awaited.filter (·.1 ≠ .whole) := by
          rw [show standing.awaited.filter (·.1 ≠ .whole) = [(.whole, request)] from waits]
          exact List.mem_singleton_self _
        simp at member
    | answered answer =>
      simp only [take, Standing.answer] at listing
      split at listing
      next request waits => exact Or.inr ⟨request, waits⟩
      · exact listing

omit [Resource α] in
private theorem follows_of_silent {effect : Effect α} {word : List Route}
    (follows : standing.Follows word)
    (listing : (standing.perform effect).Listing → standing.Listing)
    (silent : routes [.done effect] = []) :
    (standing.perform effect).Follows (word ++ routes [.done effect]) := by
  rw [silent, List.append_nil]
  exact ⟨follows.attempts, fun still => follows.listing (listing still)⟩

omit [Resource α] in
theorem Effect.Due.follows {effect : Effect α} {word : List Route} (due : effect.Due standing)
    (follows : standing.Follows word) :
    (standing.perform effect).Follows (word ++ routes [.done effect]) := by
  cases effect with
  | publish _ | wait _ | log _ => exact follows_of_silent follows id rfl
  | emit notice =>
    refine follows_of_silent follows ?_ rfl
    cases notice with
    | resynced _ _ _ | applied _ _ _ _ | anomaly _ _ _ _ | failure _ _ _ => exact id
    | phaseChanged collection phase =>
      cases phase with
      | idle | syncing | watching | stopped => exact id
      | failed =>
        rintro (came | ⟨request, none⟩)
        · exact Or.inl came
        · cases none
  | send route request =>
    cases route with
    | whole =>
      have asked : word ++ [.whole] ∈ attempts * {[.whole]} :=
        Language.append_mem_mul follows.attempts rfl
      exact ⟨Set.mem_of_mem_of_subset asked attempts_list_le, fun _ => asked⟩
    | stream =>
      obtain ⟨-, none, list, came, -⟩ := due
      have watched : word ++ [.stream] ∈ attempts * {[.whole]} * {[.stream]} :=
        Language.append_mem_mul (follows.listing (Or.inl (by rw [came]; rfl))) rfl
      refine ⟨Set.mem_of_mem_of_subset watched attempts_watch_le, ?_⟩
      -- The list has served.
      rintro (came | ⟨request, waits⟩)
      · cases came
      · simp [Standing.perform, none] at waits

theorem Orderly.follows {word : List Route} (orderly : Orderly standing moments)
    (follows : standing.Follows word) :
    (standing.after moments).Follows (word ++ routes moments) := by
  induction moments generalizing standing word with
  | nil =>
    rw [routes, List.filterMap_nil, List.append_nil]
    exact follows
  | cons moment moments ih =>
    cases moment with
    | heeded act =>
      exact ih orderly ⟨follows.attempts, fun listing => follows.listing listing.of_take⟩
    | done effect =>
      have further := ih orderly.2 (orderly.1.follows follows)
      rw [List.append_assoc, routes, routes, ← List.filterMap_append] at further
      exact further

end Orders

/-! ## Effects in order -/

/-- Effects that are due one after the other, and how the requests stand then. -/
structure Leads [Resource α] (standing : Standing α) (effects : List (Effect α))
    (final : Standing α) : Prop where
  orderly : Orderly standing (effects.map .done)
  final : standing.after (effects.map .done) = final

/-- An effect that has nothing to do with requests, and shows the version that is held. -/
def Effect.Quiet (version : Option String) : Effect α → Prop
  | .publish snapshot => snapshot.resourceVersion = version
  | .emit (.phaseChanged _ _) | .emit (.resynced _ _ _) | .send _ _ => False
  | .emit _ | .wait _ | .log _ => True

section Groups

variable [Resource α] {standing middle final : Standing α} {first second : List (Effect α)}

theorem Leads.append (leads : Leads standing first middle) (further : Leads middle second final) :
    Leads standing (first ++ second) final := by
  refine ⟨?_, ?_⟩
  · rw [List.map_append, orderly_append, leads.final]
    exact ⟨leads.orderly, further.orderly⟩
  · rw [List.map_append, Standing.after_append, leads.final, further.final]

omit [Resource α] in
theorem Effect.Quiet.due {effect : Effect α} (quiet : effect.Quiet standing.version) :
    effect.Due standing ∧ standing.perform effect = standing := by
  cases effect with
  | publish _ => exact ⟨quiet, rfl⟩
  | wait _ | log _ => exact ⟨trivial, rfl⟩
  | send _ _ => exact quiet.elim
  | emit notice =>
    cases notice with
    | phaseChanged _ _ | resynced _ _ _ => exact quiet.elim
    | applied _ _ _ _ | anomaly _ _ _ _ | failure _ _ _ => exact ⟨trivial, rfl⟩

theorem Leads.nil : Leads standing [] standing := ⟨trivial, rfl⟩

theorem Leads.cons {effect : Effect α} (due : effect.Due standing)
    (leads : Leads (standing.perform effect) second final) :
    Leads standing (effect :: second) final :=
  ⟨⟨due, leads.orderly⟩, leads.final⟩

theorem leads_of_quiet {effects : List (Effect α)}
    (quiet : ∀ effect ∈ effects, effect.Quiet standing.version) :
    Leads standing effects standing := by
  induction effects with
  | nil => exact .nil
  | cons effect effects ih =>
    obtain ⟨here, rest⟩ := List.forall_mem_cons.mp quiet
    obtain ⟨due, same⟩ := here.due
    exact .cons due (same.symm ▸ ih rest)

theorem leads_log (records : List LogRecord) : Leads standing (records.map .log) standing := by
  refine leads_of_quiet fun effect member => ?_
  obtain ⟨record, -, rfl⟩ := List.mem_map.mp member
  trivial

theorem leads_phase (collection : String) (phase : Phase) :
    Leads standing (phaseEffects collection phase)
      (standing.perform (.emit (.phaseChanged collection phase))) :=
  .cons trivial (.cons trivial .nil)

variable {synchronizer : Synchronizer α} {run : Run α}

/-- A failure gives up whatever waited. -/
theorem leads_failure (same : run.replica.resourceVersion = standing.version) (failure : Failure) :
    Leads standing (synchronizer.failureEffects run failure)
      { standing with phase := .failed, awaited := [] } :=
  (leads_phase _ .failed).append
    (.cons same (.cons trivial (.cons trivial (.cons trivial .nil))))

theorem leads_ask (syncing : standing.phase = .syncing) (none : standing.awaited = [])
    (request : Request) :
    Leads standing (synchronizer.askEffects request)
      { standing with awaited := [(.whole, request)], attempt := Option.none } := by
  refine .cons trivial (.cons ⟨syncing, none⟩ (.cons trivial ⟨trivial, ?_⟩))
  simp [Standing.perform, none]

theorem leads_list {list : ObjectList α} (came : standing.attempt = some list)
    (last : standing.last = some list) :
    Leads standing (synchronizer.listEffects run list) { standing with phase := .watching } := by
  have version : list.resourceVersion = standing.version := by rw [Standing.version, last]; rfl
  have told : Leads standing _ _ := leads_phase synchronizer.collection .watching
  exact .cons trivial (.cons version (.cons ⟨list, came, rfl, rfl⟩ told))

theorem leads_watch {request : Request} {list : ObjectList α}
    (watching : standing.phase = .watching) (none : standing.awaited = [])
    (came : standing.attempt = some list) (cursor : request.WatchesFrom list.resourceVersion) :
    Leads standing (Synchronizer.watchEffects request)
      { standing with awaited := [(.stream, request)], attempt := Option.none } := by
  refine .cons trivial (.cons ⟨watching, none, list, came, cursor⟩ ⟨trivial, ?_⟩)
  simp [Standing.perform, none]

/-- No change that is applied touches the version that is held. -/
theorem leads_change {replica : Replica α} (same : replica.resourceVersion = standing.version)
    (collection : String) (change : Change α) :
    Leads standing (changeEffects collection replica change) standing := by
  refine leads_of_quiet fun effect member => ?_
  have shown (snapshot : Snapshot α)
      (published : .publish snapshot ∈ changeEffects collection replica change) :
      snapshot.resourceVersion = standing.version := by
    rw [eq_of_published_mem_changeEffects published, Replica.apply_resourceVersion, same]
  cases effect with
  | publish snapshot => exact shown snapshot member
  | wait _ | log _ => trivial
  | send route request =>
    cases change with
    | added _ | bookmark _ | error _ | unknown _ => simp [changeEffects] at member
    | modified object =>
      by_cases held : Resource.key object ∈ replica.keys <;> simp [changeEffects, held] at member
    | deleted object =>
      by_cases held : Resource.key object ∈ replica.keys <;> simp [changeEffects, held] at member
  | emit notice =>
    rcases mem_notices_changeEffects (mem_notices.mpr member) with
      ⟨_, _, _, rfl⟩ | ⟨_, _, _, rfl⟩ <;> trivial

end Groups

/-! ## Passages and deeds in order -/

theorem watchesFrom_of_watchRequest {client : Client} {credential : Credential}
    {cursor : Option String} {request : Request}
    (made : client.watchRequest credential cursor = .ok request) : request.WatchesFrom cursor := by
  obtain ⟨url, -, sent⟩ := Client.watchRequest_place made
  rw [Request.WatchesFrom, sent]
  exact Percent.formPairs?_intercalate (List.cons_ne_nil _ _)

/-- What waits for an answer at a stage. -/
def Stage.Awaits (awaited : List (Route × Request)) : Stage → Prop
  | .begun | .resting => awaited = []
  | .listing request => awaited = [(.whole, request)]
  | .opening _ | .reading _ _ => ∃ request, awaited = [(.stream, request)]

/-- The requests stand as the run does. -/
structure Standing.Fits (standing : Standing α) (phase : Phase) (run : Run α) : Prop where
  phase : standing.phase = phase
  version : run.replica.resourceVersion = standing.version
  stage : run.stage.Awaits standing.awaited

section Lives

variable [Resource α] {synchronizer : Synchronizer α} {standing : Standing α}
  {credential : Credential} {signal : Signal} {run : Run α}

/-- A list that comes in is the list of the attempt, and the last one of the run. -/
theorem Standing.Fits.take_listed {request : Request} {answer : Except TransportError Response}
    {list : ObjectList α} (fits : standing.Fits synchronizer.phase run)
    (listing : run.stage = .listing request)
    (given : signal.answer? synchronizer.client = some answer)
    (concluded : request.conclude (ObjectList.decode α) answer = .ok list) :
    standing.take (.step credential signal) =
      { standing with awaited := [], attempt := some list, last := some list } := by
  have waits := fits.stage
  rw [listing] at waits
  cases signal with
  | proceed | opened _ | body _ => cases given
  | elapsed => cases given; cases concluded
  | answered answer =>
    cases given
    have waits : standing.awaited = [(.whole, request)] := waits
    simp only [take, Standing.answer, waits, concluded]

/-- What breaks an attempt leaves the version. -/
theorem Standing.Fits.version_broken {records : List LogRecord} {failure : Failure}
    (fits : standing.Fits synchronizer.phase run)
    (breaks : Breaks synchronizer run.stage signal records failure) (credential : Credential) :
    run.replica.resourceVersion = (standing.take (.step credential signal)).version := by
  have waits := fits.stage
  rw [fits.version]
  generalize run.stage = stage at waits breaks
  cases breaks with
  | opening _ | line _ | stream _ | closed _ => rfl
  | @list request answer _ error given concluded =>
    have waits : standing.awaited = [(.whole, request)] := waits
    cases signal with
    | proceed | opened _ | body _ => cases given
    | elapsed => rfl
    | answered answer =>
      cases given
      simp only [take, Standing.answer, waits, concluded]
      rfl

/-- A run that asks for a list is told to be syncing, and nothing waits. -/
theorem Resumes.leads {opening : List (Effect α)}
    (resumes : Resumes synchronizer.collection run.stage signal opening)
    (coherent : run.stage.Fits synchronizer.phase run.replica)
    (fits : standing.Fits synchronizer.phase run) (credential : Credential) :
    ∃ middle, Leads (standing.take (.step credential signal)) opening middle ∧
      middle.phase = .syncing ∧ middle.awaited = [] ∧
      run.replica.resourceVersion = middle.version := by
  have waits := fits.stage
  have version := fits.version
  have phase := fits.phase
  generalize run.stage = stage at resumes coherent waits
  cases resumes with
  | begin => exact ⟨_, .nil, phase.trans coherent.1, waits, version⟩
  | retry =>
    have none : standing.awaited = [] := waits
    refine ⟨_, leads_phase _ .syncing, rfl, ?_, version⟩
    simp [Standing.perform, Standing.take, none]

theorem Passage.leads {next : Run α} {phase : Phase} {effects : List (Effect α)}
    (passage : Passage synchronizer credential run signal phase next effects)
    (coherent : run.stage.Fits synchronizer.phase run.replica)
    (fits : standing.Fits synchronizer.phase run) :
    ∃ final, Leads (standing.take (.step credential signal)) effects final ∧
      final.Fits phase next := by
  cases passage with
  | asked resumes made =>
    obtain ⟨middle, leads, syncing, none, version⟩ := resumes.leads coherent fits credential
    have published : run.relisting.replica.resourceVersion = middle.version := version
    exact ⟨_, leads.append (.cons published (leads_ask syncing none _)), syncing, version, rfl⟩
  | unasked resumes _ =>
    obtain ⟨middle, leads, -, -, version⟩ := resumes.leads coherent fits credential
    have published : run.relisting.replica.resourceVersion = middle.version := version
    exact ⟨_, leads.append (.cons published (leads_failure published _)), rfl, version, rfl⟩
  | listed listing given concluded made =>
    rw [fits.take_listed listing given concluded]
    refine ⟨_, (leads_log _).append ((leads_list rfl rfl).append (leads_watch rfl rfl rfl
      (watchesFrom_of_watchRequest made))), rfl, rfl, _, rfl⟩
  | unwatched listing given concluded _ =>
    rw [fits.take_listed listing given concluded]
    exact ⟨_, (leads_log _).append ((leads_list rfl rfl).append (leads_failure rfl _)),
      rfl, rfl, rfl⟩
  | opened opening _ =>
    have waits := fits.stage
    rw [opening] at waits
    rw [opening] at coherent
    exact ⟨_, .nil, fits.phase.trans coherent.1, fits.version, waits⟩
  | applied reading _ =>
    have waits := fits.stage
    rw [reading] at waits
    rw [reading] at coherent
    exact ⟨_, (leads_log _).append (leads_change fits.version _ _), fits.phase.trans coherent.1,
      (run.replica.apply_resourceVersion _).trans fits.version, waits⟩
  | fed reading _ =>
    have waits := fits.stage
    rw [reading] at waits
    rw [reading] at coherent
    exact ⟨_, .nil, fits.phase.trans coherent.1, fits.version, waits⟩
  | failed breaks =>
    have version := fits.version_broken breaks credential
    exact ⟨_, (leads_log _).append (leads_failure version _), rfl, version, rfl⟩

/-- Without a run nothing waits, and no list is kept. -/
def Standing.FitsAll (standing : Standing α) (phase : Phase) : Option (Run α) → Prop
  | some run => standing.Fits phase run
  | none => standing.phase = phase ∧ standing.awaited = [] ∧ standing.last = none

omit [Resource α] in
/-- What a stopped run publishes last has no version. -/
private theorem quiet_lastEffects (coherent : synchronizer.Coherent)
    (active : synchronizer.run = some run) :
    ∀ effect ∈ synchronizer.lastEffects run, effect.Quiet none := by
  intro effect member
  cases effect with
  | publish snapshot =>
    rcases published_mem_lastEffects.mp member with ⟨begun, rfl⟩ | rfl
    · have fits := coherent.fits active
      rw [begun] at fits
      exact congrArg Replica.resourceVersion fits.2
    · rfl
  | wait _ | log _ => trivial
  | emit _ | send _ _ =>
    cases staged : run.stage <;> simp [Synchronizer.lastEffects, staged] at member

theorem Deed.leads {act : Act} {phase : Phase} {next : Option (Run α)} {effects : List (Effect α)}
    (deed : Deed synchronizer act phase next effects) (coherent : synchronizer.Coherent)
    (fits : standing.FitsAll synchronizer.phase synchronizer.run) :
    ∃ final, Leads (standing.take act) effects final ∧ final.FitsAll phase next := by
  cases deed with
  | started inactive =>
    rw [inactive] at fits
    obtain ⟨-, none, unlisted⟩ := fits
    refine ⟨_, (leads_phase _ .syncing).append (.cons trivial .nil), rfl, ?_, none⟩
    exact (congrArg (Option.bind · ObjectList.resourceVersion) unlisted).symm
  | startedAgain active =>
    rw [active] at fits
    exact ⟨_, .cons trivial .nil, fits⟩
  | stepped active passage =>
    rw [active] at fits
    exact passage.leads (coherent.fits active) fits
  | stopped active =>
    exact ⟨_, (leads_of_quiet (quiet_lastEffects coherent active)).append (leads_phase _ .stopped),
      rfl, rfl, rfl⟩
  | stoppedIdle inactive idle =>
    exact ⟨_, .cons rfl (leads_phase _ .stopped), rfl, rfl, rfl⟩
  | stoppedAgain inactive stopped =>
    rw [inactive] at fits
    exact ⟨_, .cons rfl .nil, fits.1.trans stopped, rfl, rfl⟩

/-- In the chronicle of any acts every effect is due, and the requests stand as the run does. -/
theorem Chronicle.orderly_of (client : Client) (options : Options) (acts : List Act) :
    let chronicle : Chronicle α := of (.create client options) acts
    chronicle.synchronizer.Coherent ∧ Orderly {} chronicle.moments ∧
      (Standing.after {} chronicle.moments).FitsAll chronicle.synchronizer.phase
        chronicle.synchronizer.run := by
  refine of_induction
    (motive := fun synchronizer moments => Orderly {} moments ∧
      (Standing.after {} moments).FitsAll synchronizer.phase synchronizer.run)
    (Synchronizer.coherent_create client options) ⟨trivial, rfl, rfl, rfl⟩ ?_ acts
  rintro earlier moments act phase run effects coherent ⟨orderly, stands⟩ deed
  obtain ⟨final, leads, fits⟩ := deed.leads coherent stands
  refine ⟨orderly_append.mpr ⟨orderly, leads.orderly⟩, ?_⟩
  rw [Standing.after_append]
  exact leads.final.symm ▸ fits

end Lives

/-- Whatever is asked of a synchronizer and whatever the transport delivers, the requests it sends
are attempts, each of them a list and perhaps a watch, and one request waits at most. A list is
asked for when the phase told is syncing, and a watch when it is watching and the list of the
attempt has come in; the query is the form of a watch from that list's version. That is also the
version told, and the one of everything published until the next list comes in or the run ends;
before the first one there is none. -/
theorem requests_in_attempts [Resource α] (client : Client) (options : Options) (acts : List Act) :
    let chronicle : Chronicle α := .of (.create client options) acts
    let standing (moments : List (Moment α)) : Standing α := .after {} moments
    (∀ earlier, earlier <+: chronicle.moments → (standing earlier).awaited.length ≤ 1) ∧
    routes chronicle.moments ∈ ({[.whole]} * (1 + {[.stream]}) : Language Route)∗ ∧
    (∀ before effect rest, chronicle.moments = before ++ .done effect :: rest →
      effect.Due (standing before)) ∧
    (standing chronicle.moments).phase = chronicle.synchronizer.phase ∧
    chronicle.moments.filterMap Moment.effect? =
      ((Synchronizer.create client options).unmoved.heedAll acts).effects := by
  intro chronicle standing
  obtain ⟨-, orderly, fits⟩ := Chronicle.orderly_of (α := α) client options acts
  refine ⟨?_, ?_, fun before effect rest => orderly.due, ?_, (Chronicle.effects_of _ acts).2⟩
  · rintro earlier ⟨later, whole⟩
    rw [← whole] at orderly
    exact (orderly_append.mp orderly).1.length_awaited (Nat.zero_le _)
  · have begins : ({} : Standing α).Follows [] :=
      ⟨Language.nil_mem_kstar _, fun listing => by
        rcases listing with none | ⟨_, none⟩ <;> cases none⟩
    exact (orderly.follows begins).attempts
  · unfold Standing.FitsAll at fits
    split at fits
    · exact fits.phase
    · exact fits.1

namespace Sample

/-- A list of no objects, at a version that a query cannot carry as it is. -/
def marked : Response :=
  { status := 200
    body := Utf8.ofString "\x7b\"metadata\":\x7b\"resourceVersion\":\"7&8 %\"\x7d\x7d" }

/-- What comes of that list. -/
def watched : Chronicle UntypedObject :=
  .of (.create client {})
    [.start, .step .anonymous .proceed, .step .anonymous (.answered (.ok marked))]

/-- The request of the watch. -/
def watch : Request :=
  { method := .get
    url := { client.server with
      path := .segments ["api", "v1", "pods"]
      query := some "watch=1&resourceVersion=7%268+%25" }
    headers := [("accept", jsonType)]
    body := none }

/-- The watch of that list has its version as the cursor. -/
theorem requests_in_attempts_of_marked :
    ∃ before, watched.moments = before ++ [.done (.send .stream watch)] ∧
      watch.WatchesFrom (some "7&8 %") := by
  have last : (watched.moments.drop 16).map Moment.effect? = [some (.send .stream watch)] := by
    decide +kernel
  have sent : watched.moments.drop 16 = [.done (.send .stream watch)] := by
    obtain ⟨moment, one, same⟩ := List.map_eq_singleton_iff.mp last
    cases moment <;> cases same
    exact one
  have came : (Standing.after {} (watched.moments.take 16)).attempt = some ⟨some "7&8 %", []⟩ := by
    decide +kernel
  have split : watched.moments = watched.moments.take 16 ++ [.done (.send .stream watch)] := by
    rw [← sent, List.take_append_drop]
  obtain ⟨-, -, list, attempt, cursor⟩ :=
    (requests_in_attempts client {} _).2.2.1 _ _ _ split
  rw [came] at attempt
  cases attempt
  exact ⟨_, split, cursor⟩

end Sample

end ListWatch
