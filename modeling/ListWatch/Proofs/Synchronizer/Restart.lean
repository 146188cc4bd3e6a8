import ListWatch.Proofs.Synchronizer.Requests

/-!
# Starting anew

What a synchronizer does never depends on what its observers have got: no operation of a turn reads
the outlet that it tells through. A stop leaves nothing else behind but a phase from which the next
start goes the way of the first one. So from that start on everything is as if the synchronizer had
just been made.
-/
namespace ListWatch

variable {α : Type}

/-! ## Another outlet -/

namespace Turn

/-- The same turn, told through another outlet. -/
def through (turn : Turn α) (outlet : Outlet α) : Turn α :=
  { turn with
    synchronizer :=
      { turn.synchronizer with outlet := turn.effects.foldl Outlet.observe outlet } }

variable (turn : Turn α) (outlet : Outlet α)

@[simp] theorem through_phase :
    (turn.through outlet).synchronizer.phase = turn.synchronizer.phase := rfl

@[simp] theorem through_run :
    (turn.through outlet).synchronizer.run = turn.synchronizer.run := rfl

@[simp] theorem through_client :
    (turn.through outlet).synchronizer.client = turn.synchronizer.client := rfl

@[simp] theorem through_options :
    (turn.through outlet).synchronizer.options = turn.synchronizer.options := rfl

@[simp] theorem through_collection : (turn.through outlet).collection = turn.collection := rfl

@[simp] theorem through_effects : (turn.through outlet).effects = turn.effects := rfl

@[simp] theorem perform_through (effect : Effect α) :
    (turn.through outlet).perform effect = (turn.perform effect).through outlet := by
  simp [perform, through]

@[simp] theorem setPhase_through (phase : Phase) :
    (turn.through outlet).setPhase phase = (turn.setPhase phase).through outlet := rfl

@[simp] theorem setRun_through (run : Option (Run α)) :
    (turn.through outlet).setRun run = (turn.setRun run).through outlet := rfl

@[simp] theorem advance_through (phase : Phase) (run : Option (Run α))
    (effects : List (Effect α)) :
    (turn.through outlet).advance phase run effects =
      (turn.advance phase run effects).through outlet := by
  simp [advance, through]

@[simp] theorem emit_through (notice : Notice) :
    (turn.through outlet).emit notice = (turn.emit notice).through outlet :=
  perform_through _ _ _

@[simp] theorem publish_through (snapshot : Snapshot α) :
    (turn.through outlet).publish snapshot = (turn.publish snapshot).through outlet :=
  perform_through _ _ _

@[simp] theorem send_through (route : Route) (request : Request) :
    (turn.through outlet).send route request = (turn.send route request).through outlet :=
  perform_through _ _ _

@[simp] theorem wait_through (milliseconds : Nat) :
    (turn.through outlet).wait milliseconds = (turn.wait milliseconds).through outlet :=
  perform_through _ _ _

@[simp] theorem record_through (entry : LogRecord) :
    (turn.through outlet).record entry = (turn.record entry).through outlet :=
  perform_through _ _ _

@[simp] theorem log_through (level : LogLevel) (message : String)
    (fields : List (String × String)) :
    (turn.through outlet).log level message fields =
      (turn.log level message fields).through outlet :=
  perform_through _ _ _

@[simp] theorem emitPhase_through (phase : Phase) :
    (turn.through outlet).emitPhase phase = (turn.emitPhase phase).through outlet := by
  simp [emitPhase]

@[simp] theorem warn_through (failure : Failure) :
    (turn.through outlet).warn failure = (turn.warn failure).through outlet := by
  simp [warn]

@[simp] theorem move_through (move : Phase.Move) :
    (turn.through outlet).move move = (turn.move move).through outlet := by
  simp only [Turn.move, through_phase]
  split <;> simp

@[simp] theorem fail_through (run : Run α) (failure : Failure) :
    (turn.through outlet).fail run failure = (turn.fail run failure).through outlet := by
  simp [fail]

@[simp] theorem records_through (records : List LogRecord) :
    records.foldl record (turn.through outlet) = (records.foldl record turn).through outlet := by
  induction records generalizing turn with
  | nil => rfl
  | cons entry records ih => rw [List.foldl_cons, record_through, ih, List.foldl_cons]

@[simp] theorem finish_through (run : Run α) :
    (turn.through outlet).finish run = (turn.finish run).through outlet := by
  simp only [finish]
  split <;> simp

section Protocol

variable (credential : Credential) (run : Run α)

@[simp] theorem watch_through :
    (turn.through outlet).watch credential run = (turn.watch credential run).through outlet := by
  simp only [watch, through_client]
  split <;> simp

@[simp] theorem opened_through (request : Request) (answer : Except TransportError StreamHead) :
    (turn.through outlet).opened run request answer =
      (turn.opened run request answer).through outlet := by
  simp only [opened]
  split <;> simp

@[simp] theorem body_through (url : String) (decoder : LineDecoder) (item : BodyItem) :
    (turn.through outlet).body run url decoder item =
      (turn.body run url decoder item).through outlet := by
  cases item <;> simp [body, closed]

@[simp] theorem listed_through (list : ObjectList α) :
    (turn.through outlet).listed credential run list =
      (turn.listed credential run list).through outlet := by
  simp only [listed, log_through, publish_through, emit_through, through_collection,
    through_phase]
  split <;> simp

variable [Resource α]

@[simp] theorem list_through :
    (turn.through outlet).list credential run = (turn.list credential run).through outlet := by
  simp only [Turn.list, publish_through, through_client]
  split <;> simp

@[simp] theorem answered_through (request : Request) (answer : Except TransportError Response) :
    (turn.through outlet).answered credential run request answer =
      (turn.answered credential run request answer).through outlet := by
  simp only [answered, records_through]
  split <;> simp

@[simp] theorem apply_through (change : Change α) :
    (turn.through outlet).apply run change = (turn.apply run change).through outlet := by
  rw [apply_eq, through_collection, through_phase, advance_through, apply_eq]

@[simp] theorem line_through (url : String)
    (taken : Except LineError (Change α) × LineDecoder) :
    (turn.through outlet).line run url taken = (turn.line run url taken).through outlet := by
  obtain ⟨_ | _, _⟩ := taken <;> simp [line]

theorem onSignal_through (stage : Stage) (signal : Signal) :
    (turn.through outlet).onSignal credential run stage signal =
      (turn.onSignal credential run stage signal).map fun next => next.through outlet := by
  cases stage <;> cases signal <;> simp [onSignal]
  all_goals split <;> simp

end Protocol

end Turn

namespace Synchronizer

/-- The synchronizer with another outlet. -/
def withOutlet (synchronizer : Synchronizer α) (outlet : Outlet α) : Synchronizer α :=
  { synchronizer with outlet }

variable (synchronizer : Synchronizer α) (outlet : Outlet α)

@[simp] theorem withOutlet_phase :
    (synchronizer.withOutlet outlet).phase = synchronizer.phase := rfl

@[simp] theorem withOutlet_run : (synchronizer.withOutlet outlet).run = synchronizer.run := rfl

@[simp] theorem unmoved_withOutlet :
    (synchronizer.withOutlet outlet).unmoved = synchronizer.unmoved.through outlet := rfl

theorem start_withOutlet :
    (synchronizer.withOutlet outlet).start.1 = synchronizer.start.1.through outlet := by
  simp only [start, unmoved_withOutlet, withOutlet_run, withOutlet_phase]
  by_cases active : synchronizer.run.isSome = true
  · simp [active]
  · cases synchronizer.phase.move .start <;> simp [active]

theorem stop_withOutlet :
    (synchronizer.withOutlet outlet).stop.1 = synchronizer.stop.1.through outlet := by
  simp only [stop, unmoved_withOutlet, withOutlet_run, withOutlet_phase]
  cases synchronizer.run <;> by_cases told : synchronizer.phase = .stopped <;> simp [told]

/-- What an act does, and whether it is waited for, does not depend on the outlet. -/
theorem act_withOutlet [Resource α] (act : Act) :
    (synchronizer.withOutlet outlet).act act =
      (synchronizer.act act).map fun next => next.through outlet := by
  cases act with
  | start => exact congrArg some (synchronizer.start_withOutlet outlet)
  | stop => exact congrArg some (synchronizer.stop_withOutlet outlet)
  | step credential signal =>
    simp only [Synchronizer.act, step, unmoved_withOutlet, withOutlet_run]
    cases synchronizer.run with
    | none => rfl
    | some run => exact synchronizer.unmoved.onSignal_through outlet credential run run.stage signal

end Synchronizer

/-! ## Chronicles with another past -/

namespace Chronicle

variable [Resource α]

/-- The chronicle after several more acts. -/
def heedAll (chronicle : Chronicle α) (acts : List Act) : Chronicle α := acts.foldl heed chronicle

theorem of_append (synchronizer : Synchronizer α) (acts later : List Act) :
    of synchronizer (acts ++ later) = (of synchronizer acts).heedAll later :=
  List.foldl_append

omit [Resource α] in
/-- The same chronicle behind another past, told through another outlet. -/
def behind (chronicle : Chronicle α) (past : List (Moment α)) (outlet : Outlet α) : Chronicle α :=
  { synchronizer := chronicle.synchronizer.withOutlet outlet
    moments := past ++ chronicle.moments }

variable (chronicle : Chronicle α) (past : List (Moment α)) (outlet : Outlet α)

theorem heed_behind (act : Act) :
    ∃ told, (chronicle.behind past outlet).heed act = (chronicle.heed act).behind past told := by
  simp only [heed, behind, Synchronizer.act_withOutlet]
  cases chronicle.synchronizer.act act with
  | none => exact ⟨outlet, rfl⟩
  | some next =>
    refine ⟨next.effects.foldl Outlet.observe outlet, ?_⟩
    rw [Option.map_some, ← List.append_assoc]
    rfl

/-- What happens from now on is the same whatever happened before and whoever has been told. -/
theorem heedAll_behind (acts : List Act) :
    ∃ told,
      (chronicle.behind past outlet).heedAll acts = (chronicle.heedAll acts).behind past told := by
  induction acts generalizing chronicle outlet with
  | nil => exact ⟨outlet, rfl⟩
  | cons act acts ih =>
    obtain ⟨told, same⟩ := chronicle.heed_behind past outlet act
    obtain ⟨last, further⟩ := ih (chronicle.heed act) told
    refine ⟨last, ?_⟩
    rw [heedAll, List.foldl_cons, same]
    exact further

end Chronicle

/-! ## From a stop on -/

/-- Without a run no signal is waited for. -/
theorem Chronicle.heedAll_late [Resource α] {chronicle : Chronicle α}
    (inactive : chronicle.synchronizer.run = none) (late : List (Credential × Signal)) :
    chronicle.heedAll (late.map fun (credential, signal) => .step credential signal) =
      chronicle := by
  induction late with
  | nil => rfl
  | cons first late ih =>
    have unheeded : chronicle.heed (.step first.1 first.2) = chronicle := by
      rw [heed, Synchronizer.act, Synchronizer.step, inactive]
      rfl
    rw [List.map_cons, heedAll, List.foldl_cons, unheeded]
    exact ih

section Restart

variable [Resource α] (client : Client) (options : Options)

/-- A synchronizer keeps what it was made of. -/
theorem Chronicle.made_of (acts : List Act) :
    let created : Synchronizer α := .create client options
    (of created acts).synchronizer.client = created.client ∧
      (of created acts).synchronizer.options = created.options := by
  intro created
  exact (of_induction
    (motive := fun synchronizer _ => synchronizer.client = created.client ∧
      synchronizer.options = created.options)
    (Synchronizer.coherent_create client options) ⟨rfl, rfl⟩ (fun _ same _ => same) acts).2

omit [Resource α] in
/-- But for its outlet, a stopped synchronizer starts as a new one does. -/
theorem Synchronizer.Stopped.start_eq {synchronizer : Synchronizer α}
    (stopped : synchronizer.Stopped)
    (sameClient : synchronizer.client = (create client options : Synchronizer α).client)
    (sameOptions : synchronizer.options = (create client options : Synchronizer α).options) :
    synchronizer.start.1 =
      (create client options : Synchronizer α).start.1.through synchronizer.outlet := by
  obtain ⟨kept, chosen, phase, run, outlet⟩ := synchronizer
  obtain ⟨inactive, stopped, -⟩ := stopped
  cases inactive
  cases stopped
  cases sameClient
  cases sameOptions
  -- Both phases allow the start, which leaves nothing of them.
  rw [← start_withOutlet]
  rfl

end Restart

/-- Once a stop is over, whatever came before it, the next start is as the first one of a
synchronizer that was just made of the same client and options; nobody waits for what was still
under way. Given the same acts from then on, both heed the same ones of them and do the same in the
same order: they tell, publish and send the same, wait for the same delays and log the same. Their
phases, runs and snapshots are the same too. -/
theorem restart_is_fresh [Resource α] (client : Client) (options : Options)
    (history : List Act) (late : List (Credential × Signal)) (later : List Act) :
    let created : Synchronizer α := .create client options
    let stopped : Chronicle α := .of created (history ++ [.stop])
    let signals : List Act := late.map fun (credential, signal) => .step credential signal
    let restarted : Chronicle α := .of created (history ++ [.stop] ++ signals ++ .start :: later)
    let fresh : Chronicle α := .of created (.start :: later)
    restarted.moments = stopped.moments ++ fresh.moments ∧
      restarted.synchronizer.phase = fresh.synchronizer.phase ∧
      restarted.synchronizer.run = fresh.synchronizer.run ∧
      restarted.synchronizer.snapshot = fresh.synchronizer.snapshot := by
  intro created stopped signals restarted fresh
  obtain ⟨sameClient, sameOptions⟩ := Chronicle.made_of (α := α) client options (history ++ [.stop])
  have ended : stopped.synchronizer.Stopped := by
    have coherent := (Chronicle.orderly_of (α := α) client options history).1
    have turn := @Turn.heed_stop _ _ (Chronicle.of created history).synchronizer.unmoved coherent
    rw [show stopped = (Chronicle.of created history).heed .stop from Chronicle.of_append ..]
    exact turn.1
  -- After the start the two differ in what came before and in their outlets alone.
  obtain ⟨told, begun⟩ : ∃ told,
      stopped.heed .start = (Chronicle.of created [.start]).behind stopped.moments told := by
    have started := ended.start_eq client options sameClient sameOptions
    refine ⟨created.start.1.effects.foldl Outlet.observe stopped.synchronizer.outlet, ?_⟩
    simp only [Chronicle.heed, Synchronizer.act, started]
    rfl
  obtain ⟨last, further⟩ :=
    (Chronicle.of created [.start]).heedAll_behind stopped.moments told later
  have same : restarted = fresh.behind stopped.moments last := by
    calc restarted = (Chronicle.of created (history ++ [.stop] ++ signals)).heedAll
          (.start :: later) := Chronicle.of_append ..
      _ = (stopped.heedAll signals).heedAll (.start :: later) := by rw [Chronicle.of_append]
      _ = (stopped.heed .start).heedAll later := by
        rw [Chronicle.heedAll_late ended.inactive]
        rfl
      _ = ((Chronicle.of created [.start]).behind stopped.moments told).heedAll later := by
        rw [begun]
      _ = fresh.behind stopped.moments last := further
  have left : restarted.synchronizer.Coherent := (Chronicle.orderly_of client options _).1
  have right : fresh.synchronizer.Coherent := (Chronicle.orderly_of client options _).1
  have phase : restarted.synchronizer.phase = fresh.synchronizer.phase := by rw [same]; rfl
  have run : restarted.synchronizer.run = fresh.synchronizer.run := by rw [same]; rfl
  refine ⟨by rw [same]; rfl, phase, run, ?_⟩
  -- What is published is what the run holds, or nothing.
  cases active : fresh.synchronizer.run with
  | some current => rw [left.snapshot (run.trans active), right.snapshot active]
  | none => rw [(left.inactive (run.trans active)).1, (right.inactive active).1]

end ListWatch
