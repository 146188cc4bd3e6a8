import Mathlib.Data.List.Chain
import ListWatch.Proofs.Stores.Registry

/-!
# Starts and stops take turns

A call is granted when it is answered yes. A start is granted just when there is no run
and begins one, a stop is granted just when there is a run and ends it, and a step does
neither. So among the calls that are granted starts and stops take turns, and the runs
begun are the runs ended and the one that is active, if there is one. This holds of every
order in which calls have their turn, whoever makes them. A registry gives one
synchronizer for a path, which lives its own life, so it holds there too.
-/
namespace ListWatch

open ResourceFamily (Carrier)

variable {α : Type} [Resource α]

inductive Command where
  | start
  | stop
  deriving DecidableEq, Repr

/-- The call that is granted, as a run is active or not. -/
def Command.due (active : Bool) : Command := if active then .stop else .start

namespace Synchronizer

/-- The call that an act is, if it is granted. -/
def granted? (synchronizer : Synchronizer α) : Act → Option Command
  | .start => if synchronizer.start.2 then some .start else none
  | .stop => if synchronizer.stop.2 then some .stop else none
  | .step _ _ => none

/-- The calls that are granted, in the order in which they have their turn. -/
def granted (synchronizer : Synchronizer α) : List Act → List Command
  | [] => []
  | act :: acts => (synchronizer.granted? act).toList ++ (synchronizer.heed act).granted acts

variable {synchronizer : Synchronizer α}

/-- What is granted is what is due, and then the other call is. -/
theorem granted?_due (coherent : synchronizer.Coherent) (act : Act) :
    (synchronizer.granted? act = none ∧
        (synchronizer.heed act).run.isSome = synchronizer.run.isSome) ∨
      (synchronizer.granted? act = some (.due synchronizer.run.isSome) ∧
        (synchronizer.heed act).run.isSome = !synchronizer.run.isSome) := by
  rcases heed_deed coherent act with ⟨unheeded, same⟩ | ⟨phase, run, effects, after, deed⟩
  · cases act with
    | start | stop => cases unheeded
    | step credential signal => exact Or.inl ⟨rfl, by rw [same]⟩
  · rw [after]
    cases deed with
    | started inactive =>
      have granted := (start_eq_true_iff coherent).mpr inactive
      exact Or.inr ⟨by rw [granted?, if_pos granted, inactive]; rfl, by rw [inactive]; rfl⟩
    | startedAgain active =>
      have refused : ¬ synchronizer.start.2 = true := by
        rw [start_eq_true_iff coherent, active]
        nofun
      exact Or.inl ⟨by rw [granted?, if_neg refused], by rw [active]⟩
    | stepped active _ => exact Or.inl ⟨rfl, by rw [active]; rfl⟩
    | stopped active =>
      have granted : synchronizer.stop.2 = true := by
        rw [stop_eq_true_iff, active]
        nofun
      exact Or.inr ⟨by rw [granted?, if_pos granted, active]; rfl, by rw [active]; rfl⟩
    | stoppedIdle inactive _ | stoppedAgain inactive _ =>
      have refused : ¬ synchronizer.stop.2 = true := by
        rw [stop_eq_true_iff, inactive]
        exact fun differs => differs rfl
      exact Or.inl ⟨by rw [granted?, if_neg refused], by rw [inactive]⟩

/-- No two granted calls in a row are alike, and the first is the one that is due. -/
theorem isChain_granted (coherent : synchronizer.Coherent) (acts : List Act) :
    (Command.due (!synchronizer.run.isSome) :: synchronizer.granted acts).IsChain (· ≠ ·) := by
  induction acts generalizing synchronizer with
  | nil => exact List.isChain_singleton _
  | cons act acts ih =>
    have rest := ih (coherent_heed coherent act)
    rcases granted?_due coherent act with ⟨quiet, same⟩ | ⟨granted, flipped⟩
    · rw [same] at rest
      rw [Synchronizer.granted, quiet]
      exact rest
    · -- The call that is granted is the one from which the rest goes on.
      rw [flipped, Bool.not_not] at rest
      rw [Synchronizer.granted, granted]
      refine List.isChain_cons_cons.mpr ⟨?_, rest⟩
      cases synchronizer.run.isSome <;> decide

/-- The runs begun, with the one that was active, are the runs ended, with the one that is. -/
theorem count_granted (coherent : synchronizer.Coherent) (acts : List Act) :
    (synchronizer.granted acts).count .start + synchronizer.run.isSome.toNat =
      (synchronizer.granted acts).count .stop + (synchronizer.heedAll acts).run.isSome.toNat := by
  induction acts generalizing synchronizer with
  | nil => rfl
  | cons act acts ih =>
    have rest := ih (coherent_heed coherent act)
    rw [Synchronizer.granted, heedAll, List.foldl_cons, ← heedAll, List.count_append,
      List.count_append]
    rcases granted?_due coherent act with ⟨quiet, same⟩ | ⟨granted, flipped⟩
    · rw [same] at rest
      rw [quiet]
      simpa using rest
    · rw [flipped] at rest
      rw [granted]
      cases active : synchronizer.run.isSome with
      | false =>
        -- A start is granted, and from then on its run is the active one.
        rw [active] at rest
        simp [Command.due] at rest ⊢
        omega
      | true =>
        -- A stop is granted, and the run that was active is ended.
        rw [active] at rest
        simp [Command.due] at rest ⊢
        omega

omit [Resource α] in
/-- A start that is refused leaves everything as it is but for a record in the log. -/
theorem start_refused (refused : synchronizer.start.2 = false) :
    synchronizer.start.1.synchronizer = synchronizer ∧
      ∀ effect ∈ synchronizer.start.1.effects, ∃ record, effect = .log record := by
  cases active : synchronizer.run with
  | some run =>
    rw [start, active]
    exact ⟨rfl, fun effect told => ⟨_, List.mem_singleton.mp told⟩⟩
  | none =>
    -- Without a run only a phase that does not allow the start refuses it.
    cases moved : synchronizer.phase.move .start with
    | ok phase => simp [start, active, moved] at refused
    | error failure =>
      simp only [start, active, moved]
      exact ⟨rfl, fun effect told => ⟨_, List.mem_singleton.mp told⟩⟩

/-- The calls granted so far are starts and stops in turn, the run is the one that they leave, and
so every call is answered. -/
structure TakesTurns (synchronizer : Synchronizer α) (granted : List Command) : Prop where
  /-- The first call is a start, and no two in a row are alike. -/
  alternates : (Command.stop :: granted).IsChain (· ≠ ·)
  /-- Of the runs begun all but the active one are ended. -/
  alive : granted.count .start = granted.count .stop + synchronizer.run.isSome.toNat
  starts : synchronizer.start.2 = true ↔ synchronizer.run = none
  stops : synchronizer.stop.2 = true ↔ synchronizer.run ≠ none
  /-- A start that is refused changes nothing, tells nothing, publishes nothing and sends nothing. -/
  refused : synchronizer.start.2 = false →
    synchronizer.start.1.synchronizer = synchronizer ∧
      ∀ effect ∈ synchronizer.start.1.effects, ∃ record, effect = .log record

theorem takesTurns_heedAll (client : Client) (options : Options) (acts : List Act) :
    ((Synchronizer.create client options : Synchronizer α).heedAll acts).TakesTurns
      ((Synchronizer.create client options : Synchronizer α).granted acts) := by
  have created := coherent_create (α := α) client options
  exact
    { alternates := isChain_granted created acts
      alive := count_granted created acts
      starts := start_eq_true_iff (coherent_heedAll created acts)
      stops := stop_eq_true_iff
      refused := start_refused }

end Synchronizer

/-! ## In a registry -/

namespace Stores

variable {κ : Type} [ResourceFamily κ] [DecidableEq κ]

/-- The call that an act means to the synchronizer at a path, if it is granted. -/
def granted? (stores : Stores κ) (path : String) (act : RegistryAct κ) : Option Command :=
  (stores.find? path).bind fun store => (act.part? path).bind store.synchronizer.granted?

/-- The calls that are granted at a path, in the order in which they have their turn. -/
def granted (stores : Stores κ) (path : String) : List (RegistryAct κ) → List Command
  | [] => []
  | act :: acts => (stores.granted? path act).toList ++ (stores.heed act).granted path acts

variable {stores : Stores κ} {path : String}

/-- What is granted at a path is what is granted to the synchronizer that is found there. -/
theorem granted_of_find? {store : Store κ} (found : stores.find? path = some store)
    (acts : List (RegistryAct κ)) :
    stores.granted path acts =
      store.synchronizer.granted (acts.filterMap (RegistryAct.part? path)) := by
  induction acts generalizing stores store with
  | nil => rfl
  | cons act acts ih =>
    have next := stores.find?_heed path act
    rw [found, Option.map_some, Option.some_or] at next
    rw [granted, granted?, found, Option.bind_some, ih next]
    cases part : act.part? path with
    | none => rw [List.filterMap_cons_none part]; rfl
    | some own => rw [List.filterMap_cons_some part]; rfl

/-- A synchronizer that came to a registry lives a life of its own there. -/
theorem exists_own_life {store : Store κ} {acts : List (RegistryAct κ)}
    (absent : stores.find? path = none) (found : (stores.heedAll acts).find? path = some store) :
    ∃ client own,
      let created : Synchronizer (Carrier store.kind) := .create client stores.options
      store.synchronizer = created.heedAll own ∧ stores.granted path acts = created.granted own := by
  induction acts generalizing stores with
  | nil => cases absent.symm.trans found
  | cons act acts ih =>
    have next := stores.find?_heed path act
    rw [absent, Option.map_none, Option.none_or] at next
    -- Until the path is registered nothing is granted there.
    have quiet : stores.granted path (act :: acts) = (stores.heed act).granted path acts := by
      rw [granted, granted?, absent]
      rfl
    rw [quiet]
    cases made : stores.made? path act with
    | none => exact (kept_heed act).2 ▸ ih (next.trans made) found
    | some store =>
      -- From here on its own acts are those that concern the path.
      obtain ⟨client, created⟩ := created_of_made? made
      have here := find?_heedAll (next.trans made) acts
      cases here.symm.trans found
      let own := acts.filterMap (RegistryAct.part? path)
      have granted := granted_of_find? (next.trans made) acts
      exact ⟨client, own, congrArg (Synchronizer.heedAll · own) created,
        granted.trans (congrArg (Synchronizer.granted · own) created)⟩

end Stores

/-- Whatever calls have their turn in whatever order, and whatever a run is given in between, at
most one run is active: starts and stops are granted in turn, a start just when there is no run and a
stop just when there is one, and a start that is refused does nothing. So it is for the synchronizer
that a registry gives for a path, whoever asks for it and however often. -/
theorem at_most_one_run {κ : Type} [ResourceFamily κ] [DecidableEq κ] :
    (∀ (client : Client) (options : Options) (acts : List Act),
      let created : Synchronizer α := .create client options
      (created.heedAll acts).TakesTurns (created.granted acts)) ∧
    ∀ (server : Url) (options : Options) (acts : List (RegistryAct κ)) (path : String)
      (store : Store κ),
      let empty : Stores κ := { server, options }
      (empty.heedAll acts).find? path = some store →
        store.synchronizer.TakesTurns (empty.granted path acts) := by
  refine ⟨Synchronizer.takesTurns_heedAll, ?_⟩
  intro server options acts path store empty found
  obtain ⟨client, own, lived, granted⟩ := Stores.exists_own_life rfl found
  rw [lived, granted]
  exact Synchronizer.takesTurns_heedAll client options own

/-- Of five calls in a registry, two of them for all that it holds, three are granted: the second start
finds the run of the first, though the path was registered again, and the second stop finds none. -/
theorem Sample.at_most_one_run_in_registry :
    let acts : List (RegistryAct Unit) :=
      [.register client.collection none (), .startAll, .step client.path .anonymous .proceed,
        .register client.collection none (), .start client.path, .stop client.path, .stopAll,
        .start client.path]
    let empty : Stores Unit := { server := client.server, options := {} }
    ∃ store, (empty.heedAll acts).find? client.path = some store ∧
      store.synchronizer.TakesTurns [.start, .stop, .start] := by
  intro acts empty
  have there : ((empty.heedAll acts).find? client.path).isSome = true := by decide +kernel
  have granted : empty.granted client.path acts = [.start, .stop, .start] := by decide +kernel
  obtain ⟨store, found⟩ := Option.isSome_iff_exists.mp there
  refine ⟨store, found, ?_⟩
  rw [← granted]
  exact (at_most_one_run (α := UntypedObject)).2 client.server {} acts client.path store found

end ListWatch
