import ListWatch.Proofs.Client.Paths
import ListWatch.Proofs.Synchronizer.Calls

/-!
# What a synchronizer sends

A synchronizer speaks for its client: it sends nothing but the client's list and the client's
watches, and the list is the first thing that a run sends. What a client asks for depends on the
place of its collection and not on how that is spelled.
-/
namespace ListWatch

/-! ## Sends among the effects -/

section Effects

variable {α : Type} {synchronizer : Synchronizer α} {route : Route} {request : Request}

theorem sent_mem_askEffects {asked : Request} :
    .send route request ∈ synchronizer.askEffects asked ↔ route = .whole ∧ request = asked := by
  simp [Synchronizer.askEffects]

theorem sent_mem_watchEffects {asked : Request} :
    Effect.send route request ∈ Synchronizer.watchEffects (α := α) asked ↔
      route = .stream ∧ request = asked := by
  simp [Synchronizer.watchEffects]

theorem not_sent_mem_phaseEffects (collection : String) (phase : Phase) :
    Effect.send route request ∉ phaseEffects (α := α) collection phase := by
  simp [phaseEffects]

theorem not_sent_mem_failureEffects (run : Run α) (failure : Failure) :
    .send route request ∉ synchronizer.failureEffects run failure := by
  simp [Synchronizer.failureEffects, phaseEffects]

theorem not_sent_mem_listEffects (run : Run α) (list : ObjectList α) :
    .send route request ∉ synchronizer.listEffects run list := by
  simp [Synchronizer.listEffects, phaseEffects]

theorem Resumes.not_sent_mem {collection : String} {stage : Stage} {signal : Signal}
    {opening : List (Effect α)} (resumes : Resumes collection stage signal opening) :
    .send route request ∉ opening := by
  cases resumes with
  | begin => exact List.not_mem_nil
  | retry => exact not_sent_mem_phaseEffects _ _

end Effects

/-! ## What a client asks for -/

/-- What the client would send on a route: its list, or a watch from some version. -/
def Client.Asks (α : Type) [Resource α] (client : Client) (credential : Credential) :
    Route → Request → Prop
  | .whole, request => client.request credential (.list : Call α) = .ok request
  | .stream, request => ∃ version, client.watchRequest credential version = .ok request

section Requests

variable {α : Type} [Resource α]

/-- What a client asks for depends on its server, the time it gives a list, and its segments. -/
theorem Client.asks_congr {client other : Client} (server : client.server = other.server)
    (timeout : client.listTimeoutSeconds = other.listTimeoutSeconds)
    (segments : client.segments client.scope = other.segments other.scope)
    (credential : Credential) (route : Route) (request : Request) :
    client.Asks α credential route request ↔ other.Asks α credential route request := by
  have url := collectionUrl_congr server segments
  cases route with
  | whole =>
    simp only [Asks, Client.request, timeoutPair, url, timeout]
  | stream => simp only [Asks, watchRequest, url]

/-- The synchronizer sends what the client would, and begins with its list. -/
structure Synchronizer.Addresses (synchronizer : Synchronizer α) (client : Client) : Prop where
  sends : ∀ {act turn route request}, synchronizer.act act = some turn →
    .send route request ∈ turn.effects →
    ∃ credential signal, act = .step credential signal ∧ client.Asks α credential route request
  lists : ∀ {run credential request}, synchronizer.run = some run → run.stage = .begun →
    client.Asks α credential .whole request →
    ∃ turn, synchronizer.act (.step credential .proceed) = some turn ∧
      .send .whole request ∈ turn.effects

variable {synchronizer : Synchronizer α} {route : Route} {request : Request}

theorem not_sent_mem_changeEffects (collection : String) (replica : Replica α)
    (change : Change α) : .send route request ∉ changeEffects collection replica change := by
  cases change with
  | added object => simp [changeEffects]
  | modified object =>
    by_cases held : Resource.key object ∈ replica.keys <;> simp [changeEffects, held]
  | deleted object =>
    by_cases held : Resource.key object ∈ replica.keys <;> simp [changeEffects, held]
  | bookmark _ | error _ | unknown _ => simp [changeEffects]

/-- Whatever a passage sends, the client asks for. -/
theorem Passage.asks {credential : Credential} {run next : Run α} {signal : Signal} {phase : Phase}
    {effects : List (Effect α)}
    (passage : Passage synchronizer credential run signal phase next effects)
    (sent : .send route request ∈ effects) :
    synchronizer.client.Asks α credential route request := by
  cases passage with
  | asked resumes made =>
    simp only [List.mem_append, List.mem_cons, resumes.not_sent_mem, reduceCtorEq, false_or,
      sent_mem_askEffects] at sent
    obtain ⟨rfl, rfl⟩ := sent
    exact made
  | unasked resumes _ =>
    simp [resumes.not_sent_mem, not_sent_mem_failureEffects] at sent
  | @listed _ _ _ list _ _ _ _ made =>
    -- The watch starts from the version of the list.
    simp only [List.mem_append, List.mem_map, reduceCtorEq, and_false, exists_false, false_or,
      not_sent_mem_listEffects, sent_mem_watchEffects] at sent
    obtain ⟨rfl, rfl⟩ := sent
    exact ⟨list.resourceVersion, made⟩
  | unwatched _ _ _ _ =>
    simp [not_sent_mem_listEffects, not_sent_mem_failureEffects] at sent
  | opened _ _ => cases sent
  | applied _ _ => simp [not_sent_mem_changeEffects] at sent
  | fed _ _ => cases sent
  | failed _ => simp [not_sent_mem_failureEffects] at sent

/-- A coherent synchronizer speaks for its client. -/
theorem Synchronizer.Coherent.addresses (coherent : synchronizer.Coherent) :
    synchronizer.Addresses synchronizer.client := by
  constructor
  · intro act turn route request acted sent
    obtain ⟨phase, run, effects, rfl, deed⟩ := act_deed coherent acted
    have sent : .send route request ∈ effects := by simpa using sent
    cases deed with
    | started _ => simp [not_sent_mem_phaseEffects] at sent
    | startedAgain _ => simp at sent
    | stepped _ passage => exact ⟨_, _, rfl, passage.asks sent⟩
    | stopped _ => simp [not_sent_mem_lastEffects, not_sent_mem_phaseEffects] at sent
    | stoppedIdle _ _ => simp [not_sent_mem_phaseEffects] at sent
    | stoppedAgain _ _ => simp at sent
  · intro run credential request active begun asks
    refine ⟨synchronizer.unmoved.list credential run, ?_, ?_⟩
    · rw [Synchronizer.act, step, active, Option.bind_some, begun]
      rfl
    · have made : synchronizer.client.request credential (.list : Call α) = .ok request := asks
      rw [Turn.list_ok (by exact made)]
      simp [sent_mem_askEffects]

/-- What is said for one client is said for every other that asks for the same. -/
theorem Synchronizer.Addresses.congr {client other : Client}
    (addresses : synchronizer.Addresses client)
    (same : ∀ credential route request,
      client.Asks α credential route request ↔ other.Asks α credential route request) :
    synchronizer.Addresses other := by
  constructor
  · intro act turn route request acted sent
    obtain ⟨credential, signal, stepped, asks⟩ := addresses.sends acted sent
    exact ⟨credential, signal, stepped, (same _ _ _).mp asks⟩
  · intro run credential request active begun asks
    exact addresses.lists active begun ((same _ _ _).mpr asks)

end Requests

end ListWatch
