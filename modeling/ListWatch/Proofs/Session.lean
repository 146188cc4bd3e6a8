import ListWatch.Proofs.Client.Delivery
import ListWatch.Proofs.Synchronizer.Redaction
import ListWatch.Proofs.Synchronizer.Sending
import ListWatch.Resource.Family

/-!
# Sessions

A session is what is done with one credential: its token is replaced, a synchronizer is started,
stopped and given signals, and calls and watches are made through any clients, in any order. All
that comes of it is reported, together with the credential that was held, the phase and the
snapshot. A call reads the credential for its request alone, so that it does not matter what comes
between the request and the answer, and a call is one occasion.

Redaction is kept by every occasion. So two sessions that differ in nothing but tokens come to the
same once the tokens are redacted, whatever they are and whenever they are replaced.
-/
namespace ListWatch

open ResourceFamily (Carrier)

/-- What may happen in a session, with the answers of the transport. -/
inductive Occasion (κ : Type) [ResourceFamily κ] where
  | rotate (token : Option String)
  | start
  | stop
  | signal (signal : Signal)
  /-- A call, and the answer to its request if there is one. -/
  | call (kind : κ) (client : Client) (call : Call (Carrier kind))
      (answer : Option (Except TransportError Response))
  /-- A watch that its handler cancels after some changes, opened and read in one go or not. -/
  | watch (kind : κ) (client : Client) (cursor : Option String) (inOneGo : Bool)
      (halts : List (Change (Carrier kind)) → Bool) (signals : List WatchSignal)
  /-- A look at what the credential, a client and the synchronizer show of themselves. -/
  | inspect (client : Client)

/-- What comes of an occasion. -/
inductive Report (α κ : Type) [ResourceFamily κ] where
  | rotated
  /-- Whether the synchronizer did as it was asked or had waited for the signal, and its effects. -/
  | turned (granted : Bool) (effects : List (Effect α))
  | called (kind : κ) (asked : Option Request) (records : List LogRecord)
      (reply : Option (Except ClientError (Reply (Carrier kind))))
  | watched (kind : κ) (asked : Option Request) (changes : List (Change (Carrier kind)))
      (ending : Option (Except ClientError WatchEnd))
  | inspected (texts : List String)

/-- A report with what was held at the time, and the phase and snapshot that were left. -/
structure Entry (α κ : Type) [ResourceFamily κ] where
  held : Credential
  report : Report α κ
  phase : Phase
  snapshot : Snapshot α

structure Session (α κ : Type) [ResourceFamily κ] where
  credential : Credential
  synchronizer : Synchronizer α
  entries : List (Entry α κ) := []

variable {α κ : Type} [ResourceFamily κ]

/-! ## What comes of calls and watches -/

/-- The result of a watch that is over. -/
def WatchState.ending? (inOneGo : Bool) : WatchState → Option (Except WatchError WatchEnd)
  | .over result => some (if inOneGo then watchResult result else result)
  | .opening _ | .reading _ _ => none

namespace Report

/-- A call whose request is made, or not. -/
def ofCall (kind : κ) (call : Call (Carrier kind))
    (answer : Option (Except TransportError Response)) : Except ClientError Request → Report α κ
  | .error error => .called kind none [] (some (.error error))
  | .ok request =>
    let records := match answer with
      | some (.ok response) => response.records
      | some (.error _) | none => []
    .called kind (some request) (request.sendRecord :: records)
      (answer.map (call.conclude request))

def ofWatch (kind : κ) (inOneGo : Bool) (halts : List (Change (Carrier kind)) → Bool)
    (signals : List WatchSignal) : Except ClientError Request → Report α κ
  | .error error => .watched kind none [] (some (.error error))
  | .ok request =>
    let handler : Handler (Carrier kind) (List (Change (Carrier kind))) :=
      { handle := fun changes change => changes ++ [change], cancelled := halts }
    let watch := WatchState.run handler request.url.render [] signals
    .watched kind (some request) watch.2 ((watch.1.ending? inOneGo).map (·.mapError .watch))

/-- The requests that were made, whether or not they were sent. -/
def requests : Report α κ → List Request
  | .turned _ effects => effects.filterMap fun
    | .send _ request => some request
    | .emit _ | .publish _ | .wait _ | .log _ => none
  | .called _ asked _ _ | .watched _ asked _ _ => asked.toList
  | .rotated | .inspected _ => []

end Report

/-! ## Sessions and their course -/

namespace Session

def report (session : Session α κ) (report : Report α κ) : Session α κ :=
  { session with
    entries := session.entries ++
      [{ held := session.credential, report, phase := session.synchronizer.phase
         snapshot := session.synchronizer.snapshot }] }

/-- The session after a turn of its synchronizer. -/
def turned (session : Session α κ) (turn : Turn α) (granted : Bool) : Session α κ :=
  { session with synchronizer := turn.synchronizer }.report (.turned granted turn.effects)

variable [Resource α]

def take (session : Session α κ) : Occasion κ → Session α κ
  | .rotate token =>
    { session with credential := session.credential.store token }.report .rotated
  | .start => session.turned session.synchronizer.start.1 session.synchronizer.start.2
  | .stop => session.turned session.synchronizer.stop.1 session.synchronizer.stop.2
  | .signal signal =>
    match session.synchronizer.step session.credential signal with
    | some turn => session.turned turn true
    | none => session.turned session.synchronizer.unmoved false
  | .call kind client call answer =>
    session.report (.ofCall kind call answer (client.request session.credential call))
  | .watch kind client cursor inOneGo halts signals =>
    session.report (.ofWatch kind inOneGo halts signals
      (client.watchRequest session.credential cursor))
  | .inspect client =>
    session.report (.inspected [session.credential.description, client.description,
      session.synchronizer.description])

def takeAll (session : Session α κ) (occasions : List (Occasion κ)) : Session α κ :=
  occasions.foldl take session

end Session

/-! ## Redaction -/

def Occasion.redacted : Occasion κ → Occasion κ
  | .rotate token => .rotate (token.map redactToken)
  -- Nothing else that happens holds a token.
  | occasion => occasion

/-- Occasions that differ in no more than the tokens put in. -/
inductive Occasion.Alike : Occasion κ → Occasion κ → Prop where
  | rotate {first second : Option String} : Interchangeable first second →
      Alike (.rotate first) (.rotate second)
  | same (occasion : Occasion κ) : Alike occasion occasion

theorem Occasion.map_redacted_eq {occasions others : List (Occasion κ)}
    (alike : List.Forall₂ Alike occasions others) :
    occasions.map redacted = others.map redacted := by
  induction alike with
  | nil => rfl
  | cons first _ ih =>
    rw [List.map_cons, List.map_cons, ih]
    cases first with
    | rotate alike => rw [redacted, redacted, alike.map_redactToken]
    | same _ => rfl

def Report.redacted : Report α κ → Report α κ
  | .rotated => .rotated
  | .turned granted effects => .turned granted (effects.map Effect.redacted)
  | .called kind asked records reply => .called kind (asked.map Request.redacted) records reply
  | .watched kind asked changes ending =>
    .watched kind (asked.map Request.redacted) changes ending
  | .inspected texts => .inspected texts

def Entry.redacted (entry : Entry α κ) : Entry α κ :=
  { entry with held := entry.held.redacted, report := entry.report.redacted }

theorem Report.ofCall_redacted (kind : κ) (call : Call (Carrier kind))
    (answer : Option (Except TransportError Response)) (made : Except ClientError Request) :
    ofCall kind call answer (made.map Request.redacted) =
      (ofCall kind call answer made : Report α κ).redacted := by
  cases made with
  | error error => rfl
  | ok request =>
    have same : call.conclude request.redacted = call.conclude request := by
      funext answer
      exact request.conclude_redacted call.read answer
    simp [Except.map, ofCall, Report.redacted, same]

theorem Report.ofWatch_redacted (kind : κ) (inOneGo : Bool)
    (halts : List (Change (Carrier kind)) → Bool) (signals : List WatchSignal)
    (made : Except ClientError Request) :
    ofWatch kind inOneGo halts signals (made.map Request.redacted) =
      (ofWatch kind inOneGo halts signals made : Report α κ).redacted := by
  cases made <;> rfl

namespace Session

def redacted (session : Session α κ) : Session α κ :=
  { credential := session.credential.redacted
    synchronizer := session.synchronizer.redacted
    entries := session.entries.map Entry.redacted }

variable (session : Session α κ)

@[simp] theorem report_redacted (report : Report α κ) :
    session.redacted.report report.redacted = (session.report report).redacted := by
  simp [Session.report, redacted, Entry.redacted]

@[simp] theorem turned_redacted (turn : Turn α) (granted : Bool) :
    session.redacted.turned turn.redacted granted = (session.turned turn granted).redacted :=
  report_redacted { session with synchronizer := turn.synchronizer } (.turned granted turn.effects)

variable [Resource α]

/-- One occasion: what it does with the redacted tokens is what it does, redacted. -/
theorem take_redacted (occasion : Occasion κ) :
    session.redacted.take occasion.redacted = (session.take occasion).redacted := by
  cases occasion with
  | rotate token =>
    -- Only here a token comes in, and it is redacted with the occasion.
    have stored := session.credential.store_redacted token
    simp only [take, Occasion.redacted, ← report_redacted]
    simp only [redacted, stored, Report.redacted]
  | start =>
    have started := session.synchronizer.start_redacted
    simp only [take, Occasion.redacted, ← turned_redacted]
    simp only [redacted, started, Prod.map, id]
  | stop =>
    have stopped := session.synchronizer.stop_redacted
    simp only [take, Occasion.redacted, ← turned_redacted]
    simp only [redacted, stopped, Prod.map, id]
  | signal signal =>
    have stepped : session.redacted.synchronizer.step session.redacted.credential signal =
        (session.synchronizer.step session.credential signal).map Turn.redacted :=
      session.synchronizer.step_redacted session.credential signal
    simp only [take, Occasion.redacted, stepped]
    cases session.synchronizer.step session.credential signal with
    | none => exact session.turned_redacted session.synchronizer.unmoved false
    | some turn => exact session.turned_redacted turn true
  | call kind client call answer =>
    have asked : client.request session.redacted.credential call =
        (client.request session.credential call).map Request.redacted :=
      (client.asksTokenLast_request call).redacted session.credential
    simp only [take, Occasion.redacted, asked, Report.ofCall_redacted, report_redacted]
  | watch kind client cursor inOneGo halts signals =>
    have asked : client.watchRequest session.redacted.credential cursor =
        (client.watchRequest session.credential cursor).map Request.redacted :=
      (client.asksTokenLast_watchRequest cursor).redacted session.credential
    simp only [take, Occasion.redacted, asked, Report.ofWatch_redacted, report_redacted]
  | inspect client =>
    have shown := session.credential.description_redacted
    simp only [take, Occasion.redacted, ← report_redacted, Report.redacted]
    simp only [redacted, shown, Synchronizer.redacted_description]

theorem takeAll_redacted (occasions : List (Occasion κ)) :
    session.redacted.takeAll (occasions.map Occasion.redacted) =
      (session.takeAll occasions).redacted := by
  induction occasions generalizing session with
  | nil => rfl
  | cons occasion occasions ih =>
    rw [List.map_cons, takeAll, List.foldl_cons, take_redacted]
    exact ih (session.take occasion)

end Session

/-! ## The token in the requests -/

/-- Every request that was made names the token held. -/
def Entry.NamesHeld (entry : Entry α κ) : Prop :=
  ∀ request ∈ entry.report.requests, request.Names entry.held

theorem Client.Asks.names [Resource α] {client : Client} {credential : Credential} {route : Route}
    {request : Request} (asks : client.Asks α credential route request) :
    request.Names credential := by
  cases route with
  | whole => exact (client.asksTokenLast_request (.list : Call α)).names asks
  | stream =>
    obtain ⟨version, made⟩ := asks
    exact (client.asksTokenLast_watchRequest version).names made

theorem Report.mem_requests_turned {granted : Bool} {effects : List (Effect α)}
    {request : Request} (made : request ∈ (turned granted effects : Report α κ).requests) :
    ∃ route, .send route request ∈ effects := by
  obtain ⟨effect, member, sent⟩ := List.mem_filterMap.mp made
  cases effect with
  | send route _ =>
    cases sent
    exact ⟨route, member⟩
  | emit _ | publish _ | wait _ | log _ => cases sent

theorem Report.asked_of_mem_ofCall {kind : κ} {call : Call (Carrier kind)}
    {answer : Option (Except TransportError Response)} {asked : Except ClientError Request}
    {request : Request} (made : request ∈ (ofCall kind call answer asked : Report α κ).requests) :
    asked = .ok request := by
  cases asked with
  | error error => cases made
  | ok mine => rw [List.mem_singleton.mp made]

theorem Report.asked_of_mem_ofWatch {kind : κ} {inOneGo : Bool}
    {halts : List (Change (Carrier kind)) → Bool} {signals : List WatchSignal}
    {asked : Except ClientError Request} {request : Request}
    (made : request ∈ (ofWatch kind inOneGo halts signals asked : Report α κ).requests) :
    asked = .ok request := by
  cases asked with
  | error error => cases made
  | ok mine => rw [List.mem_singleton.mp made]

namespace Session

/-- What a session keeps: its synchronizer is coherent, and every request names the token held. -/
structure Sound (session : Session α κ) : Prop where
  coherent : session.synchronizer.Coherent
  names : ∀ entry ∈ session.entries, entry.NamesHeld

namespace Sound

variable {session : Session α κ}

theorem report (sound : session.Sound) {report : Report α κ}
    (names : ∀ request ∈ report.requests, request.Names session.credential) :
    (session.report report).Sound := by
  constructor
  · exact sound.coherent
  · intro entry member
    rcases List.mem_append.mp member with earlier | last
    · exact sound.names entry earlier
    · rw [List.mem_singleton.mp last]
      exact names

theorem created (client : Client) (options : Options) (credential : Credential) :
    ({ credential, synchronizer := .create client options } : Session α κ).Sound := by
  constructor
  · exact Synchronizer.coherent_create client options
  · intro entry member
    cases member

variable [Resource α]

/-- An act of the synchronizer. If it is a step, it is one with the session's own credential. -/
theorem turned (sound : session.Sound) (act : Act) {turn : Turn α}
    (acted : session.synchronizer.act act = some turn)
    (own : ∀ {credential signal}, act = .step credential signal →
      credential = session.credential) (granted : Bool) :
    (session.turned turn granted).Sound := by
  have after : ({ session with synchronizer := turn.synchronizer } : Session α κ).Sound := by
    constructor
    · obtain ⟨_, _, _, rfl, deed⟩ := Synchronizer.act_deed sound.coherent acted
      exact deed.coherent sound.coherent
    · exact sound.names
  refine after.report ?_
  -- A request among the effects is one that the client asks for with the credential of the step.
  intro request made
  obtain ⟨route, sent⟩ := Report.mem_requests_turned made
  obtain ⟨credential, signal, stepped, asks⟩ := sound.coherent.addresses.sends acted sent
  exact own stepped ▸ asks.names

theorem take (sound : session.Sound) (occasion : Occasion κ) : (session.take occasion).Sound := by
  cases occasion with
  | rotate token =>
    -- What was made before names what was held then.
    have stored : ({ session with credential := session.credential.store token } :
        Session α κ).Sound := ⟨sound.coherent, sound.names⟩
    exact stored.report fun _ made => nomatch made
  | start => exact sound.turned .start rfl nofun _
  | stop => exact sound.turned .stop rfl nofun _
  | signal signal =>
    rw [Session.take]
    cases stepped : session.synchronizer.step session.credential signal with
    | none => exact sound.report fun _ made => nomatch made
    | some turn =>
      refine sound.turned (.step session.credential signal) stepped ?_ true
      rintro _ _ ⟨⟩
      rfl
  | call kind client call answer =>
    refine sound.report ?_
    intro request made
    exact (client.asksTokenLast_request call).names (Report.asked_of_mem_ofCall made)
  | watch kind client cursor inOneGo halts signals =>
    refine sound.report ?_
    intro request made
    exact (client.asksTokenLast_watchRequest cursor).names (Report.asked_of_mem_ofWatch made)
  | inspect client => exact sound.report fun _ made => nomatch made

theorem takeAll (sound : session.Sound) (occasions : List (Occasion κ)) :
    (session.takeAll occasions).Sound := by
  induction occasions generalizing session with
  | nil => exact sound
  | cons occasion occasions ih => exact ih (sound.take occasion)

end Sound

end Session

/-- A token reaches the header that names it and nothing else. Two sessions whose credentials and
rotations differ in no more than tokens that a header can carry come to the same once the tokens in
that header are redacted: the same notices, snapshots and phases, replies, results and failures, the
same requests but for the header, and the same texts that the credential, the clients and the
synchronizer show of themselves. And each request names the token that was held when it was made;
the header is not there when there was no token or an empty one. -/
theorem token_reaches_authorization_alone [Resource α] (client : Client) (options : Options)
    {credential another : Credential} {occasions others : List (Occasion κ)}
    (sources : credential.Alike another)
    (rotations : List.Forall₂ Occasion.Alike occasions others) :
    let synchronizer : Synchronizer α := .create client options
    let one := Session.takeAll { credential, synchronizer } occasions
    let other := Session.takeAll { credential := another, synchronizer } others
    one.entries.map Entry.redacted = other.entries.map Entry.redacted ∧
      ∀ entry ∈ one.entries ++ other.entries, ∀ request ∈ entry.report.requests,
        request.authorization =
          ((entry.held.token.filter fun token => token ≠ "").map ("Bearer " ++ ·)).toList := by
  intro synchronizer one other
  constructor
  · -- Redacted from the start, the two are one session.
    have same : one.redacted = other.redacted := by
      rw [← Session.takeAll_redacted, ← Session.takeAll_redacted]
      simp only [Session.redacted, sources.redacted_eq, Occasion.map_redacted_eq rotations]
    exact congrArg Session.entries same
  · have sound : one.Sound := (Session.Sound.created client options credential).takeAll occasions
    have soundToo : other.Sound := (Session.Sound.created client options another).takeAll others
    intro entry member
    rcases List.mem_append.mp member with mine | its
    · exact sound.names entry mine
    · exact soundToo.names entry its

namespace Sample

/-- A list asked for, another token, the list and the watch from there, and a call without any. -/
def rotating (token : String) : List (Occasion Unit) :=
  [.start, .signal .proceed, .rotate (some token), .signal (.answered (.ok list)), .rotate none,
    .call () client (.get none "first") none, .inspect client]

def session (first second : String) : Session UntypedObject Unit :=
  Session.takeAll { credential := .shared (some first), synchronizer := .create client {} }
    (rotating second)

/-- The tokens held by turns, which are all that differs. -/
theorem told_the_same_with_other_tokens :
    (session "one" "two").entries.map Entry.redacted =
      (session "three" "four").entries.map Entry.redacted ∧
    (session "one" "two").entries.flatMap (fun entry =>
      entry.report.requests.map Request.authorization) = [["Bearer one"], ["Bearer two"], []] ∧
    (session "three" "four").entries.flatMap (fun entry =>
      entry.report.requests.map Request.authorization) =
        [["Bearer three"], ["Bearer four"], []] := by
  have sources : (Credential.shared (some "one")).Alike (.shared (some "three")) :=
    .shared (.inr (by decide +kernel))
  have rotations : List.Forall₂ Occasion.Alike (rotating "two") (rotating "four") :=
    .cons (.same _) <| .cons (.same _) <| .cons (.rotate (.inr (by decide +kernel))) <|
      .cons (.same _) <| .cons (.same _) <| .cons (.same _) <| .cons (.same _) .nil
  refine ⟨(token_reaches_authorization_alone client {} sources rotations).1, ?_, ?_⟩
  · decide +kernel
  · decide +kernel

end Sample

end ListWatch
