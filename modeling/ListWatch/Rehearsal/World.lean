import ListWatch.Rehearsal.Conversation
import ListWatch.Stores

/-!
# Synchronizers on a virtual clock

A world has a clock in milliseconds, a server, a registry of synchronizers, and
the signals that are due at some later time. A run goes on until it has to wait,
which uses up no time; then the signal that is due next comes, the one that was
asked for first where several are. The clock moves only from one due signal to
the next, or to where a sleep ends. What is due just when a sleep ends comes when
the world settles.
-/
namespace ListWatch.Rehearsal

open ResourceFamily (Carrier)

structure Sent where
  time : Nat
  route : Route
  request : Request
  deriving DecidableEq, Repr

/-- What the run at a path waits for. Without a signal it just goes on. -/
structure Pending where
  time : Nat
  path : String
  signal : Option Signal

structure World (κ : Type) [ResourceFamily κ] where
  now : Nat := 0
  server : Server
  credential : Credential
  stores : Stores κ
  /-- What is left of the body that the run at a path reads. -/
  bodies : List (String × List BodyEntry) := []
  pending : List Pending := []
  sent : List Sent := []
  records : List LogRecord := []

def BodyEntry.weight : BodyEntry → Nat
  | .item (.chunk bytes) => bytes.length + 2
  | .item (.failed _) | .item .ended | .pause _ => 2

def bodyWeight : List BodyEntry → Nat
  | [] => 0
  | entry :: rest => entry.weight + bodyWeight rest

def bodiesWeight : List (List BodyEntry) → Nat
  | [] => 0
  | body :: rest => bodyWeight body + 1 + bodiesWeight rest

def Server.weight : Server → Nat
  | .scripted responses streams =>
    responses.length + bodiesWeight (streams.map StreamEntry.body)
  | .webOnly => 1

namespace World

variable {κ : Type} [ResourceFamily κ]

/-- Makes a request and gives the entry that answers it. -/
def exchangeWhole (world : World κ) (request : Request) : World κ × WholeEntry :=
  let (server, entry) := world.server.takeWhole request
  ({ world with server, sent := world.sent ++ [⟨world.now, .whole, request⟩] }, entry)

def exchangeStream (world : World κ) (request : Request) : World κ × StreamEntry :=
  let (server, entry) := world.server.takeStream request
  ({ world with server, sent := world.sent ++ [⟨world.now, .stream, request⟩] }, entry)

/-- Has a signal come after a delay. -/
def schedule (world : World κ) (path : String) (delay : Nat) (signal : Option Signal) : World κ :=
  { world with pending := world.pending ++ [⟨world.now + delay, path, signal⟩] }

def body (world : World κ) (path : String) : List BodyEntry :=
  (world.bodies.lookup path).getD []

def setBody (world : World κ) (path : String) (body : List BodyEntry) : World κ :=
  { world with bodies := (path, body) :: world.bodies.filter fun entry => entry.1 ≠ path }

/-- Forgets what the run at a path was waiting for. -/
def forget (world : World κ) (path : String) : World κ :=
  { world with pending := world.pending.filter fun entry => entry.path ≠ path }

def perform (world : World κ) (act : StoreEffect κ) : World κ :=
  match act.effect with
  | .emit _ | .publish _ => world
  | .log record => { world with records := world.records ++ [record] }
  | .wait milliseconds => world.schedule act.path milliseconds (some .elapsed)
  | .send .whole request =>
    let (world, entry) := world.exchangeWhole request
    match entry.answer with
    | some answer => world.schedule act.path entry.delay (some (.answered answer))
    | none => world
  | .send .stream request =>
    let (world, entry) := world.exchangeStream request
    -- The body is there from the start, and is read once the stream was opened.
    let world := world.setBody act.path entry.body
    match entry.answer with
    | some answer => world.schedule act.path entry.delay (some (.opened answer))
    | none => world

/-! ## Runs -/

/-- A step of the run at a path, if it waits for the signal. -/
def step? (world : World κ) (path : String) (signal : Signal) : Option (World κ) :=
  (world.stores.act path (Store.step world.credential signal)).map fun (stores, effects) =>
    effects.foldl perform ({ world with stores }.forget path)

/-- The signal that is due at once for the run at a path. -/
def due? (world : World κ) (path : String) : Option Signal :=
  (world.pending.find? fun entry => decide (entry.time ≤ world.now ∧ entry.path = path)).bind
    Pending.signal

def isReading (world : World κ) (path : String) : Bool :=
  (world.stores.find? path).any fun store => store.synchronizer.isReading

/-- Lets the run at a path go on until it has to wait, from a signal or just so. -/
def drive (path : String) : (fuel : Nat) → Option Signal → World κ → World κ
  | 0, _, world => world
  | fuel + 1, some signal, world =>
    match world.step? path signal with
    | some next => drive path fuel (next.due? path) next
    | none => world
  | fuel + 1, none, world =>
    match world.step? path .proceed with
    | some next => drive path fuel (next.due? path) next
    | none =>
      -- Without a line to take, a run that reads goes on with its body.
      if world.isReading path then
        match world.body path with
        | [] => world
        | .item item :: rest => drive path fuel (some (.body item)) (world.setBody path rest)
        | .pause milliseconds :: rest =>
          let paused := world.setBody path rest
          if milliseconds = 0 then drive path fuel none paused
          else paused.schedule path milliseconds none
      else world

/-- Enough steps for all that the script still holds. -/
def budget (world : World κ) : Nat :=
  4 * (world.server.weight + bodiesWeight (world.bodies.map Prod.snd)) + 16

/-- What is due first before a limit, the earliest asked for of several. -/
def first? (limit : Nat) : List Pending → Option Pending
  | [] => none
  | entry :: rest =>
    -- Of entries due at one time the one asked for first stands first.
    match first? limit rest with
    | some later =>
      if entry.time ≤ later.time then some entry else some later
    | none => if entry.time < limit then some entry else none

/-- Moves on to what is due first before a limit. -/
def tick? (world : World κ) (limit : Nat) : Option (World κ) :=
  (first? limit world.pending).map fun entry =>
    let world := { world with now := max world.now entry.time }.forget entry.path
    world.drive entry.path world.budget entry.signal

def runUntil (limit : Nat) : (fuel : Nat) → World κ → World κ
  | 0, world => world
  | fuel + 1, world =>
    match world.tick? limit with
    | some next => runUntil limit fuel next
    | none => world

/-- As many signals as can be due before a limit: at every moment one for each path. -/
def signals (world : World κ) (limit : Nat) : Nat :=
  (limit - world.now + 1) * (world.stores.entries.length + 1) + world.pending.length

/-- Deals with everything due by now. -/
def settle (world : World κ) : World κ :=
  world.runUntil (world.now + 1) (world.signals (world.now + 1))

/-- Lets time pass. -/
def sleep (world : World κ) (milliseconds : Nat) : World κ :=
  let limit := world.now + milliseconds
  { world.runUntil limit (world.signals limit) with now := limit }

/-! ## Starting and stopping -/

def performAll (world : World κ) (effects : List (StoreEffect κ)) : World κ :=
  effects.foldl perform world

/-- Has the run at a path begin when the world settles. -/
def begin (world : World κ) (path : String) : World κ := world.schedule path 0 none

def start (world : World κ) (path : String) : World κ × Bool :=
  match world.stores.find? path with
  | none => (world, false)
  | some store =>
    let started := store.synchronizer.start.2
    match world.stores.act path (some ∘ Store.start) with
    | none => (world, false)
    | some (stores, effects) =>
      let world := { world with stores }.performAll effects
      (if started then world.begin path else world, started)

def stop (world : World κ) (path : String) : World κ × Bool :=
  match world.stores.find? path with
  | none => (world, false)
  | some store =>
    match world.stores.act path (some ∘ Store.stop) with
    | none => (world, false)
    | some (stores, effects) =>
      (({ world with stores }.forget path).performAll effects, store.synchronizer.stop.2)

def startAll (world : World κ) : World κ × Nat :=
  let starting := world.stores.entries.filter fun store => store.synchronizer.start.2
  let (stores, effects, count) := world.stores.startAll
  ((starting.map Store.path).foldl begin ({ world with stores }.performAll effects), count)

def stopAll (world : World κ) : World κ × Nat :=
  let (stores, effects, count) := world.stores.stopAll
  ({ world with stores, pending := [] }.performAll effects, count)

/-! ## Calls -/

variable {α : Type} [Resource α]

/-- Makes a call and waits for its reply; none when it does not come. -/
def call (world : World κ) (client : Client) (call : Call α) :
    World κ × Option (Except ClientError (Reply α)) :=
  match client.request world.credential call with
  | .error error => (world, some (.error error))
  | .ok request =>
    let (world, entry) := world.exchangeWhole request
    let answered := answerTo client call entry
    (world.sleep answered.elapsed, answered.result.map (call.conclude request))

/-- What came of a watch: its end, the changes delivered, and its URL once it was open. -/
structure Report (α : Type) where
  ending : Except ClientError WatchEnd
  changes : List (Change α) := []
  opened : Option String := none

/-- Opens a watch and reads it; none when it does not end. `atOnce` cancels it as soon as it is
open. -/
def openWatch (α : Type) [Resource α] (world : World κ) (client : Client) (cursor : Option String)
    (cancellation : Cancellation) (atOnce : Bool) : World κ × Option (Report α) :=
  match client.watchRequest world.credential cursor with
  | .error error => (world, some { ending := .error error })
  | .ok request =>
    let url := request.url.render
    if cancellation = .before then
      (world, some { ending := .error (.watch (.cancelled url)) })
    else
      let (world, entry) := world.exchangeStream request
      let watched : Timed (Watched α) := Watching.run cancellation atOnce url entry
      (world.sleep watched.elapsed,
        watched.result.map fun watched =>
          { ending := watched.result.mapError .watch
            changes := watched.changes
            opened := if watched.opened then some url else none })

/-- Watches in one go, so that a cancellation is never an error. -/
def watch (α : Type) [Resource α] (world : World κ) (client : Client) (cursor : Option String)
    (cancellation : Cancellation) : World κ × Option (Report α) :=
  let (world, report) := world.openWatch α client cursor cancellation false
  (world, report.map fun report =>
    { report with
      ending := match report.ending with
        | .error (.watch error) => (watchResult (.error error)).mapError .watch
        | ending => ending
      opened := none })

end World

end ListWatch.Rehearsal
