import ListWatch.Client.Answer
import ListWatch.Client.Watch
import ListWatch.Outlet.Basic
import ListWatch.Phase

/-!
# Synchronizers

A synchronizer keeps a replica of one collection. It has a phase, at most one
run, and an outlet that observers read. Whatever a run does to the world outside
is an effect, and a turn is a synchronizer together with the effects it has had,
in order. Emitting and publishing reach the outlet at once; requests, delays and
log records are for whoever drives the synchronizer.
-/
namespace ListWatch

/-- Where a run waits. -/
inductive Stage where
  /-- The run was started and has not done anything yet. -/
  | begun
  | listing (request : Request)
  | opening (request : Request)
  | reading (url : String) (decoder : LineDecoder)
  /-- The run failed and waits out a delay. -/
  | resting
  deriving DecidableEq, Repr

/-- A run: its own replica, the number of failures since the last list, and where it waits. -/
structure Run (α : Type) where
  replica : Replica α := {}
  attempt : UInt32 := 0
  stage : Stage := .begun
  deriving DecidableEq, Repr

structure Synchronizer (α : Type) where
  client : Client
  options : Options
  phase : Phase := .idle
  run : Option (Run α) := none
  outlet : Outlet α
  deriving DecidableEq, Repr

inductive Effect (α : Type) where
  | emit (notice : Notice)
  | publish (snapshot : Snapshot α)
  | send (route : Route) (request : Request)
  /-- Asks to be told when a number of milliseconds has passed at the stage then reached. -/
  | wait (milliseconds : Nat)
  | log (record : LogRecord)
  deriving DecidableEq, Repr

namespace Synchronizer

variable {α : Type}

/-- The options decide how long the client gives a server to answer a list. -/
def create (client : Client) (options : Options) : Synchronizer α :=
  { client := client.withListTimeout options.listTimeoutSeconds
    options
    outlet := .ofSize options.eventBuffer }

/-- The path of the collection that is kept. -/
def collection (synchronizer : Synchronizer α) : String := synchronizer.client.path

def snapshot (synchronizer : Synchronizer α) : Snapshot α := synchronizer.outlet.current

/-- Whether the run, if there is one, reads a stream. -/
def isReading (synchronizer : Synchronizer α) : Bool :=
  match synchronizer.run.map Run.stage with
  | some (.reading _ _) => true
  | _ => false

def description (synchronizer : Synchronizer α) : String :=
  "Synchronizer \x7b collection: " ++ Text.quoted synchronizer.collection ++ ", options: "
    ++ synchronizer.options.description ++ ", .. \x7d"

end Synchronizer

def Outlet.observe {α : Type} (outlet : Outlet α) : Effect α → Outlet α
  | .emit notice => outlet.emit notice
  | .publish snapshot => outlet.publish snapshot
  | .send _ _ | .wait _ | .log _ => outlet

structure Turn (α : Type) where
  synchronizer : Synchronizer α
  effects : List (Effect α) := []
  deriving DecidableEq, Repr

namespace Turn

variable {α : Type}

def collection (turn : Turn α) : String := turn.synchronizer.collection

def perform (turn : Turn α) (effect : Effect α) : Turn α :=
  { synchronizer :=
      { turn.synchronizer with outlet := turn.synchronizer.outlet.observe effect }
    effects := turn.effects ++ [effect] }

def emit (turn : Turn α) (notice : Notice) : Turn α := turn.perform (.emit notice)

def publish (turn : Turn α) (snapshot : Snapshot α) : Turn α := turn.perform (.publish snapshot)

def send (turn : Turn α) (route : Route) (request : Request) : Turn α :=
  turn.perform (.send route request)

def wait (turn : Turn α) (milliseconds : Nat) : Turn α := turn.perform (.wait milliseconds)

def record (turn : Turn α) (entry : LogRecord) : Turn α := turn.perform (.log entry)

/-- Logs a message about the collection. -/
def log (turn : Turn α) (level : LogLevel) (message : String)
    (fields : List (String × String) := []) : Turn α :=
  turn.record { level, message, fields := ("collection", turn.collection) :: fields }

def setPhase (turn : Turn α) (phase : Phase) : Turn α :=
  { turn with synchronizer := { turn.synchronizer with phase } }

def setRun (turn : Turn α) (run : Option (Run α)) : Turn α :=
  { turn with synchronizer := { turn.synchronizer with run } }

/-- Tells observers the phase. -/
def emitPhase (turn : Turn α) (phase : Phase) : Turn α :=
  (turn.log .debug "phase changed" [("phase", phase.name)]).emit
    (.phaseChanged turn.collection phase)

/-- Logs a failure that reaches no observer. -/
def warn (turn : Turn α) (failure : Failure) : Turn α :=
  turn.log .warn failure.message [("code", failure.code)]

/-- Makes a move of the phase; one that is refused is logged and nothing else. -/
def move (turn : Turn α) (move : Phase.Move) : Turn α :=
  match turn.synchronizer.phase.move move with
  | .ok phase => (turn.setPhase phase).emitPhase phase
  | .error failure => turn.warn failure

end Turn

end ListWatch
