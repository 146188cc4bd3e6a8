import ListWatch.Client.Error
import ListWatch.Event.Lines
import ListWatch.Log
import ListWatch.Text.Quoted

/-!
# Watches

A watch is opening until the head of its stream comes in, and then reading until
the stream ends, breaks, or carries a malformed line, or until it is cancelled.
The changes of the lines held are handed over before anything more is taken from
the stream. A watch that is over stays as it is, whatever comes after.
-/
namespace ListWatch

/-- What the body of a stream gives next. -/
inductive BodyItem where
  | chunk (bytes : List UInt8)
  | failed (error : TransportError)
  | ended
  deriving DecidableEq, Repr

inductive WatchEnd where
  | closed
  | cancelled
  deriving DecidableEq, Repr

def WatchEnd.name : WatchEnd → String
  | .closed => "Closed"
  | .cancelled => "Cancelled"

/-- Why a stream cannot be read, if it cannot. -/
def openingError? (url : String) : Except TransportError StreamHead → Option WatchError
  | .error source => some (.connect url source)
  | .ok head =>
    if head.status ≠ 200 then some (.unexpectedStatus url head.status head.statusText)
    else if !head.hasBody then some (.missingBody url)
    else none

/-- What a watch shows of itself once it is open. -/
def openWatchDescription (url : String) (cancelled : Bool) : String :=
  "WatchChannel \x7b url: " ++ Text.quoted url ++ ", cancelled: " ++ toString cancelled ++ " \x7d"

def Request.openRecord (request : Request) : LogRecord :=
  { level := .debug, message := "opening watch", fields := [("url", request.url.render)] }

def closedRecord (url : String) : LogRecord :=
  { level := .debug, message := "server terminated watch stream", fields := [("url", url)] }

def cancelledRecord (url : String) : LogRecord :=
  { level := .debug, message := "watch cancelled", fields := [("url", url)] }

/-- Takes changes one after the other, and may cancel the watch after any of them. -/
structure Handler (α σ : Type) where
  handle : σ → Change α → σ
  cancelled : σ → Bool := fun _ => false

inductive WatchState where
  | opening (url : String)
  | reading (url : String) (decoder : LineDecoder)
  | over (result : Except WatchError WatchEnd)

inductive WatchSignal where
  | opened (answer : Except TransportError StreamHead)
  | body (item : BodyItem)
  | cancel

namespace WatchState

variable {α σ : Type} [Resource α]

/-- Hands over the changes of the lines held. -/
def drainFrom (handler : Handler α σ) (url : String) :
    (fuel : Nat) → LineDecoder → σ → WatchState × σ
  | 0, decoder, state => (.reading url decoder, state)
  | fuel + 1, decoder, state =>
    if handler.cancelled state then (.over (.ok .cancelled), state)
    else match decoder.next α with
      | (none, rest) => (.reading url rest, state)
      | (some (.error error), _) => (.over (.error (.line url error)), state)
      | (some (.ok change), rest) => drainFrom handler url fuel rest (handler.handle state change)

def drain (handler : Handler α σ) (url : String) (decoder : LineDecoder) (state : σ) :
    WatchState × σ :=
  drainFrom handler url (decoder.pending.length + 1) decoder state

def step (handler : Handler α σ) : WatchState → σ → WatchSignal → WatchState × σ
  | .opening url, state, .opened answer =>
    match openingError? url answer with
    | some error => (.over (.error error), state)
    | none => drain handler url {} state
  | .opening url, state, .cancel => (.over (.error (.cancelled url)), state)
  | .reading url decoder, state, .body (.chunk bytes) =>
    drain handler url (decoder.feed bytes) state
  | .reading url _, state, .body (.failed error) => (.over (.error (.stream url error)), state)
  | .reading _ _, state, .body .ended => (.over (.ok .closed), state)
  | .reading _ _, state, .cancel => (.over (.ok .cancelled), state)
  | .opening url, state, .body _ => (.opening url, state)
  | .reading url decoder, state, .opened _ => (.reading url decoder, state)
  | .over result, state, _ => (.over result, state)

end WatchState

/-- The result of a watch opened and read in one go: being cancelled is a clean end of it. -/
def watchResult : Except WatchError WatchEnd → Except WatchError WatchEnd
  | .error (.cancelled _) => .ok .cancelled
  | result => result

end ListWatch
