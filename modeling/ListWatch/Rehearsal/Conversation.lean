import ListWatch.Client.Answer
import ListWatch.Rehearsal.Script

/-!
# Calls on a virtual clock

How a call to a scripted server ends, and after how many milliseconds. What is
ready is dealt with before time passes. A caller waits for an hour at most, and a
cancellation from outside comes only while the watch waits; where both fall on
one moment, what the server gives comes first.
-/
namespace ListWatch.Rehearsal

/-- Milliseconds that a caller waits. -/
def patience : Nat := 3600000

/-- What was waited for, if it came, and the time that passed. -/
structure Timed (β : Type) where
  elapsed : Nat
  result : Option β

def Timed.at {β : Type} (elapsed : Nat) (result : β) : Timed β :=
  if elapsed ≤ patience then ⟨elapsed, some result⟩ else ⟨patience, none⟩

variable {α : Type} [Resource α]

/-- The answer that a call sees: a list is abandoned at its deadline, and nothing else is. -/
def answerTo (client : Client) (call : Call α) (entry : WholeEntry) :
    Timed (Except TransportError Response) :=
  let answer := entry.answer.map fun answer => (entry.delay, answer)
  let deadline := match call with
    | .list => some (client.listDeadline, .error client.listTimedOut)
    | _ => none
  match answer, deadline with
  | some (delay, answer), some (limit, timeout) =>
    if delay ≤ limit then .at delay answer else .at limit timeout
  | some (delay, answer), none => .at delay answer
  | none, some (limit, timeout) => .at limit timeout
  | none, none => ⟨patience, none⟩

/-! ## Watches -/

/-- When a watch is cancelled from outside. -/
inductive Cancellation where
  | never
  | before
  | afterEvents (count : Nat)
  | afterTime (milliseconds : Nat)
  deriving DecidableEq, Repr

def Cancellation.time? : Cancellation → Option Nat
  | .afterTime milliseconds => some milliseconds
  | .never | .before | .afterEvents _ => none

/-- Collects the changes, and cancels after as many as asked for. -/
def collector (α : Type) (cancellation : Cancellation) : Handler α (List (Change α)) where
  handle changes change := changes ++ [change]
  cancelled changes := match cancellation with
    | .afterEvents count => decide (0 < changes.length) && decide (changes.length = count)
    | .never | .before | .afterTime _ => false

/-- How a watch ended, what it delivered, and whether it had been open. -/
structure Watched (α : Type) where
  result : Except WatchError WatchEnd
  changes : List (Change α)
  opened : Bool

/-- A watch while it goes on. -/
structure Watching (α : Type) where
  state : WatchState
  changes : List (Change α) := []
  opened : Bool := false

namespace Watching

def take (cancellation : Cancellation) (watching : Watching α) (signal : WatchSignal) :
    Watching α :=
  let (state, changes) :=
    watching.state.step (collector α cancellation) watching.changes signal
  { watching with state, changes }

def finish (watching : Watching α) (elapsed : Nat) (result : Except WatchError WatchEnd) :
    Timed (Watched α) :=
  .at elapsed { result, changes := watching.changes, opened := watching.opened }

/-- What happens when nothing comes before a moment, or at all. -/
def interrupted (cancellation : Cancellation) (watching : Watching α) (next : Option Nat) :
    Option (Timed (Watched α)) :=
  let due := cancellation.time?.filter fun time => match next with
    | some moment => decide (time < moment)
    | none => true
  match due, next with
  | some time, _ =>
    let cancelled := watching.take cancellation .cancel
    match cancelled.state with
    | .over result =>
      if time < patience then some (cancelled.finish time result) else some ⟨patience, none⟩
    | _ => none
  | none, some moment => if patience < moment then some ⟨patience, none⟩ else none
  | none, none => some ⟨patience, none⟩

/-- Reads the body from a moment on. -/
def read (cancellation : Cancellation) (watching : Watching α) (now : Nat) :
    List BodyEntry → Timed (Watched α)
  | [] =>
    match watching.state with
    | .over result => watching.finish now result
    | _ => (watching.interrupted cancellation none).getD ⟨patience, none⟩
  | entry :: rest =>
    match watching.state, entry with
    | .over result, _ => watching.finish now result
    | _, .pause milliseconds =>
      let next := now + milliseconds
      (watching.interrupted cancellation (some next)).getD (watching.read cancellation next rest)
    | _, .item item => (watching.take cancellation (.body item)).read cancellation now rest

/-- Opens the stream and reads it. `atOnce` cancels the watch as soon as it is open. -/
def run (cancellation : Cancellation) (atOnce : Bool) (url : String) (entry : StreamEntry) :
    Timed (Watched α) :=
  let opening : Watching α := { state := .opening url }
  match entry.answer with
  | none => (opening.interrupted cancellation none).getD ⟨patience, none⟩
  | some answer =>
    (opening.interrupted cancellation (some entry.delay)).getD <|
      let reading := opening.take cancellation (.opened answer)
      let reading := { reading with opened := (openingError? url answer).isNone }
      let reading := if atOnce then reading.take cancellation .cancel else reading
      reading.read cancellation entry.delay entry.body

end Watching

end ListWatch.Rehearsal
