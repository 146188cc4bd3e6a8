/-!
# A bounded buffer with many readers

Events are kept in order, the oldest dropped when there is no room. Every reader
has the number of the event it will receive next; events are numbered from the
first ever emitted, so the oldest one held has the number of those dropped. A
reader that has fallen behind is told once how many it lost and goes on with the
oldest event held.
-/
namespace ListWatch

structure EventBuffer (ε : Type) where
  capacity : Nat
  dropped : Nat := 0
  held : List ε := []
  readers : List Nat := []
  deriving DecidableEq, Repr

/-- What one attempt to receive gives. -/
inductive Received (ε : Type) where
  | event (event : ε)
  | lagged (skipped : Nat)
  | empty
  | closed
  deriving DecidableEq, Repr

namespace EventBuffer

variable {ε : Type}

/-- The room for at least `size` events, and for one: the least power of two that is enough. -/
def roomFor (size : Nat) : Nat := if size ≤ 1 then 1 else Nat.pow 2 ((size - 1).log2 + 1)

def ofSize (size : Nat) : EventBuffer ε := { capacity := roomFor size }

/-- The number of events ever emitted. -/
def emitted (buffer : EventBuffer ε) : Nat := buffer.dropped + buffer.held.length

def emit (buffer : EventBuffer ε) (event : ε) : EventBuffer ε :=
  if buffer.held.length < buffer.capacity then { buffer with held := buffer.held ++ [event] }
  else { buffer with held := buffer.held.drop 1 ++ [event], dropped := buffer.dropped + 1 }

/-- A new reader and its index. It receives what is emitted from now on. -/
def subscribe (buffer : EventBuffer ε) : EventBuffer ε × Nat :=
  ({ buffer with readers := buffer.readers ++ [buffer.emitted] }, buffer.readers.length)

def setReader (buffer : EventBuffer ε) (index next : Nat) : EventBuffer ε :=
  { buffer with readers := buffer.readers.set index next }

def receive (buffer : EventBuffer ε) (index : Nat) : EventBuffer ε × Received ε :=
  match buffer.readers[index]? with
  | none => (buffer, .closed)
  | some next =>
    if next < buffer.dropped then
      (buffer.setReader index buffer.dropped, .lagged (buffer.dropped - next))
    else match buffer.held[next - buffer.dropped]? with
      | some event => (buffer.setReader index (next + 1), .event event)
      | none => (buffer, .empty)

/-- Receives until nothing is left. -/
def receiveAllFrom (index : Nat) : (fuel : Nat) → EventBuffer ε → EventBuffer ε × List (Received ε)
  | 0, buffer => (buffer, [])
  | fuel + 1, buffer =>
    match buffer.receive index with
    | (next, .event event) =>
      let (final, received) := receiveAllFrom index fuel next
      (final, .event event :: received)
    | (next, .lagged skipped) =>
      let (final, received) := receiveAllFrom index fuel next
      (final, .lagged skipped :: received)
    | (next, .empty) | (next, .closed) => (next, [])

def receiveAll (buffer : EventBuffer ε) (index : Nat) : EventBuffer ε × List (Received ε) :=
  receiveAllFrom index (buffer.held.length + 2) buffer

end EventBuffer

end ListWatch
