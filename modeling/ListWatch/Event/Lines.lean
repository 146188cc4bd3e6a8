import ListWatch.Event.Change
import ListWatch.Text.Blank

/-!
# Lines of a byte stream

A decoder keeps the bytes fed to it and the number of those already taken. The
bytes taken stay in the buffer until more are fed. Taking a line walks over the
bytes not yet taken once and passes over blank lines on the way; when no whole
line is left only the bytes after the last line feed are not taken. So the lines
taken depend on the bytes fed and not on how they were cut.
-/
namespace ListWatch

def lineFeed : UInt8 := 0x0A

/-- The blanks around a line. -/
def isLineBlank (byte : UInt8) : Bool :=
  byte = 0x20 || byte = 0x09 || byte = 0x0A || byte = 0x0C || byte = 0x0D

/-- The first whole line that is not blank, trimmed, and the number of bytes taken with it; without
one, the number of those up to the last line feed. `begun` holds the line begun, last byte first,
and `consumed` counts the bytes before it. -/
def takeLine (begun : List UInt8) (consumed : Nat) : List UInt8 → Option (List UInt8) × Nat
  | [] => (none, consumed)
  | byte :: rest =>
    if byte = lineFeed then
      let line := Text.trimEnds isLineBlank begun.reverse
      let taken := consumed + begun.length + 1
      if line.isEmpty then takeLine [] taken rest else (some line, taken)
    else takeLine (byte :: begun) consumed rest

structure LineDecoder where
  buffer : List UInt8 := []
  /-- How many bytes of the buffer have been taken. -/
  consumed : Nat := 0
  deriving DecidableEq, Repr, Inhabited

namespace LineDecoder

/-- The bytes not yet taken. -/
def pending (decoder : LineDecoder) : List UInt8 := decoder.buffer.drop decoder.consumed

def pendingLength (decoder : LineDecoder) : Nat := decoder.buffer.length - decoder.consumed

/-- Adds a chunk, once the bytes taken are let go. -/
def feed (decoder : LineDecoder) (chunk : List UInt8) : LineDecoder :=
  if 0 < decoder.consumed then { buffer := decoder.pending ++ chunk, consumed := 0 }
  else { decoder with buffer := decoder.buffer ++ chunk }

/-- Ends the stream. The line begun is discarded, and the number of its bytes told. -/
def finish (decoder : LineDecoder) : Nat := decoder.pendingLength

variable (α : Type) [Resource α]

/-- The change of the next whole line, none when no whole line is held. -/
def next (decoder : LineDecoder) : Option (Except LineError (Change α)) × LineDecoder :=
  let (line, consumed) := takeLine [] decoder.consumed decoder.pending
  (line.map (Change.ofLine α), { decoder with consumed })

/-- The changes of the lines held, up to the first that is malformed. -/
def drainFrom : (fuel : Nat) → LineDecoder → Except LineError (List (Change α)) × LineDecoder
  | 0, decoder => (.ok [], decoder)
  | fuel + 1, decoder =>
    match decoder.next α with
    | (none, rest) => (.ok [], rest)
    | (some (.error error), rest) => (.error error, rest)
    | (some (.ok change), rest) =>
      let (drained, final) := drainFrom fuel rest
      (drained.map (change :: ·), final)

def drain (decoder : LineDecoder) : Except LineError (List (Change α)) × LineDecoder :=
  drainFrom α (decoder.pending.length + 1) decoder

def push (decoder : LineDecoder) (chunk : List UInt8) :
    Except LineError (List (Change α)) × LineDecoder :=
  (decoder.feed chunk).drain α

/-- The results of all lines held, malformed ones included. -/
def resultsFrom : (fuel : Nat) → LineDecoder → List (Except LineError (Change α)) × LineDecoder
  | 0, decoder => ([], decoder)
  | fuel + 1, decoder =>
    match decoder.next α with
    | (none, rest) => ([], rest)
    | (some result, rest) =>
      let (results, final) := resultsFrom fuel rest
      (result :: results, final)

def results (decoder : LineDecoder) : List (Except LineError (Change α)) × LineDecoder :=
  resultsFrom α (decoder.pending.length + 1) decoder

end LineDecoder

end ListWatch
