import ListWatch.Client.Watch

/-!
# Scripts of a server

A script says how a server answers: one entry for every request, in the order in
which the requests are made. An entry tells how many milliseconds pass before the
answer, and what the answer is; one without an answer, like a request for which
no entry is left, is never answered. The body of a stream is a list of what it
gives and of the pauses in between; one that does not end stays open.
-/
namespace ListWatch.Rehearsal

inductive BodyEntry where
  | pause (milliseconds : Nat)
  | item (item : BodyItem)
  deriving DecidableEq, Repr

structure WholeEntry where
  delay : Nat := 0
  answer : Option (Except TransportError Response)

structure StreamEntry where
  delay : Nat := 0
  answer : Option (Except TransportError StreamHead)
  body : List BodyEntry := []

/-- Who answers the requests. -/
inductive Server where
  | scripted (responses : List WholeEntry) (streams : List StreamEntry)
  /-- Nobody: every request whose scheme is not that of the web is refused at once. -/
  | webOnly

def webSchemes : List String := ["http", "https"]

/-- The refusal of a request that does not go over the web. Its URL is shown without user name and
password. -/
def refusal? (request : Request) : Option TransportError :=
  if webSchemes.contains request.url.scheme then none
  else some (.request ("builder error for url (" ++ request.url.withoutUserinfo.render ++ ")"))

namespace Server

/-- The entry for a request that is answered as a whole. -/
def takeWhole (request : Request) : Server → Server × WholeEntry
  | .scripted (entry :: responses) streams => (.scripted responses streams, entry)
  | .scripted [] streams => (.scripted [] streams, { answer := none })
  | .webOnly => (.webOnly, { answer := (refusal? request).map .error })

/-- The entry for a request that opens a stream. -/
def takeStream (request : Request) : Server → Server × StreamEntry
  | .scripted responses (entry :: streams) => (.scripted responses streams, entry)
  | .scripted responses [] => (.scripted responses [], { answer := none })
  | .webOnly => (.webOnly, { answer := (refusal? request).map .error })

def addResponse (entry : WholeEntry) : Server → Server
  | .scripted responses streams => .scripted (responses ++ [entry]) streams
  | .webOnly => .webOnly

def addStream (entry : StreamEntry) : Server → Server
  | .scripted responses streams => .scripted responses (streams ++ [entry])
  | .webOnly => .webOnly

end Server

end ListWatch.Rehearsal
