import ListWatch.Url.Basic
import ListWatch.Text.Quoted

/-!
# Requests and answers

What goes to the transport and what comes back from it. A request is answered as
a whole or opens a stream; failures below the level of a status are those of the
transport.
-/
namespace ListWatch

inductive TransportError where
  | connect (reason : String)
  | timeout (reason : String)
  | stream (reason : String)
  | request (reason : String)
  deriving DecidableEq, Repr, Inhabited

def TransportError.message : TransportError → String
  | .connect reason => "connection failed: " ++ reason
  | .timeout reason => "request timed out: " ++ reason
  | .stream reason => "stream read failed: " ++ reason
  | .request reason => "request failed: " ++ reason

inductive Method where
  | get
  | post
  | put
  | delete
  deriving DecidableEq, Repr, Inhabited

def Method.name : Method → String
  | .get => "GET"
  | .post => "POST"
  | .put => "PUT"
  | .delete => "DELETE"

structure Request where
  method : Method
  url : Url
  /-- Names in ascending order. -/
  headers : List (String × String)
  body : Option String
  deriving DecidableEq, Repr

/-- How a request is handed to the transport. -/
inductive Route where
  | whole
  | stream
  deriving DecidableEq, Repr

structure Response where
  status : Nat
  statusText : String := ""
  contentType : Option String := none
  body : List UInt8 := []
  deriving DecidableEq, Repr, Inhabited

/-- The head of a stream, and whether a body follows. -/
structure StreamHead where
  status : Nat
  statusText : String := ""
  hasBody : Bool := true
  deriving DecidableEq, Repr, Inhabited

def StreamHead.description (head : StreamHead) : String :=
  "StreamResponse \x7b status: " ++ toString head.status ++ ", status_text: "
    ++ Text.quoted head.statusText ++ ", has_body: " ++ toString head.hasBody ++ " \x7d"

end ListWatch
