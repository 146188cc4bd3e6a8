import ListWatch.Client.Basic
import ListWatch.Log

/-!
# What the answer to a call means

A status outside 200 to 299 rejects the call, whatever the body. Any other
answer holds what its body reads as; an empty one, or one of status 204, reads
as null. What a rejection says is the body's document when it is declared to be
JSON and is, and the body's text otherwise.
-/
namespace ListWatch

open Json (Value)

namespace Response

def isEmpty (response : Response) : Bool := response.status = 204 || response.body.isEmpty

/-- Whether the content type begins with that of JSON, in any case of its letters. -/
def declaresJson (response : Response) : Bool :=
  match response.contentType with
  | some type => jsonType.toList.isPrefixOf (type.toList.map Char.toLower)
  | none => false

/-- The bytes that a successful answer is read from. -/
def payload (response : Response) : List UInt8 :=
  if response.isEmpty then Utf8.ofString "null" else response.body

/-- What a rejection carries of the body. -/
def remark (response : Response) : Value :=
  if response.isEmpty then .null
  else match response.declaresJson, Json.parse response.body with
    | true, .ok document => document
    | _, _ => .string (Utf8.lossy response.body)

/-- The record of an answer: a rejection whose body is not the document it is declared to be. -/
def records (response : Response) : List LogRecord :=
  if (statusLabel? response.status).isSome && !response.isEmpty && response.declaresJson
      && !(Json.parse response.body).isOk then
    [{ level := .debug, message := "error response declared JSON but did not parse" }]
  else []

end Response

namespace Request

def sendRecord (request : Request) : LogRecord :=
  { level := .debug, message := "sending request"
    fields := [("method", request.method.name), ("url", request.url.render)] }

/-- What an answer to a request holds, or why it holds nothing. -/
def conclude {β : Type} (request : Request) (read : List UInt8 → Except Json.Fault β) :
    Except TransportError Response → Except ClientError β
  | .error source => .error (.transport request.method request.url.render source)
  | .ok response =>
    match Rejection.ofStatus? request.method.name request.url.render response.status
        response.statusText response.remark with
    | some rejection => .error (.rejected rejection)
    | none => (read response.payload).mapError (.body request.url.render)

end Request

/-- What a call gives. -/
inductive Reply (α : Type) where
  | list (list : ObjectList α)
  | object (object : α)
  | deleted
  deriving DecidableEq, Repr

variable {α : Type} [Resource α]

/-- Reads the reply to a call. The answer to a deletion may hold any document. -/
def Call.read (call : Call α) (payload : List UInt8) : Except Json.Fault (Reply α) :=
  match call with
  | .list => (ObjectList.decode α payload).map .list
  | .get _ _ | .create _ | .update _ => (Resource.decode α payload).map .object
  | .delete _ _ => (Json.parse payload).map fun _ => .deleted

/-- The reply to a call whose request was answered. -/
def Call.conclude (call : Call α) (request : Request) (answer : Except TransportError Response) :
    Except ClientError (Reply α) :=
  request.conclude call.read answer

end ListWatch
