import ListWatch.Client.Exchange
import ListWatch.Event.Change
import ListWatch.Failure.Rejection

/-!
# Errors of a client

A watch fails while it is opened or while it is read. A call fails before
anything is sent, below the level of a status, by the status of its answer, or
by an answer that cannot be read. Either becomes the failure that observers are
told, under a code of its own.
-/
namespace ListWatch

inductive WatchError where
  | connect (url : String) (source : TransportError)
  | unexpectedStatus (url : String) (status : Nat) (statusText : String)
  | missingBody (url : String)
  | stream (url : String) (source : TransportError)
  | line (url : String) (source : LineError)
  | cancelled (url : String)
  deriving DecidableEq, Repr

namespace WatchError

def message : WatchError → String
  | .connect url source => "watch " ++ url ++ ": connection failed: " ++ source.message
  | .unexpectedStatus url status _ =>
    "watch " ++ url ++ ": server responded with status code " ++ toString status
  | .missingBody url => "watch " ++ url ++ ": missing response body"
  | .stream url source => "watch " ++ url ++ ": " ++ source.message
  | .line url source => "watch " ++ url ++ ": " ++ source.message
  | .cancelled url => "watch " ++ url ++ ": cancelled while opening"

def category : WatchError → Category
  | .connect _ _ | .stream _ _ | .cancelled _ => .transport
  | .unexpectedStatus _ _ _ | .missingBody _ => .protocol
  | .line _ source => source.toFailure.category

def code : WatchError → String
  | .connect _ _ => "watch_connect_error"
  | .unexpectedStatus _ _ _ => "watch_unexpected_status"
  | .missingBody _ => "watch_missing_body"
  | .stream _ _ => "watch_stream_error"
  | .line _ source => source.toFailure.code
  | .cancelled _ => "watch_cancelled"

def status? : WatchError → Option Nat
  | .unexpectedStatus _ status _ => some status
  | _ => none

def toFailure (error : WatchError) : Failure :=
  { category := error.category, code := error.code, message := error.message
    status := error.status? }

end WatchError

inductive ClientError where
  | transport (method : Method) (url : String) (source : TransportError)
  | rejected (rejection : Rejection)
  | body (url : String) (fault : Json.Fault)
  | encode (reason : String)
  | invalidUrl (url reason : String)
  | invalidCredential
  | missingName
  | watch (error : WatchError)
  deriving DecidableEq, Repr

namespace ClientError

def message : ClientError → String
  | .transport method url source => method.name ++ " " ++ url ++ ": " ++ source.message
  | .rejected rejection => rejection.display
  | .body url fault => url ++ ": invalid response body: " ++ fault.message
  | .encode reason => "failed to encode request body: " ++ reason
  | .invalidUrl url reason => "invalid url '" ++ url ++ "': " ++ reason
  | .invalidCredential => "bearer token is not a valid header value"
  | .missingName => "object has no metadata.name"
  | .watch error => error.message

def toFailure : ClientError → Failure
  | .rejected rejection => rejection.toFailure
  | .watch error => error.toFailure
  | error@(.transport _ _ _) => report .transport "transport_error" error
  | error@(.body _ _) => report .protocol "response_decode_error" error
  | error@(.encode _) => report .config "request_encode_error" error
  | error@(.invalidUrl _ _) => report .config "invalid_url" error
  | error@.invalidCredential => report .auth "invalid_credential" error
  | error@.missingName => report .config "missing_name" error
where
  report (category : Category) (code : String) (error : ClientError) : Failure :=
    { category, code, message := error.message }

end ClientError

end ListWatch
