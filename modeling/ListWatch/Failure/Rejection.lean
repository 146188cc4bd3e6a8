import ListWatch.Failure.Basic

/-!
# Rejected requests

Every status outside 200 to 299 rejects the request. Its label is the status's
name for the common ones and a generic one for all others.
-/
namespace ListWatch

open Json (Value)

def genericLabel : String := "Generic Error"

/-- The label of a status, none for success. -/
def statusLabel? (status : Nat) : Option String :=
  match status with
  | 400 => some "Bad Request"
  | 401 => some "Unauthorized"
  | 403 => some "Forbidden"
  | 404 => some "Not Found"
  | 500 => some "Internal Server Error"
  | 502 => some "Bad Gateway"
  | 503 => some "Service Unavailable"
  | other => if 200 ≤ other ∧ other ≤ 299 then none else some genericLabel

structure Rejection where
  method : String
  url : String
  status : Nat
  statusText : String
  body : Value
  label : String
  deriving DecidableEq, Repr

namespace Rejection

/-- The rejection that a status means, if it means one. -/
def ofStatus? (method url : String) (status : Nat) (statusText : String) (body : Value) :
    Option Rejection :=
  (statusLabel? status).map fun label => { method, url, status, statusText, body, label }

def category (rejection : Rejection) : Category := Category.ofStatus rejection.status

def display (rejection : Rejection) : String :=
  rejection.label ++ ": " ++ rejection.method ++ " " ++ rejection.url ++ " returned "
    ++ toString rejection.status ++ " " ++ rejection.statusText

/-- The server's own message, if the body carries one. -/
def serverMessage? (rejection : Rejection) : Option String :=
  (rejection.body.at? ["message"]).bind Value.string?

def displayMessage (rejection : Rejection) : String :=
  match rejection.serverMessage? with
  | some message => rejection.label ++ ": " ++ message
  | none => rejection.label

def toFailure (rejection : Rejection) : Failure :=
  { category := rejection.category
    code := "api_error"
    message := rejection.displayMessage
    status := some rejection.status }

end Rejection

end ListWatch
