import ListWatch.Client.Collection
import ListWatch.Client.Credential
import ListWatch.Client.Error
import ListWatch.Options
import ListWatch.Resource.List

/-!
# Clients and their requests

A client speaks to one collection. A call becomes a request or fails before
anything is sent; a missing name is found first, then a server that cannot carry
a path, then an object that cannot be written, and last a token that cannot be a
header. Every name and namespace is one segment of the URL.
-/
namespace ListWatch

structure Client where
  server : Url
  collection : Collection
  scope : Option String := none
  listTimeoutSeconds : Nat := defaultListTimeout
  deriving DecidableEq, Repr

/-- What is asked of a collection of objects. -/
inductive Call (α : Type) where
  | list
  | get (scope : Option String) (name : String)
  | create (object : α)
  | update (object : α)
  | delete (scope : Option String) (name : String)
  deriving DecidableEq, Repr

def jsonType : String := "application/json"

/-- A byte that a header value may hold. -/
def isHeaderByte (byte : UInt8) : Bool := byte = 0x09 || (0x20 ≤ byte && byte ≠ 0x7F)

/-- The headers of a request, by name. -/
def requestHeaders (credential : Credential) (hasBody : Bool) :
    Except ClientError (List (String × String)) :=
  let content := if hasBody then [("content-type", jsonType)] else []
  match credential.bearer with
  | none => .ok (("accept", jsonType) :: content)
  | some token =>
    if (Utf8.ofString token).all isHeaderByte then
      .ok (("accept", jsonType) :: ("authorization", "Bearer " ++ token) :: content)
    else .error .invalidCredential

namespace Client

/-- A server is given at least one second. -/
def withListTimeout (client : Client) (seconds : Nat) : Client :=
  { client with listTimeoutSeconds := max seconds 1 }

def path (client : Client) : String := client.collection.path client.scope

def description (client : Client) : String :=
  "ResourceClient \x7b server: " ++ Text.quoted client.server.render ++ ", collection: "
    ++ client.collection.description ++ ", namespace: " ++ Text.quotedOption client.scope ++ " \x7d"

/-- Milliseconds after which a list is abandoned: a while after the server should have answered. -/
def listDeadline (client : Client) : Nat := (client.listTimeoutSeconds + 5) * 1000

/-- What stands for the answer of a list that was abandoned. -/
def listTimedOut (client : Client) : TransportError :=
  .timeout ("no response within " ++ toString (client.listTimeoutSeconds + 5) ++ "s")

/-- The segments of the collection, inside a namespace when one is given. -/
def segments (client : Client) (scope : Option String) : List String :=
  client.collection.apiParts
    ++ (match scope with | some name => ["namespaces", name] | none => [])
    ++ [client.collection.resourceName]

def collectionUrl (client : Client) (scope : Option String) : Except ClientError Url :=
  match client.server.path with
  | .undivided _ =>
    .error (.invalidUrl client.server.render "base url cannot carry a path")
  | .segments list =>
    .ok (Url.push { client.server.bare with path := .segments (popIfEmpty list) }
      (client.segments scope))

def objectUrl (client : Client) (scope : Option String) (name : String) :
    Except ClientError Url :=
  if name = "" then .error .missingName
  else (client.collectionUrl scope).map fun url => url.push [name]

def timeoutPair (client : Client) : String × String :=
  ("timeoutSeconds", toString client.listTimeoutSeconds)

def requestTo (credential : Credential) (method : Method) (url : Url) (body : Option String) :
    Except ClientError Request :=
  (requestHeaders credential body.isSome).map fun headers => { method, url, headers, body }

/-- The request that opens a watch from a version of the collection, or from now on. -/
def watchRequest (client : Client) (credential : Credential) (cursor : Option String) :
    Except ClientError Request := do
  let url ← client.collectionUrl client.scope
  let version := match cursor with
    | some text => [("resourceVersion", text)]
    | none => []
  requestTo credential .get (url.withPairs (("watch", "1") :: version)) none

variable {α : Type} [Resource α]

def bodyOf (object : α) : Except ClientError String :=
  match Resource.encode object with
  | .ok document => .ok document.render
  | .error reason => .error (.encode reason)

/-- The namespace of an object, or else the client's. -/
def scopeOf (client : Client) (object : α) : Option String :=
  (Resource.metadata object).scope <|> client.scope

/-- The request of a call. -/
def request (client : Client) (credential : Credential) : Call α → Except ClientError Request
  | .list => do
    let url ← client.collectionUrl client.scope
    requestTo credential .get (url.withPairs [("allowWatchBookmarks", "1"), client.timeoutPair]) none
  | .get scope name => do
    let url ← client.objectUrl (scope <|> client.scope) name
    requestTo credential .get url none
  | .create object => do
    let url ← client.collectionUrl (client.scopeOf object)
    requestTo credential .post url (some (← bodyOf object))
  | .update object => do
    let name := (Resource.metadata object).name.getD ""
    let url ← client.objectUrl (client.scopeOf object) name
    requestTo credential .put (url.withPairs [client.timeoutPair]) (some (← bodyOf object))
  | .delete scope name => do
    let url ← client.objectUrl (scope <|> client.scope) name
    requestTo credential .delete url none

end Client

end ListWatch
