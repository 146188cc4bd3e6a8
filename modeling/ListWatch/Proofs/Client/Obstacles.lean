import ListWatch.Proofs.Chain
import ListWatch.Proofs.Client.Target

/-!
# What keeps a call from being sent

A call becomes a request unless its name is missing, the server cannot carry a path, its object
cannot be written or the token cannot be a header. Of several obstacles the first of these is told.
A watch has no name and no object.
-/
namespace ListWatch

variable {α : Type} [Resource α]

/-- What can keep a call from being sent, the first one first. -/
inductive Obstacle where
  | name
  | server
  | object
  | token
  deriving DecidableEq, Repr

def Obstacle.all : List Obstacle := [.name, .server, .object, .token]

namespace Call

/-- The object that is sent with a call. -/
def object? : Call α → Option α
  | .create object | .update object => some object
  | .list | .get _ _ | .delete _ _ => none

def method : Call α → Method
  | .list | .get _ _ => .get
  | .create _ => .post
  | .update _ => .put
  | .delete _ _ => .delete

/-- The URL of a call, from that of its place. -/
def target (client : Client) (place : Url) : Call α → Url
  | .list => place.withPairs [("allowWatchBookmarks", "1"), client.timeoutPair]
  | .update _ => place.withPairs [client.timeoutPair]
  | .get _ _ | .create _ | .delete _ _ => place

/-- The call is stopped by an obstacle, with this error. -/
inductive Stopped (client : Client) (credential : Credential) (call : Call α) :
    Obstacle → ClientError → Prop where
  | name (missing : call.name? = some "") : Stopped client credential call .name .missingName
  | server {text : String} (undivided : client.server.path = .undivided text) :
      Stopped client credential call .server
        (.invalidUrl client.server.render "base url cannot carry a path")
  | object {object : α} {reason : String} (sent : call.object? = some object)
      (unwritten : Resource.encode object = .error reason) :
      Stopped client credential call .object (.encode reason)
  | token {token : String} (carried : credential.bearer = some token)
      (invalid : ∃ byte ∈ Utf8.ofString token, isHeaderByte byte = false) :
      Stopped client credential call .token .invalidCredential

section Stopped

variable {client : Client} {credential : Credential} {call : Call α} {error : ClientError}

theorem stopped_name : call.Stopped client credential .name error ↔
    call.name? = some "" ∧ error = .missingName := by
  constructor
  · intro stopped
    cases stopped with
    | name missing => exact ⟨missing, rfl⟩
  · rintro ⟨missing, rfl⟩
    exact .name missing

theorem stopped_server : call.Stopped client credential .server error ↔
    (∃ text, client.server.path = .undivided text) ∧
      error = .invalidUrl client.server.render "base url cannot carry a path" := by
  constructor
  · intro stopped
    cases stopped with
    | server undivided => exact ⟨⟨_, undivided⟩, rfl⟩
  · rintro ⟨⟨text, undivided⟩, rfl⟩
    exact .server undivided

theorem stopped_object : call.Stopped client credential .object error ↔
    ∃ object reason, call.object? = some object ∧ Resource.encode object = .error reason ∧
      error = .encode reason := by
  constructor
  · intro stopped
    cases stopped with
    | object sent unwritten => exact ⟨_, _, sent, unwritten, rfl⟩
  · rintro ⟨object, reason, sent, unwritten, rfl⟩
    exact .object sent unwritten

theorem stopped_token : call.Stopped client credential .token error ↔
    error = .invalidCredential ∧ ∃ token, credential.bearer = some token ∧
      ∃ byte ∈ Utf8.ofString token, isHeaderByte byte = false := by
  constructor
  · intro stopped
    cases stopped with
    | token carried invalid => exact ⟨rfl, _, carried, invalid⟩
  · rintro ⟨rfl, token, carried, invalid⟩
    exact .token carried invalid

end Stopped

/-- The body of a call, none where it sends no object. -/
def body? (call : Call α) : Except ClientError (Option String) :=
  match call.object? with
  | some object => (Client.bodyOf object).map some
  | none => .ok none

end Call

/-- A request takes JSON, and says that it sends JSON exactly where it has a body. -/
structure Request.Labelled (request : Request) : Prop where
  accept : ("accept", jsonType) ∈ request.headers
  content : ∀ value, ("content-type", value) ∈ request.headers ↔
    request.body.isSome = true ∧ value = jsonType

theorem Url.push_nil (url : Url) : url.push [] = url := by
  obtain ⟨scheme, authority, guarded, path, query, fragment⟩ := url
  cases path <;> rfl

/-! ## A call as a chain -/

namespace Client

variable {client : Client} {credential : Credential} {call : Call α} {error : ClientError}

/-- A request is made from the place of its call, its body and the headers. -/
theorem request_eq (client : Client) (credential : Credential) (call : Call α) :
    client.request credential call =
      client.placeUrl (call.scope? client) call.name? >>= fun place => call.body? >>= fun body =>
        requestTo credential call.method (call.target client place) body := by
  -- The body is written last, so that the place of the call is found first.
  have sent (object : α) (f : Option String → Except ClientError Request) :
      (bodyOf object).map some >>= f = bodyOf object >>= fun body => f (some body) := by
    cases bodyOf object with
    | error e => rfl
    | ok body => rfl
  cases call with
  | list | get _ _ | delete _ _ => rfl
  | create object =>
    simp only [Call.body?, Call.object?, sent]
    rfl
  | update object =>
    simp only [Call.body?, Call.object?, sent]
    rfl

theorem collectionUrl_eq_error {scope : Option String} :
    client.collectionUrl scope = .error error ↔ call.Stopped client credential .server error := by
  rw [Call.stopped_server, collectionUrl]
  split
  next text undivided => simp [undivided, eq_comm]
  next list divided => simp [divided]

theorem placeUrl_eq (client : Client) (scope name? : Option String) :
    client.placeUrl scope name? =
      (if name? = some "" then .error .missingName else .ok ()) >>= fun _ =>
        client.collectionUrl scope >>= fun url => pure (url.push name?.toList) := by
  cases name? with
  | none =>
    simp only [placeUrl, Option.toList_none, Url.push_nil, bind_pure]
    rfl
  | some name =>
    simp only [placeUrl, objectUrl, Option.some.injEq, Option.toList_some]
    split
    · rfl
    · cases client.collectionUrl scope <;> rfl

theorem body?_eq_error :
    call.body? = .error error ↔ call.Stopped client credential .object error := by
  rw [Call.stopped_object, Call.body?]
  cases call.object? with
  | none => simp
  | some object =>
    simp only [bodyOf]
    cases written : Resource.encode object with
    | ok document => simp [Except.map, written]
    | error reason => simp [Except.map, written, eq_comm]

/-- The headers are refused for the token alone. -/
theorem requestTo_eq_error {method : Method} {url : Url} {body : Option String} :
    requestTo credential method url body = .error error ↔
      call.Stopped client credential .token error := by
  rw [Call.stopped_token, requestTo, requestHeaders]
  cases credential.bearer with
  | none => simp [Except.map]
  | some token =>
    simp only
    split
    next valid =>
      have allowed : ¬ ∃ byte ∈ Utf8.ofString token, isHeaderByte byte = false := by
        simpa using valid
      simp [Except.map, allowed]
    next invalid =>
      have refused : ∃ byte ∈ Utf8.ofString token, isHeaderByte byte = false := by
        simpa using invalid
      simp only [Except.map, Except.error.injEq, Option.some.injEq, exists_eq_left', refused,
        and_true]
      exact eq_comm

theorem missing_eq_error :
    (if call.name? = some "" then .error .missingName else .ok ()) = (.error error : Except _ Unit) ↔
      call.Stopped client credential .name error := by
  rw [Call.stopped_name]
  split
  next missing => simp [missing, eq_comm]
  next named => simp [named]

/-- A call fails by the first obstacle that stops it, and only by that. -/
theorem request_eq_error (client : Client) (credential : Credential) (call : Call α) :
    ∀ error, client.request credential call = .error error ↔
      FirstFinds (call.Stopped client credential) Obstacle.all error := by
  rw [request_eq, placeUrl_eq]
  simp only [bind_assoc, pure_bind]
  -- The chain meets the obstacles in their order, and none is left behind the headers.
  refine bind_firstFinds (fun _ => missing_eq_error) fun _ _ => ?_
  refine bind_firstFinds (fun _ => collectionUrl_eq_error) fun url _ => ?_
  refine bind_firstFinds (fun _ => body?_eq_error) fun body _ => ?_
  rw [← bind_pure (requestTo _ _ _ _)]
  exact bind_firstFinds (fun _ => requestTo_eq_error) fun _ _ _ => ⟨nofun, nofun⟩

theorem labelled_of_headers {method : Method} {url : Url} {body : Option String}
    {headers : List (String × String)}
    (made : requestHeaders credential body.isSome = .ok headers) :
    Request.Labelled { method, url, headers, body } := by
  -- The token stands between the two, under a name of its own.
  have labelled (token : List (String × String)) (other : ∀ entry ∈ token, entry.1 = "authorization")
      (same : headers = ("accept", jsonType) :: token ++
        if body.isSome then [("content-type", jsonType)] else []) :
      Request.Labelled { method, url, headers, body } := by
    subst same
    refine ⟨by simp, fun value => ?_⟩
    have apart : ("content-type", value) ∉ token := fun member =>
      (by decide : "content-type" ≠ "authorization") (other _ member)
    cases body with
    | none => simp [apart]
    | some text => simp [apart]
  rw [requestHeaders] at made
  cases carried : credential.bearer with
  | none =>
    rw [carried] at made
    cases made
    exact labelled [] nofun rfl
  | some token =>
    simp only [carried] at made
    split at made
    · cases made
      exact labelled [("authorization", "Bearer " ++ token)] (by simp) rfl
    · cases made

theorem isSome_of_body? {body : Option String} (written : call.body? = .ok body) :
    body.isSome = call.object?.isSome := by
  rw [Call.body?] at written
  split at written
  next object sent =>
    rw [sent]
    cases text : bodyOf object with
    | error e =>
      rw [text] at written
      cases written
    | ok text' =>
      rw [text] at written
      cases written
      rfl
  next none =>
    rw [none]
    cases written
    rfl

/-- What is sent for a call, once nothing keeps it from being sent. -/
theorem request_eq_ok {request : Request} (made : client.request credential call = .ok request) :
    request.method = call.method ∧ request.body.isSome = call.object?.isSome ∧
      request.Labelled := by
  rw [request_eq] at made
  obtain ⟨place, -, made⟩ := bind_eq_ok.mp made
  obtain ⟨body, written, made⟩ := bind_eq_ok.mp made
  rw [requestTo] at made
  cases headers : requestHeaders credential body.isSome with
  | error e =>
    rw [headers] at made
    cases made
  | ok list =>
    rw [headers] at made
    cases made
    exact ⟨rfl, isSome_of_body? written, labelled_of_headers headers⟩

end Client

end ListWatch
