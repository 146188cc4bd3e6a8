import ListWatch.Client.Answer
import ListWatch.Client.Watch

/-!
# Requests without their token

A client asks its credential last: by then it is settled where a request goes and what it holds, and
the token decides one header, or that there is no request at all. To redact is to put one and the
same token in the place of every token that a header can carry. What is made of a redacted
credential is what was made of the credential, redacted, and nothing that is told of a request or
of its answer changes with it.
-/
namespace ListWatch

/-! ## Tokens -/

/-- A token that is not empty and that a header can carry. -/
def isBearable (token : String) : Bool :=
  decide (token ≠ "") && (Utf8.ofString token).all isHeaderByte

/-- Tokens are interchangeable when they are the same, or both of them can be carried. -/
def Interchangeable (first second : Option String) : Prop :=
  first = second ∨ first.any isBearable = true ∧ second.any isBearable = true

/-- What stands for every token that can be carried. -/
def placeholder : String := "redacted"

def redactToken (token : String) : String := if isBearable token then placeholder else token

theorem placeholder_valid : (Utf8.ofString placeholder).all isHeaderByte = true := by
  decide +kernel

theorem redactToken_eq_empty_iff (token : String) : redactToken token = "" ↔ token = "" := by
  by_cases carried : isBearable token = true
  · have present : token ≠ "" := by
      rintro rfl
      simp [isBearable] at carried
    rw [redactToken, if_pos carried]
    exact iff_of_false (by decide) present
  · rw [redactToken, if_neg carried]

theorem map_redactToken_of_bearable {token : Option String}
    (carried : token.any isBearable = true) : token.map redactToken = some placeholder := by
  cases token with
  | none => cases carried
  | some token =>
    have bearable : isBearable token = true := carried
    rw [Option.map_some, redactToken, if_pos bearable]

theorem Interchangeable.map_redactToken {first second : Option String}
    (alike : Interchangeable first second) :
    first.map redactToken = second.map redactToken := by
  rcases alike with rfl | ⟨carried, carriedToo⟩
  · rfl
  · rw [map_redactToken_of_bearable carried, map_redactToken_of_bearable carriedToo]

/-! ## Credentials -/

namespace Credential

/-- The token that is held, empty or not. -/
def token : Credential → Option String
  | .anonymous => none
  | .fixed token => some token
  | .shared token => token

/-- Two credentials of one kind whose tokens are interchangeable. -/
inductive Alike : Credential → Credential → Prop where
  | anonymous : Alike .anonymous .anonymous
  | fixed {first second : String} : Interchangeable (some first) (some second) →
      Alike (.fixed first) (.fixed second)
  | shared {first second : Option String} : Interchangeable first second →
      Alike (.shared first) (.shared second)

def redacted : Credential → Credential
  | .anonymous => .anonymous
  | .fixed token => .fixed (redactToken token)
  | .shared token => .shared (token.map redactToken)

theorem Alike.redacted_eq {first second : Credential} (alike : Alike first second) :
    first.redacted = second.redacted := by
  cases alike with
  | anonymous => rfl
  | fixed alike => exact congrArg Credential.fixed (Option.some.inj alike.map_redactToken)
  | shared alike => exact congrArg Credential.shared alike.map_redactToken

theorem bearer_eq (credential : Credential) :
    credential.bearer = credential.token.filter fun token => token ≠ "" := by
  cases credential <;> rfl

theorem token_redacted (credential : Credential) :
    credential.redacted.token = credential.token.map redactToken := by
  cases credential <;> rfl

theorem bearer_redacted (credential : Credential) :
    credential.redacted.bearer = credential.bearer.map redactToken := by
  rw [bearer_eq, bearer_eq, token_redacted]
  cases credential.token with
  | none => rfl
  | some token =>
    by_cases present : token = "" <;> simp [Option.filter, redactToken_eq_empty_iff, present]

theorem store_redacted (credential : Credential) (token : Option String) :
    credential.redacted.store (token.map redactToken) = (credential.store token).redacted := by
  cases credential <;> rfl

/-- What a credential shows of itself tells no more than whether it holds a token. -/
@[simp] theorem description_redacted (credential : Credential) :
    credential.redacted.description = credential.description := by
  cases credential with
  | anonymous => rfl
  | fixed _ => rfl
  | shared token =>
    have present := congrArg Option.isSome (bearer_redacted (.shared token))
    rw [Option.isSome_map] at present
    exact congrArg (fun known => "SharedToken \x7b present: " ++ toString known ++ " \x7d") present

end Credential

/-! ## Requests -/

/-- The header with another token, if it is the one that names the bearer. -/
def redactHeader (header : String × String) : String × String :=
  if header.1 = "authorization" then (header.1, "Bearer " ++ placeholder) else header

theorem requestHeaders_redacted (credential : Credential) (hasBody : Bool) :
    requestHeaders credential.redacted hasBody =
      (requestHeaders credential hasBody).map fun headers => headers.map redactHeader := by
  rw [requestHeaders, requestHeaders, Credential.bearer_redacted]
  cases held : credential.bearer with
  | none => cases hasBody <;> rfl
  | some token =>
    -- A bearer is not empty, so that it can be carried whenever its bytes can.
    have present : token ≠ "" := by
      rw [Credential.bearer_eq] at held
      simpa using (Option.filter_eq_some_iff.mp held).2
    by_cases valid : (Utf8.ofString token).all isHeaderByte = true
    · have carried : isBearable token = true := by simp [isBearable, present, valid]
      simp only [Option.map_some, redactToken, if_pos carried, if_pos placeholder_valid,
        if_pos valid]
      cases hasBody <;> rfl
    · have uncarried : isBearable token ≠ true := by simp [isBearable, valid]
      simp only [Option.map_some, redactToken, if_neg uncarried, if_neg valid]
      rfl

namespace Request

/-- The request with another token in the place of its own. -/
def redacted (request : Request) : Request :=
  { request with headers := request.headers.map redactHeader }

/-- What stands in the headers that name a bearer. -/
def authorization (request : Request) : List String :=
  (request.headers.filter fun header => header.1 = "authorization").map Prod.snd

/-- The request names the token that the credential holds, and has no header for it when there is no
token or an empty one. -/
def Names (request : Request) (credential : Credential) : Prop :=
  request.authorization =
    ((credential.token.filter fun token => token ≠ "").map ("Bearer " ++ ·)).toList

variable (request : Request)

@[simp] theorem redacted_url : request.redacted.url = request.url := rfl

@[simp] theorem sendRecord_redacted : request.redacted.sendRecord = request.sendRecord := rfl

@[simp] theorem openRecord_redacted : request.redacted.openRecord = request.openRecord := rfl

/-- What an answer holds does not depend on the token of its request. -/
@[simp] theorem conclude_redacted {β : Type} (read : List UInt8 → Except Json.Fault β)
    (answer : Except TransportError Response) :
    request.redacted.conclude read answer = request.conclude read answer := by
  cases answer <;> rfl

/-- Redaction hides what stands in one header, and nothing else of a request. -/
theorem same_of_redacted_eq {request other : Request}
    (same : request.redacted = other.redacted) :
    request.method = other.method ∧ request.url = other.url ∧ request.body = other.body ∧
      (request.headers.filter fun header => header.1 ≠ "authorization") =
        other.headers.filter fun header => header.1 ≠ "authorization" := by
  -- The headers of other names are left as they are, wherever they stand.
  have kept (headers : List (String × String)) :
      ((headers.map redactHeader).filter fun header => header.1 ≠ "authorization") =
        headers.filter fun header => header.1 ≠ "authorization" := by
    induction headers with
    | nil => rfl
    | cons header headers ih =>
      by_cases named : header.1 = "authorization" <;> simpa [redactHeader, named] using ih
  obtain ⟨method, url, headers, body⟩ := Request.mk.inj same
  refine ⟨method, url, body, ?_⟩
  rw [← kept request.headers, ← kept other.headers, headers]

end Request

/-- What asks for a token last: everything else of the request is settled before, or fails. -/
def AsksTokenLast (ask : Credential → Except ClientError Request) : Prop :=
  ∃ settled : Except ClientError (Method × Url × Option String), ∀ credential,
    ask credential = do
      let (method, url, body) ← settled
      Client.requestTo credential method url body

namespace AsksTokenLast

variable {ask : Credential → Except ClientError Request}

/-- With a redacted credential the same is asked for, redacted. -/
theorem redacted (last : AsksTokenLast ask) (credential : Credential) :
    ask credential.redacted = (ask credential).map Request.redacted := by
  obtain ⟨settled, asks⟩ := last
  rw [asks, asks]
  cases settled with
  | error error => rfl
  | ok settled =>
    -- With all else settled, the token decides the headers and nothing more.
    obtain ⟨method, url, body⟩ := settled
    change Client.requestTo credential.redacted method url body =
      (Client.requestTo credential method url body).map Request.redacted
    rw [Client.requestTo, Client.requestTo, requestHeaders_redacted]
    cases requestHeaders credential body.isSome <;> rfl

/-- The token of the credential that was asked is in its header. -/
theorem names (last : AsksTokenLast ask) {credential : Credential} {request : Request}
    (made : ask credential = .ok request) : request.Names credential := by
  obtain ⟨settled, asks⟩ := last
  rw [asks] at made
  cases settled with
  | error error => cases made
  | ok settled =>
    obtain ⟨method, url, body⟩ := settled
    change Client.requestTo credential method url body = .ok request at made
    rw [Request.Names, ← Credential.bearer_eq]
    cases held : credential.bearer with
    | none =>
      simp only [Client.requestTo, requestHeaders, held, Except.map] at made
      cases made
      cases body <;> rfl
    | some token =>
      simp only [Client.requestTo, requestHeaders, held] at made
      -- A token that no header carries makes no request.
      split at made
      · cases made
        cases body <;> rfl
      · cases made

end AsksTokenLast

namespace Client

variable (client : Client)

theorem asksTokenLast_watchRequest (cursor : Option String) :
    AsksTokenLast fun credential => client.watchRequest credential cursor := by
  refine ⟨do
    let url ← client.collectionUrl client.scope
    let version := (cursor.map ("resourceVersion", ·)).toList
    return (.get, url.withPairs (("watch", "1") :: version), none), ?_⟩
  intro credential
  cases cursor <;> simp [watchRequest]

theorem asksTokenLast_request {α : Type} [Resource α] (call : Call α) :
    AsksTokenLast fun credential => client.request credential call := by
  cases call with
  | list =>
    refine ⟨do
      let url ← client.collectionUrl client.scope
      return (.get,
        url.withPairs [("allowWatchBookmarks", "1"), client.timeoutPair], none), ?_⟩
    intro credential
    simp [request]
  | get scope name =>
    refine ⟨do return (.get, ← client.objectUrl (scope <|> client.scope) name, none), ?_⟩
    intro credential
    simp [request]
  | create object =>
    refine ⟨do
      let url ← client.collectionUrl (client.scopeOf object)
      return (.post, url, some (← bodyOf object)), ?_⟩
    intro credential
    simp [request]
  | update object =>
    refine ⟨do
      let url ← client.objectUrl (client.scopeOf object) ((Resource.metadata object).name.getD "")
      return (.put, url.withPairs [client.timeoutPair], some (← bodyOf object)), ?_⟩
    intro credential
    simp [request]
  | delete scope name =>
    refine ⟨do return (.delete, ← client.objectUrl (scope <|> client.scope) name, none), ?_⟩
    intro credential
    simp [request]

end Client

end ListWatch
