import ListWatch.Client.Answer

/-!
# What answers mean

Every answer to a call has one meaning. Without an answer the call failed in the transport; a status
outside 200 to 299 is a rejection, with what its body says; any other status gives what the body
reads as, or a fault of the body.
-/
namespace ListWatch

open Json (Value)

namespace Response

variable {response : Response}

/-- The content type begins with that of JSON, whatever the case of its letters. -/
def DeclaresJson (response : Response) : Prop :=
  ∃ type front, response.contentType = some type ∧ front <+: type.toList ∧
    front.map Char.toLower = "application/json".toList

theorem declaresJson_iff : response.declaresJson = true ↔ response.DeclaresJson := by
  rw [declaresJson, DeclaresJson]
  cases response.contentType with
  | none => simp
  | some type =>
    rw [List.isPrefixOf_iff_prefix, List.prefix_map_iff]
    constructor
    · rintro ⟨front, begins, same⟩
      exact ⟨type, front, rfl, begins, same.symm⟩
    · rintro ⟨_, front, ⟨⟩, begins, same⟩
      exact ⟨front, begins, same.symm⟩

/-- What a rejection says: nothing if its body is empty, the document that is declared and there, or
else the text, with what is no text replaced. -/
inductive Says (response : Response) : Value → Prop where
  | nothing (empty : response.body = []) : Says response .null
  | document {document : Value} (some_body : response.body ≠ [])
      (declared : response.DeclaresJson) (parsed : Json.parse response.body = .ok document) :
      Says response document
  | text (some_body : response.body ≠ [])
      (other : ¬ (response.DeclaresJson ∧ ∃ document, Json.parse response.body = .ok document)) :
      Says response (.string (Utf8.lossy response.body))

/-- The bytes that a success holds: those of null where there is no body. -/
inductive Holds (response : Response) : List UInt8 → Prop where
  | nothing (empty : response.status = 204 ∨ response.body = []) :
      Holds response (Utf8.ofString "null")
  | body (some_status : response.status ≠ 204) (some_body : response.body ≠ []) :
      Holds response response.body

theorem isEmpty_iff : response.isEmpty = true ↔ response.status = 204 ∨ response.body = [] := by
  simp [isEmpty]

theorem holds_payload (response : Response) : response.Holds response.payload := by
  rw [payload]
  split
  next empty => exact .nothing (isEmpty_iff.mp empty)
  next other =>
    obtain ⟨some_status, some_body⟩ := not_or.mp (mt isEmpty_iff.mpr other)
    exact .body some_status some_body

theorem Holds.eq_payload {bytes : List UInt8} (held : response.Holds bytes) :
    bytes = response.payload := by
  rw [payload]
  cases held with
  | nothing empty => rw [if_pos (isEmpty_iff.mpr empty)]
  | body some_status some_body =>
    rw [if_neg (mt isEmpty_iff.mp (not_or.mpr ⟨some_status, some_body⟩))]

/-- Away from the status that never has a body, a rejection says its remark. -/
theorem says_iff (other : response.status ≠ 204) {body : Value} :
    response.Says body ↔ body = response.remark := by
  have empty_iff : response.isEmpty = true ↔ response.body = [] := by
    simp [isEmpty_iff, other]
  constructor
  · intro told
    rw [remark]
    cases told with
    | nothing empty => rw [if_pos (empty_iff.mpr empty)]
    | document some_body declared parsed =>
      rw [if_neg (mt empty_iff.mp some_body), declaresJson_iff.mpr declared, parsed]
    | text some_body other =>
      rw [if_neg (mt empty_iff.mp some_body)]
      split
      next declared parsed => exact absurd ⟨declaresJson_iff.mp declared, _, parsed⟩ other
      next => rfl
  · rintro rfl
    rw [remark]
    split
    next empty => exact .nothing (empty_iff.mp empty)
    next some_body =>
      have some_body := mt empty_iff.mpr some_body
      split
      next declared parsed => exact .document some_body (declaresJson_iff.mp declared) parsed
      next other =>
        refine .text some_body fun ⟨declared, document, parsed⟩ => ?_
        exact other document (declaresJson_iff.mpr declared) parsed

end Response

/-- The status is one of success. -/
abbrev Succeeds (status : Nat) : Prop := 200 ≤ status ∧ status ≤ 299

variable {α : Type} [Resource α]

/-- What the answer to a request means for its call. -/
inductive Means (call : Call α) (request : Request) :
    Except TransportError Response → Except ClientError (Reply α) → Prop where
  | unanswered (source : TransportError) :
      Means call request (.error source)
        (.error (.transport request.method request.url.render source))
  | rejected {response : Response} {body : Value} {label : String}
      (refused : ¬ Succeeds response.status) (told : response.Says body)
      (labelled : statusLabel? response.status = some label) :
      Means call request (.ok response)
        (.error (.rejected { method := request.method.name, url := request.url.render,
                             status := response.status, statusText := response.statusText,
                             body, label }))
  | replied {response : Response} {payload : List UInt8} {reply : Reply α}
      (succeeded : Succeeds response.status) (held : response.Holds payload)
      (decoded : call.read payload = .ok reply) : Means call request (.ok response) (.ok reply)
  | unreadable {response : Response} {payload : List UInt8} {fault : Json.Fault}
      (succeeded : Succeeds response.status) (held : response.Holds payload)
      (undecoded : call.read payload = .error fault) :
      Means call request (.ok response) (.error (.body request.url.render fault))

theorem statusLabel?_eq_none {status : Nat} : statusLabel? status = none ↔ Succeeds status := by
  unfold statusLabel?
  split
  case h_8 =>
    split
    next success => exact ⟨fun _ => success, fun _ => rfl⟩
    next failure => exact ⟨nofun, fun success => absurd success failure⟩
  -- None of the statuses with a name of their own is one of success.
  all_goals exact ⟨nofun, fun success => absurd success (by decide)⟩

/-- The result of a call is what the answer to its request means. -/
theorem conclude_eq_iff {call : Call α} {request : Request}
    {answer : Except TransportError Response} {result : Except ClientError (Reply α)} :
    call.conclude request answer = result ↔ Means call request answer result := by
  unfold Call.conclude Request.conclude
  cases answer with
  | error source =>
    constructor
    · rintro rfl
      exact .unanswered source
    · intro meant
      cases meant
      rfl
  | ok response =>
    simp only [Rejection.ofStatus?]
    cases label : statusLabel? response.status with
    | none =>
      have succeeded := statusLabel?_eq_none.mp label
      simp only [Option.map_none]
      constructor
      · rintro rfl
        cases decoded : call.read response.payload with
        | ok reply => exact .replied succeeded response.holds_payload decoded
        | error fault => exact .unreadable succeeded response.holds_payload decoded
      · intro meant
        cases meant with
        | rejected refused _ _ => exact absurd succeeded refused
        | replied _ held decoded =>
          rw [← held.eq_payload, decoded]
          rfl
        | unreadable _ held undecoded =>
          rw [← held.eq_payload, undecoded]
          rfl
    | some label' =>
      have refused : ¬ Succeeds response.status := fun success => by
        cases label.symm.trans (statusLabel?_eq_none.mpr success)
      -- The status that never has a body is one of success.
      have other : response.status ≠ 204 := fun same => refused (same ▸ by decide)
      simp only [Option.map_some]
      constructor
      · rintro rfl
        exact .rejected refused ((Response.says_iff other).mpr rfl) label
      · intro meant
        cases meant with
        | rejected _ told labelled =>
          cases label.symm.trans labelled
          rw [(Response.says_iff other).mp told]
        | replied succeeded _ _ => exact absurd succeeded refused
        | unreadable succeeded _ _ => exact absurd succeeded refused

end ListWatch
