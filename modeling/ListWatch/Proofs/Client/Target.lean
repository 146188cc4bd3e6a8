import Mathlib.Data.List.Basic
import ListWatch.Client.Basic
import ListWatch.Proofs.Url.Segments
import ListWatch.Resource.Untyped
import ListWatch.Url.Parse

/-!
# What a request addresses

A call of a client names a place inside its server: a collection, in a namespace when one
applies, or one object of it. Each part of that place is one segment of the URL, encoded on its
own, as long as it is plain. A dot segment is not: as a name it is passed over, and the request
addresses the collection.
-/
namespace ListWatch

/-! ## Servers -/

/-- The schemes that requests are sent over. -/
def IsWeb (scheme : String) : Prop := scheme = "http" ∨ scheme = "https"

theorem IsWeb.special {scheme : String} (web : IsWeb scheme) : isSpecialScheme scheme = true := by
  rcases web with rfl | rfl <;> decide

theorem IsWeb.ne_file {scheme : String} (web : IsWeb scheme) : scheme ≠ "file" := by
  rcases web with rfl | rfl <;> decide

namespace Url

variable {scheme : String} {url : Url}

private theorem parseAfterScheme_divided {text : List Char}
    (read : parseAfterScheme scheme text = .ok url) :
    url.scheme = scheme ∧ (IsWeb scheme → ∃ list, url.path = .segments list) := by
  unfold parseAfterScheme at read
  simp only [bind, Except.bind, pure, Except.pure] at read
  split at read
  next file =>
    split at read
    · cases read
    · cases read
      exact ⟨rfl, fun web => absurd file web.ne_file⟩
  next =>
    split at read
    · split at read
      · cases read
      · cases read
        exact ⟨rfl, fun _ => ⟨_, rfl⟩⟩
    next other =>
      -- Every other scheme is none of the web.
      refine ⟨?_, fun web => absurd web.special other⟩
      split at read
      · cases read
        rfl
      · split at read
        · cases read
          rfl
        · split at read
          · cases read
          · cases read
            rfl

/-- The path of a web server is divided into segments. -/
theorem parse_divided {text : String} (read : Url.parse text = .ok url) (web : IsWeb url.scheme) :
    ∃ list, url.path = .segments list := by
  unfold Url.parse at read
  split at read
  · obtain ⟨rfl, divided⟩ := parseAfterScheme_divided read
    exact divided web
  · cases read

end Url

/-! ## Segments of web URLs -/

/-- The segment of a web URL that a plain text becomes. -/
def webSegment (text : String) : String := Percent.encode Percent.inSpecialSegment text.toList

/-- A segment is read back as its text. -/
theorem text?_webSegment (text : String) : Percent.text? (webSegment text) = some text := by
  rw [webSegment, Percent.escapes_inSpecialSegment.text?_encode, String.ofList_toList]

theorem webSegment_injective : Function.Injective webSegment := by
  intro first second same
  exact String.toList_injective (Percent.escapes_inSpecialSegment.encode_injective same)

/-- Nothing that ends a segment, or a path, stands in the segment of a text. -/
theorem confined_webSegment (text : String) :
    ∀ c ∈ ['/', '?', '#'], c ∉ (webSegment text).toList := by
  intro c member
  have digit (n : Nat) : Percent.hexDigit n ≠ c := by
    rintro rfl
    exact (by decide : ∀ n : Fin 16, (Nat.digitChar n).toUpper ∉ ['/', '?', '#'])
      ⟨n % 16, Nat.mod_lt _ (by decide)⟩ member
  refine Percent.not_mem_encode ?_ (by rintro rfl; exact absurd member (by decide)) digit _
  rintro byte rfl
  have held := (by decide +kernel : ∀ n : Fin 256, Char.ofNat n ∈ ['/', '?', '#'] →
    Percent.inSpecialSegment (UInt8.ofNat n) = true) ⟨byte.toNat, byte.toNat_lt⟩ member
  rwa [UInt8.ofNat_toNat] at held

/-- Of a web URL the segments are those of a special scheme. -/
theorem IsWeb.segmentOf_eq {scheme : String} (web : IsWeb scheme) :
    segmentOf scheme = webSegment := by
  funext text
  rw [segmentOf, segmentSet, if_pos web.special]
  rfl

theorem IsWeb.pushFront_eq {scheme : String} (web : IsWeb scheme) (segments : List String) :
    pushFront scheme segments = pushBase segments := if_neg web.ne_file

/-! ## Places -/

/-- The server's segments in front of a place, without an empty one at their end. A path of two
slashes counts as that of one. -/
def stem (segments : List String) : List String := pushBase (popIfEmpty segments)

theorem stem_eq {segments : List String} (usual : segments ≠ ["", ""]) :
    stem segments = if segments.getLast? = some "" then segments.dropLast else segments := by
  match segments with
  | [] => rfl
  | [only] => by_cases lone : only = "" <;> simp [stem, popIfEmpty, pushBase, lone]
  | first :: second :: rest =>
    have apart : popIfEmpty (first :: second :: rest) ≠ [""] := by
      intro same
      unfold popIfEmpty at same
      split at same
      next ends =>
        obtain ⟨empty, none⟩ : first = "" ∧ (second :: rest).dropLast = [] := by simpa using same
        cases rest with
        | nil => exact usual (by simp_all)
        | cons _ _ => cases none
      · cases same
    rw [stem, pushBase, if_neg apart, popIfEmpty]
    simp

/-- The namespace that a call applies to, if any: its own or its object's, or else the client's. -/
def Call.scope? {α : Type} [Resource α] (client : Client) : Call α → Option String
  | .list => client.scope
  | .get scope _ | .delete scope _ => scope <|> client.scope
  | .create object | .update object => client.scopeOf object

/-- The name of the object that a call is about. -/
def Call.name? {α : Type} [Resource α] : Call α → Option String
  | .list | .create _ => none
  | .get _ name | .delete _ name => some name
  | .update object => some ((Resource.metadata object).name.getD "")

namespace Client

/-- The parts of a place below the server, in order. -/
def parts (client : Client) (scope name? : Option String) : List String :=
  client.segments scope ++ name?.toList

/-- The URL of a place, before any query. -/
def placeUrl (client : Client) (scope : Option String) : Option String → Except ClientError Url
  | none => client.collectionUrl scope
  | some name => client.objectUrl scope name

variable {α : Type} [Resource α] {client : Client} {credential : Credential}

private theorem requestTo_url {method : Method} {url : Url} {body : Option String}
    {request : Request} (made : requestTo credential method url body = .ok request) :
    request.url = url := by
  unfold requestTo at made
  cases headers : requestHeaders credential body.isSome with
  | error _ => rw [headers] at made; cases made
  | ok _ => rw [headers] at made; cases made; rfl

/-- A request is sent to the place of its call. -/
theorem request_place {call : Call α} {request : Request}
    (made : client.request credential call = .ok request) :
    ∃ url query, client.placeUrl (call.scope? client) call.name? = .ok url ∧
      request.url = { url with query } := by
  have plain (url : Url) : url = { url with query := url.query } := rfl
  cases call with
  | list =>
    simp only [Client.request, bind, Except.bind] at made
    split at made
    · cases made
    next url found => exact ⟨url, _, found, requestTo_url made⟩
  | get scope name =>
    simp only [Client.request, bind, Except.bind] at made
    split at made
    · cases made
    next url found => exact ⟨url, _, found, (requestTo_url made).trans (plain url)⟩
  | create object =>
    simp only [Client.request, bind, Except.bind] at made
    split at made
    · cases made
    next url found =>
      split at made
      · cases made
      · exact ⟨url, _, found, (requestTo_url made).trans (plain url)⟩
  | update object =>
    simp only [Client.request, bind, Except.bind] at made
    split at made
    · cases made
    next url found =>
      split at made
      · cases made
      · exact ⟨url, _, found, requestTo_url made⟩
  | delete scope name =>
    simp only [Client.request, bind, Except.bind] at made
    split at made
    · cases made
    next url found => exact ⟨url, _, found, (requestTo_url made).trans (plain url)⟩

/-- A watch is sent to the place of its collection, with its cursor as the query. -/
theorem watchRequest_place {cursor : Option String} {request : Request}
    (made : client.watchRequest credential cursor = .ok request) :
    ∃ url, client.placeUrl client.scope none = .ok url ∧
      request.url = url.withPairs
        (("watch", "1") :: (cursor.map fun text => ("resourceVersion", text)).toList) := by
  simp only [Client.watchRequest, bind, Except.bind] at made
  split at made
  · cases made
  next url found =>
    refine ⟨url, found, (requestTo_url made).trans ?_⟩
    cases cursor <;> rfl

/-- Different places have different parts. -/
theorem parts_injective {scope name? scope' name?' : Option String}
    (same : client.parts scope name? = client.parts scope' name?') :
    scope = scope' ∧ name? = name?' := by
  simp only [parts, segments, List.append_assoc, List.append_cancel_left_eq] at same
  -- A namespace makes two parts and a name one, so the number of parts tells which there are.
  cases scope <;> cases scope' <;> cases name? <;> cases name?' <;> simp at same ⊢
  all_goals exact same

/-- The parts of a place begin with one that is not empty. -/
theorem parts_eq_cons (named : client.collection.resourceName ≠ "") (scope name? : Option String) :
    ∃ first rest, client.parts scope name? = first :: rest ∧ first ≠ "" := by
  simp only [parts, segments]
  cases api : client.collection.apiParts with
  | cons first rest =>
    refine ⟨first, _, rfl, ?_⟩
    have member : first ∈ client.collection.apiParts := by simp [api]
    obtain ⟨part, kept, rfl⟩ := List.mem_map.mp member
    intro empty
    have none : part = [] := String.ofList_injective empty
    simp [none] at kept
  | nil =>
    cases scope with
    | some scope => exact ⟨"namespaces", _, rfl, by decide⟩
    | none => exact ⟨_, _, rfl, named⟩

section Places

variable {list : List String} (divided : client.server.path = .segments list)
  (web : IsWeb client.server.scheme)

include divided in
private theorem placeUrl_path {scope name? : Option String} {url : Url}
    (found : client.placeUrl scope name? = .ok url) :
    url.path = .segments
      (pushSegments client.server.scheme (popIfEmpty list) (client.parts scope name?)) := by
  cases name? with
  | none =>
    simp only [placeUrl, collectionUrl, divided] at found
    cases found
    simp [Url.push, Url.bare, parts]
  | some name =>
    simp only [placeUrl, objectUrl, collectionUrl, divided] at found
    split at found
    · cases found
    · cases found
      simp [Url.push, Url.bare, parts, pushSegments]

include divided in
/-- Below the server's segments the path of a place has one segment for each of its parts. -/
theorem placeUrl_segments (named : client.collection.resourceName ≠ "")
    {scope name? : Option String} (plain : ∀ part ∈ client.parts scope name?, IsPlain part)
    (undriven : client.server.scheme = "file" →
      ∀ part ∈ client.parts scope name?, isDriveLetter part = false)
    {url : Url} (found : client.placeUrl scope name? = .ok url) :
    url.path = .segments (pushFront client.server.scheme (popIfEmpty list) ++
      (client.parts scope name?).map (segmentOf client.server.scheme)) := by
  obtain ⟨first, rest, parts, begins⟩ := client.parts_eq_cons named scope name?
  rw [placeUrl_path divided found]
  rw [parts] at plain undriven ⊢
  rw [pushSegments_plain begins plain fun file => undriven file first List.mem_cons_self]

include divided web in
theorem placeUrl_plain (named : client.collection.resourceName ≠ "")
    {scope name? : Option String} (plain : ∀ part ∈ client.parts scope name?, IsPlain part)
    {url : Url} (found : client.placeUrl scope name? = .ok url) :
    url.path = .segments (stem list ++ (client.parts scope name?).map webSegment) := by
  have undriven : client.server.scheme = "file" →
      ∀ part ∈ client.parts scope name?, isDriveLetter part = false :=
    fun file => absurd file web.ne_file
  rw [placeUrl_segments divided named plain undriven found, web.segmentOf_eq, web.pushFront_eq]
  rfl

end Places

/-- A name that is a step along the path addresses the collection. -/
theorem objectUrl_step (client : Client) (scope : Option String) {name : String}
    (step : name = "." ∨ name = "..") :
    client.objectUrl scope name = client.collectionUrl scope := by
  have some : name ≠ "" := by rcases step with rfl | rfl <;> decide
  have same (url : Url) : url.push [name] = url := by
    unfold Url.push
    split
    next path => rw [pushSegments_step name step, ← path]
    · rfl
  rw [objectUrl, if_neg some]
  simp only [same]
  cases client.collectionUrl scope <;> rfl

/-- Names that differ in what is dropped alone address the same object. -/
theorem objectUrl_dropped {client : Client} (web : IsWeb client.server.scheme)
    (scope : Option String) {name other : String} (some : name ≠ "") (some' : other ≠ "")
    (stays : ¬ (name = "." ∨ name = "..")) (stays' : ¬ (other = "." ∨ other = ".."))
    (same : withoutDropped name.toList = withoutDropped other.toList) :
    client.objectUrl scope name = client.objectUrl scope other := by
  have pushed {scheme : String} (web : IsWeb scheme) (segments : List String) :
      pushSegments scheme segments [name] = pushSegments scheme segments [other] :=
    pushSegment_dropped web.ne_file stays stays' same
  rw [objectUrl, objectUrl, if_neg some, if_neg some']
  unfold collectionUrl
  split
  · rfl
  · simp only [Except.map, Url.push, Url.bare, pushed web]

end Client

/-! ## Requests and their places -/

/-- Below the given segments the path has one for each text, which is read back as the text, and in
which nothing stands that ends a segment or a path. -/
def Url.Spells (url : Url) (front texts : List String) : Prop :=
  ∃ segments, url.path = .segments (front ++ segments) ∧
    segments.map Percent.text? = texts.map some ∧
    ∀ segment ∈ segments, ∀ c ∈ ['/', '?', '#'], c ∉ segment.toList

theorem Url.spells_of_path {url : Url} {front texts : List String}
    (path : url.path = .segments (front ++ texts.map webSegment)) : url.Spells front texts := by
  refine ⟨_, path, ?_, ?_⟩
  · have read : Percent.text? ∘ webSegment = some := by
      funext text
      rw [Function.comp_apply, text?_webSegment]
    rw [List.map_map, read]
  · intro segment member
    obtain ⟨text, -, rfl⟩ := List.mem_map.mp member
    exact confined_webSegment text

/-- The server is one of the web, and the collection has a name. Then a request whose parts are
plain is sent to its place, and to no other one: below the server's segments its path spells the
parts, requests of one path have the same namespace and name, and the path of an object is neither
that of its collection nor of a parent. A name that is a step along the path addresses the
collection, and one with tabs or line ends the object named without them. -/
theorem request_addresses_place {α : Type} [Resource α] {text : String} {client : Client}
    (read : Url.parse text = .ok client.server) (web : IsWeb client.server.scheme)
    (named : client.collection.resourceName ≠ "") :
    ∃ list, client.server.path = .segments list ∧
    (∀ credential (call : Call α) request, client.request credential call = .ok request →
      (∀ part ∈ client.parts (call.scope? client) call.name?, IsPlain part) →
      request.url.Spells (stem list) (client.parts (call.scope? client) call.name?) ∧
      (∀ credential' (other : Call α) request', client.request credential' other = .ok request' →
        (∀ part ∈ client.parts (other.scope? client) other.name?, IsPlain part) →
        request.url.path = request'.url.path →
        call.scope? client = other.scope? client ∧ call.name? = other.name?) ∧
      (call.name?.isSome = true → ∀ collection front,
        client.collectionUrl (call.scope? client) = .ok collection →
        collection.path = .segments front → ∀ parent, parent <+: front →
        request.url.path ≠ .segments parent)) ∧
    (∀ credential cursor request, client.watchRequest credential cursor = .ok request →
      (∀ part ∈ client.parts client.scope none, IsPlain part) →
      request.url.Spells (stem list) (client.parts client.scope none)) ∧
    (∀ scope name, name = "." ∨ name = ".." →
      client.objectUrl scope name = client.collectionUrl scope) ∧
    ∀ scope name other, name ≠ "" → other ≠ "" → ¬ (name = "." ∨ name = "..") →
      ¬ (other = "." ∨ other = "..") →
      withoutDropped name.toList = withoutDropped other.toList →
      client.objectUrl scope name = client.objectUrl scope other := by
  obtain ⟨list, divided⟩ := Url.parse_divided read web
  have path {credential : Credential} {call : Call α} {request : Request}
      (made : client.request credential call = .ok request)
      (plain : ∀ part ∈ client.parts (call.scope? client) call.name?, IsPlain part) :
      request.url.path = .segments
        (stem list ++ (client.parts (call.scope? client) call.name?).map webSegment) := by
    obtain ⟨url, query, found, sent⟩ := Client.request_place made
    rw [sent, ← Client.placeUrl_plain divided web named plain found]
  refine ⟨list, divided, ?_, ?_, ?_, ?_⟩
  · intro credential call request made plain
    refine ⟨Url.spells_of_path (path made plain), ?_, ?_⟩
    · intro credential' other request' made' plain' same
      rw [path made plain, path made' plain'] at same
      have segments := List.append_cancel_left (UrlPath.segments.inj same)
      exact Client.parts_injective (List.map_injective_iff.mpr webSegment_injective segments)
    · intro object collection front found path' parent within same
      -- The path of the object is that of the collection and one segment more.
      obtain ⟨name, about⟩ := Option.isSome_iff_exists.mp object
      have inside (part : String) (member : part ∈ client.parts (call.scope? client) none) :
          part ∈ client.parts (call.scope? client) call.name? := by
        simp only [Client.parts, List.mem_append] at member ⊢
        exact Or.inl (by simpa using member)
      have above := Client.placeUrl_plain divided web named
        (fun part member => plain part (inside part member)) (found : client.placeUrl _ none = _)
      rw [path'] at above
      rw [path made plain, about] at same
      have shorter := within.length_le
      rw [UrlPath.segments.inj above, ← UrlPath.segments.inj same] at shorter
      simp only [Client.parts, List.length_append, List.length_map, Option.toList_some,
        Option.toList_none, List.length_singleton, List.length_nil] at shorter
      omega
  · intro credential cursor request made plain
    obtain ⟨url, found, sent⟩ := Client.watchRequest_place made
    have path := Client.placeUrl_plain divided web named plain found
    rw [sent]
    exact Url.spells_of_path path
  · exact fun scope name => client.objectUrl_step scope
  · exact fun scope name other some some' => Client.objectUrl_dropped web scope some some'

namespace Sample

/-- A client of a server below a path, in a namespace of its own. -/
def cluster : Client :=
  { server := { scheme := "https", authority := some { host := "localhost", port := some 8443 },
                path := .segments ["base", ""] }
    collection := { apiPath := "/api/v1/", resource := "pods" }
    scope := some "lab" }

private theorem eq_ok_of_toOption {ε β : Type} {result : Except ε β} {value : β}
    (same : result.toOption = some value) : result = .ok value := by
  cases result <;> cases same
  rfl

/-- A deletion with separators in its namespace and name stays below that server. -/
theorem request_addresses_place_of_deletion :
    ∃ request,
      cluster.request .anonymous (.delete (some "a/b") "x?y" : Call UntypedObject) = .ok request ∧
      request.url.Spells ["base"] ["api", "v1", "namespaces", "a/b", "pods", "x?y"] := by
  have read : Url.parse "https://localhost:8443/base/" = .ok cluster.server := by decide +kernel
  obtain ⟨list, divided, sends, -⟩ := request_addresses_place (α := UntypedObject) read (Or.inr rfl)
    (by decide +kernel)
  cases divided
  have sent : (cluster.request .anonymous
      (.delete (some "a/b") "x?y" : Call UntypedObject)).toOption.isSome = true := by decide +kernel
  obtain ⟨request, made⟩ := Option.isSome_iff_exists.mp sent
  have parts : cluster.parts (some "a/b") (some "x?y") =
      ["api", "v1", "namespaces", "a/b", "pods", "x?y"] := by decide +kernel
  have plain : ∀ part ∈ ["api", "v1", "namespaces", "a/b", "pods", "x?y"], IsPlain part := by
    simp [IsPlain, isDropped]
  have spells := (sends .anonymous (.delete (some "a/b") "x?y") request (eq_ok_of_toOption made)
    (parts ▸ plain)).1
  have front : stem ["base", ""] = ["base"] := by decide +kernel
  exact ⟨request, eq_ok_of_toOption made, front ▸ parts ▸ spells⟩

/-- The collection of that client. -/
def place : Url :=
  { cluster.server with path := .segments ["base", "api", "v1", "namespaces", "lab", "pods"] }

/-- A deletion of the name that is two dots is sent to the collection, and spells no object. -/
theorem deletion_of_step_addresses_collection :
    ∃ request,
      cluster.request .anonymous (.delete none ".." : Call UntypedObject) = .ok request ∧
      cluster.collectionUrl (some "lab") = .ok request.url ∧
      ¬ request.url.Spells ["base"] (cluster.parts (some "lab") (some "..")) := by
  have sent : (cluster.request .anonymous (.delete none ".." : Call UntypedObject)).toOption =
      some { method := .delete, url := place, headers := [("accept", jsonType)],
             body := none } := by
    decide +kernel
  have found : (cluster.collectionUrl (some "lab")).toOption = some place := by decide +kernel
  refine ⟨_, eq_ok_of_toOption sent, eq_ok_of_toOption found, ?_⟩
  rintro ⟨segments, same, read, -⟩
  -- The path has a segment less than the place has parts.
  have count := congrArg List.length read
  have parts : (cluster.parts (some "lab") (some "..")).length = 6 := by decide +kernel
  have length := congrArg List.length (UrlPath.segments.inj same)
  simp [parts] at count length
  omega

end Sample

end ListWatch
