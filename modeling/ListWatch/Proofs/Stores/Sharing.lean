import ListWatch.Proofs.Stores.Registry
import ListWatch.Proofs.Synchronizer.Sending

/-!
# Who shares a synchronizer

A registry gives whoever registers a path the synchronizer that was made when the path came to be
registered first. That one was made for the collection and the namespace of that time. So what it
mirrors is what the others asked for as long as one path stands for one place.
-/
namespace ListWatch

open ResourceFamily (Carrier)

/-! ## Registrations -/

namespace Stores

variable {κ : Type} [ResourceFamily κ] [DecidableEq κ] {stores : Stores κ} {path : String}
  {acts : List (RegistryAct κ)} {collection : Collection} {scope : Option String} {kind : κ}

/-- A registration is granted unless another kind is found at the path. -/
theorem register_eq_ok
    (same : ∀ store, stores.find? (collection.path scope) = some store → store.kind = kind) :
    ∃ after, stores.register collection scope kind = .ok (after, collection.path scope) := by
  simp only [register]
  split
  next store found => exact ⟨stores, if_pos (same store found)⟩
  next => exact ⟨_, rfl⟩

/-- Once a path was registered, something is found there. -/
theorem exists_store_of_mem (member : .register collection scope kind ∈ acts) :
    ∃ store, (stores.heedAll acts).find? (collection.path scope) = some store := by
  obtain ⟨earlier, later, rfl⟩ := List.append_of_mem member
  have here := (stores.heedAll earlier).find?_heed (collection.path scope)
    (.register collection scope kind)
  obtain ⟨store, found⟩ : ∃ store, ((stores.heedAll earlier).heed
      (.register collection scope kind)).find? (collection.path scope) = some store := by
    rw [here, made?, if_pos rfl]
    cases (stores.heedAll earlier).find? (collection.path scope) <;> exact ⟨_, rfl⟩
  refine ⟨store.heedAll (later.filterMap (RegistryAct.part? (collection.path scope))), ?_⟩
  rw [heedAll, List.foldl_append]
  exact find?_heedAll found later

/-- What is found at a path was made for whoever registered the path first. -/
theorem exists_registration {store : Store κ} (absent : stores.find? path = none)
    (found : (stores.heedAll acts).find? path = some store) :
    ∃ collection scope own, .register collection scope store.kind ∈ acts ∧
      collection.path scope = path ∧
      store.synchronizer =
        (Synchronizer.create { server := stores.server, collection, scope }
          stores.options).heedAll own := by
  induction acts generalizing stores with
  | nil => cases absent.symm.trans found
  | cons act acts ih =>
    have next := stores.find?_heed path act
    rw [absent, Option.map_none, Option.none_or] at next
    cases made : stores.made? path act with
    | none =>
      obtain ⟨collection, scope, own, member, same, lived⟩ := ih (next.trans made) found
      rw [(kept_heed act).1, (kept_heed act).2] at lived
      exact ⟨collection, scope, own, List.mem_cons_of_mem _ member, same, lived⟩
    | some first =>
      have here := find?_heedAll (next.trans made) acts
      cases here.symm.trans found
      -- Only a registration of the path makes anything there.
      cases act with
      | register collection scope kind =>
        obtain ⟨same, made⟩ := Option.ite_none_right_eq_some.mp made
        cases made
        exact ⟨collection, scope, _, List.mem_cons_self, same, rfl⟩
      | start _ | stop _ | startAll | stopAll | step _ _ _ => cases made

end Stores

/-- In a registry of one kind of resource, whose collections and namespaces hold no slash in their
names, every registration is granted, and at its path a synchronizer is found from then on that
mirrors what was registered: all it sends is what a client made for just that collection and
namespace would send, with the timeout of the registry. Two registrations get the same one only if
their collections have the same URL. Where these can be built and both collections are spelled, they
get the same one if the URL is the same. -/
theorem shares_by_url {κ : Type} [ResourceFamily κ] [DecidableEq κ] {server : Url}
    {options : Options} {kind : κ} {acts : List (RegistryAct κ)}
    (whole : ∀ collection scope kind', .register collection scope kind' ∈ acts →
      collection.Unbroken scope ∧ kind' = kind) :
    let empty : Stores κ := { server, options }
    let direct (collection : Collection) (scope : Option String) : Client :=
      { server, collection, scope }
    ∀ collection scope, .register collection scope kind ∈ acts →
      (∀ earlier later, acts = earlier ++ .register collection scope kind :: later →
        ∃ after, (empty.heedAll earlier).register collection scope kind =
          .ok (after, collection.path scope)) ∧
      (∃ store, (empty.heedAll acts).find? (collection.path scope) = some store ∧
        store.kind = kind ∧
        store.synchronizer.Addresses
          ((direct collection scope).withListTimeout options.listTimeoutSeconds)) ∧
      ∀ collection' scope', .register collection' scope' kind ∈ acts →
        (collection.path scope = collection'.path scope' →
          (direct collection scope).collectionUrl scope =
            (direct collection' scope').collectionUrl scope') ∧
        (server.isBase = true → (direct collection scope).IsSpelled →
          (direct collection' scope').IsSpelled →
          (direct collection scope).collectionUrl scope =
            (direct collection' scope').collectionUrl scope' →
          collection.path scope = collection'.path scope') := by
  intro empty direct collection scope member
  have unbroken := (whole _ _ _ member).1
  refine ⟨?_, ?_, ?_⟩
  · -- Whatever is found at the path came of a registration, so it is of the one kind.
    rintro earlier later rfl
    refine Stores.register_eq_ok fun store found => ?_
    obtain ⟨_, _, _, before, -⟩ := Stores.exists_registration rfl found
    exact (whole _ _ _ (List.mem_append_left _ before)).2
  · obtain ⟨store, found⟩ : ∃ store, (empty.heedAll acts).find? (collection.path scope) = _ :=
      Stores.exists_store_of_mem member
    obtain ⟨first, scope', own, registered, shared, lived⟩ :=
      Stores.exists_registration rfl found
    obtain ⟨unbroken', same⟩ := whole _ _ _ registered
    -- The path was registered for a collection of the same segments.
    have paths : (direct first scope').path = (direct collection scope).path := shared
    have segments := Client.segments_eq_of_path unbroken' unbroken paths
    have created := Synchronizer.coherent_create (α := Carrier store.kind)
      (direct first scope') options
    have addresses := (Synchronizer.coherent_heedAll created own).addresses
    rw [Synchronizer.client_heedAll created] at addresses
    refine ⟨store, found, same, ?_⟩
    rw [lived]
    exact addresses.congr (Client.asks_congr rfl rfl segments)
  · intro collection' scope' member'
    have unbroken' := (whole _ _ _ member').1
    constructor
    · intro shared
      have paths : (direct collection scope).path = (direct collection' scope').path := shared
      exact Client.collectionUrl_congr rfl (Client.segments_eq_of_path unbroken unbroken' paths)
    · intro divided spelled spelled' url
      have paths : (direct collection scope).path = (direct collection' scope').path :=
        Client.path_eq_of_collectionUrl rfl divided spelled spelled' url
      exact paths

namespace Sample

/-- The collection of the client, spelled in another way that makes no difference. -/
def trailing : Collection := { apiPath := "/api/v1/", resource := "/pods/" }

/-- One collection is registered twice and once more in a namespace. -/
def registrations : List (RegistryAct Unit) :=
  [.register client.collection none (), .startAll, .register client.collection (some "lab") (),
    .register trailing none ()]

/-- The client of a collection of that server. -/
def direct (collection : Collection) (scope : Option String) : Client :=
  { server := client.server, collection, scope }

theorem unbroken_registrations (collection : Collection) (scope : Option String) (kind : Unit)
    (member : .register collection scope kind ∈ registrations) :
    collection.Unbroken scope ∧ kind = () := by
  simp only [registrations, List.mem_cons, RegistryAct.register.injEq, reduceCtorEq, false_or,
    List.not_mem_nil, or_false] at member
  refine ⟨?_, rfl⟩
  rcases member with ⟨rfl, rfl, -⟩ | ⟨rfl, rfl, -⟩ | ⟨rfl, rfl, -⟩
  · exact ⟨by decide +kernel, by simp⟩
  · exact ⟨by decide +kernel, by simp⟩
  · exact ⟨by decide +kernel, by simp⟩

theorem isSpelled_direct (scope : Option String) (plain : ∀ name ∈ scope, IsPlain name) :
    (direct client.collection scope).IsSpelled := by
  have spelled : client.collection.IsSpelled := by decide +kernel
  have api : client.collection.apiParts = ["api", "v1"] := by decide +kernel
  have resource : client.collection.resourceName = "pods" := by decide +kernel
  have web : client.server.scheme ≠ "file" := by decide
  have known : ∀ part ∈ ["api", "v1", "namespaces", "pods"], IsPlain part := by
    simp [IsPlain, isDropped]
  have parts : ∀ part ∈ (direct client.collection scope).segments scope, IsPlain part := by
    intro part member
    rw [Client.segments_eq, show (direct client.collection scope).collection = client.collection
      from rfl, api, resource] at member
    cases scope with
    | none =>
      simp only [Collection.scopeParts, List.append_nil, List.mem_append, List.mem_cons,
        List.not_mem_nil, or_false] at member
      rcases member with (rfl | rfl) | rfl <;> exact known _ (by simp)
    | some name =>
      simp only [Collection.scopeParts, List.mem_append, List.mem_cons, List.not_mem_nil,
        or_false] at member
      rcases member with ((rfl | rfl) | rfl | rfl) | rfl
      · exact known _ (by simp)
      · exact known _ (by simp)
      · exact known _ (by simp)
      · exact plain part rfl
      · exact known _ (by simp)
  exact ⟨by rw [direct, resource]; decide, spelled, parts, fun file => absurd file web⟩

/-- Whoever registers the collection gets the synchronizer that was made first, and in the namespace
another one, since the URL is another one there. -/
theorem shares_by_url_of_registrations :
    let empty : Stores Unit := { server := client.server, options := {} }
    (∃ store, (empty.heedAll registrations).find? "/api/v1/pods" = some store ∧
      store.synchronizer.Addresses ((direct trailing none).withListTimeout 10)) ∧
    (direct client.collection none).collectionUrl none =
      (direct trailing none).collectionUrl none ∧
    (direct client.collection none).collectionUrl none ≠
      (direct client.collection (some "lab")).collectionUrl (some "lab") := by
  intro empty
  have shares := @shares_by_url Unit _ _ client.server {} () registrations unbroken_registrations
  have path : trailing.path none = client.collection.path none := by decide +kernel
  have text : trailing.path none = "/api/v1/pods" := by decide +kernel
  have apart : client.collection.path none ≠ client.collection.path (some "lab") := by
    decide +kernel
  obtain ⟨-, ⟨store, found, -, addresses⟩, -⟩ := shares trailing none (by simp [registrations])
  obtain ⟨-, -, alike⟩ := shares client.collection none (by simp [registrations])
  have again := (alike trailing none (by simp [registrations])).1 path.symm
  have inside := (alike client.collection (some "lab") (by simp [registrations])).2
    (by decide +kernel) (isSpelled_direct none (by simp))
    (isSpelled_direct (some "lab") (by simp [IsPlain, isDropped]))
  rw [text] at found
  exact ⟨⟨store, found, addresses⟩, again, fun same => apart (inside same)⟩

/-- A collection whose API's path goes on with the parts of a namespace. -/
def nested : Collection := { apiPath := "/api/v1/namespaces/team/lab", resource := "pods" }

/-- The collection without the slash in front of its API's path. -/
def unslashed : Collection := { apiPath := "api/v1", resource := "pods" }

/-- The path that a registration gives in a new registry of that server after others. -/
def given (earlier : List (RegistryAct Unit)) (collection : Collection) (scope : Option String) :
    Option String :=
  let empty : Stores Unit := { server := client.server, options := {} }
  ((empty.heedAll earlier).register collection scope ()).toOption.map Prod.snd

/-- A namespace that holds a slash is given the synchronizer of another collection, though it has
another URL. A collection without its first slash is given a synchronizer of its own, though it has
the same URL. -/
theorem registrations_confused :
    given [] nested none = some "/api/v1/namespaces/team/lab/pods" ∧
    given [.register nested none ()] client.collection (some "team/lab") =
      some "/api/v1/namespaces/team/lab/pods" ∧
    (direct nested none).collectionUrl none ≠
      (direct client.collection (some "team/lab")).collectionUrl (some "team/lab") ∧
    given [] client.collection none = some "/api/v1/pods" ∧
    given [.register client.collection none ()] unslashed none = some "api/v1/pods" ∧
    (direct client.collection none).collectionUrl none =
      (direct unslashed none).collectionUrl none := by
  refine ⟨by decide +kernel, by decide +kernel, ?_, by decide +kernel, by decide +kernel, ?_⟩
  · have inner : ((direct nested none).collectionUrl none).toOption.map Url.render =
        some "http://localhost/api/v1/namespaces/team/lab/pods" := by decide +kernel
    have within : ((direct client.collection (some "team/lab")).collectionUrl
        (some "team/lab")).toOption.map Url.render =
        some "http://localhost/api/v1/namespaces/team%2Flab/pods" := by decide +kernel
    intro same
    rw [same, within] at inner
    exact absurd (Option.some.inj inner) (by decide)
  · -- The empty part in front of the first slash is left out.
    exact Client.collectionUrl_congr rfl (by decide +kernel)

end Sample

end ListWatch
