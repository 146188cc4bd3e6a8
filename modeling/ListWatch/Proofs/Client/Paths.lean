import Mathlib.Data.List.TakeWhile
import ListWatch.Proofs.Client.Target

/-!
# Paths and URLs of collections

A collection has a path, which is one text, and a URL, whose path is made of segments. Both come of
the same parts, but the text is only cut at its ends, while the segments leave out what is empty and
are encoded one by one. So a slash in a namespace makes two places of one path, and a slash too many
or too few makes two paths of one place. Where the names hold no slash a path stands for one place,
and where the API's path is spelled with a slash before each of its parts a place has one path.
-/
namespace ListWatch

/-! ## Parts of a path -/

namespace Collection

/-- Neither the collection's name nor the namespace holds a slash. -/
structure Unbroken (collection : Collection) (scope : Option String) : Prop where
  resource : '/' ∉ collection.resourceName.toList
  scope : ∀ name ∈ scope, '/' ∉ name.toList

/-- The API's path has a slash before each of its parts, and no other but at its end. -/
def IsSpelled (collection : Collection) : Prop :=
  collection.basePath = segmentsText collection.apiParts

instance (collection : Collection) : Decidable collection.IsSpelled :=
  inferInstanceAs (Decidable (_ = _))

variable {collection : Collection} {scope : Option String}

theorem toList_basePath (collection : Collection) :
    ∃ slashes, collection.apiPath.toList = collection.basePath.toList ++ slashes ∧
      ∀ c ∈ slashes, c = '/' := by
  refine ⟨(collection.apiPath.toList.reverse.takeWhile isSlash).reverse, ?_, ?_⟩
  · rw [basePath, String.toList_ofList, ← List.reverse_append, List.takeWhile_append_dropWhile,
      List.reverse_reverse]
  · intro c member
    have slash : isSlash c = true := List.mem_takeWhile_imp (List.mem_reverse.mp member)
    exact of_decide_eq_true slash

theorem getLast?_basePath (collection : Collection) :
    collection.basePath.toList.getLast? ≠ some '/' := by
  have kept := List.head?_dropWhile_not isSlash collection.apiPath.toList.reverse
  rw [basePath, String.toList_ofList, List.getLast?_reverse]
  intro slash
  rw [slash] at kept
  cases kept

/-- The slashes at the end of the API's path make no parts. -/
theorem apiParts_eq (collection : Collection) :
    collection.apiParts =
      ((Text.splitAt '/' collection.basePath.toList).filter (· ≠ [])).map String.ofList := by
  obtain ⟨slashes, whole, all⟩ := collection.toList_basePath
  rw [apiParts, whole]
  cases slashes with
  | nil => rw [List.append_nil]
  | cons slash rest =>
    obtain ⟨rfl, further⟩ := List.forall_mem_cons.mp all
    have none : (Text.splitAt '/' rest).filter (· ≠ []) = [] := by
      refine List.filter_eq_nil_iff.mpr fun part member => ?_
      simpa using Text.eq_nil_of_mem_splitAt further part member
    rw [Text.splitAt_append_cons, List.filter_append, none, List.append_nil]

theorem toList_path_none (collection : Collection) :
    (collection.path none).toList =
      collection.basePath.toList ++ '/' :: collection.resourceName.toList := by
  simp [path, String.toList_append]

theorem toList_path_some (collection : Collection) (name : String) :
    (collection.path (some name)).toList =
      collection.basePath.toList ++
        '/' :: ("namespaces".toList ++ '/' :: (name.toList ++ '/' ::
          collection.resourceName.toList)) := by
  simp [path, String.toList_append]

/-- The parts between the API's path and the name. -/
def scopeParts : Option String → List String
  | some name => ["namespaces", name]
  | none => []

/-- Between its slashes the path of a collection has the parts of its base, those of the namespace,
and the name. -/
theorem splitAt_path (unbroken : collection.Unbroken scope) :
    Text.splitAt '/' (collection.path scope).toList =
      Text.splitAt '/' collection.basePath.toList ++ (scopeParts scope).map String.toList ++
        [collection.resourceName.toList] := by
  have last := Text.splitAt_of_not_mem unbroken.resource
  cases scope with
  | none => rw [toList_path_none, Text.splitAt_append_cons, last, scopeParts, List.map_nil,
      List.append_nil]
  | some name =>
    have whole : '/' ∉ name.toList := unbroken.scope name rfl
    rw [toList_path_some, Text.splitAt_append_cons, Text.splitAt_append (by decide),
      Text.splitAt_append whole, last, List.append_assoc]
    rfl

/-- A path that is spelled so is that of its segments. -/
theorem IsSpelled.path_eq (spelled : collection.IsSpelled) (scope : Option String) :
    collection.path scope =
      segmentsText (collection.apiParts ++ scopeParts scope ++ [collection.resourceName]) := by
  have base : collection.basePath =
      String.join (collection.apiParts.map fun part => "/" ++ part) := spelled
  have inside : "/namespaces/" = "/" ++ ("namespaces" ++ "/") := by decide
  cases scope <;>
    simp only [path, base, inside, scopeParts, segmentsText, List.map_append, List.map_cons,
      List.map_nil, String.join_append, String.join_cons, String.join_nil, String.append_assoc,
      List.append_nil, String.append_empty]

end Collection

/-! ## From paths to URLs -/

namespace Client

variable {client other : Client}

theorem segments_eq (client : Client) (scope : Option String) :
    client.segments scope =
      client.collection.apiParts ++ Collection.scopeParts scope ++
        [client.collection.resourceName] := by
  cases scope <;> rfl

/-- What paths that are the same have in common before their last slash. -/
private theorem front_eq_of_path {scope scope' : Option String}
    (unbroken : client.collection.Unbroken scope) (unbroken' : other.collection.Unbroken scope')
    (same : client.collection.path scope = other.collection.path scope') :
    Text.splitAt '/' client.collection.basePath.toList ++
        (Collection.scopeParts scope).map String.toList =
      Text.splitAt '/' other.collection.basePath.toList ++
        (Collection.scopeParts scope').map String.toList ∧
      client.collection.resourceName = other.collection.resourceName := by
  have parts := Collection.splitAt_path unbroken
  rw [same, Collection.splitAt_path unbroken'] at parts
  obtain ⟨front, last⟩ := List.append_inj' parts (by simp only [List.length_singleton])
  exact ⟨front.symm, (String.toList_injective (List.singleton_inj.mp last)).symm⟩

/-- In a namespace the parts are those of the collection with two more before the name, even if the
namespace is taken for parts of the API's path. -/
private theorem segments_eq_of_inside {name : String}
    (unbroken : client.collection.Unbroken none) (inside : other.collection.Unbroken (some name))
    (same : client.collection.path none = other.collection.path (some name)) :
    client.segments none = other.segments (some name) := by
  obtain ⟨front, resource⟩ := front_eq_of_path unbroken inside same
  rw [show Collection.scopeParts none = [] from rfl, List.map_nil, List.append_nil] at front
  have some : name ≠ "" := by
    -- Otherwise the base of the first path would end in a slash.
    rintro rfl
    have texts := congrArg String.toList same
    rw [Collection.toList_path_none, Collection.toList_path_some, resource] at texts
    have base : client.collection.basePath.toList =
        other.collection.basePath.toList ++ '/' :: ("namespaces".toList ++ ['/']) := by
      refine List.append_cancel_right (texts.trans ?_)
      simp
    refine client.collection.getLast?_basePath ?_
    rw [base]
    simp
  have kept : ((Collection.scopeParts (.some name)).map String.toList).filter (· ≠ []) =
      (Collection.scopeParts (.some name)).map String.toList := by
    simp [Collection.scopeParts, some]
  have read : String.ofList ∘ String.toList = id := funext fun _ => String.ofList_toList
  rw [segments_eq, segments_eq, resource, Collection.apiParts_eq, Collection.apiParts_eq, front,
    List.filter_append, kept, List.map_append, List.map_map, read, List.map_id]
  simp [Collection.scopeParts]

/-- One path stands for one place, if no name holds a slash. -/
theorem segments_eq_of_path (unbroken : client.collection.Unbroken client.scope)
    (unbroken' : other.collection.Unbroken other.scope) (same : client.path = other.path) :
    client.segments client.scope = other.segments other.scope := by
  unfold path at same
  have alike (length : (Collection.scopeParts client.scope).length =
      (Collection.scopeParts other.scope).length) :
      client.segments client.scope = other.segments other.scope := by
    obtain ⟨front, resource⟩ := front_eq_of_path unbroken unbroken' same
    obtain ⟨base, scope⟩ := List.append_inj' front (by simpa using length)
    have texts : Function.Injective String.toList := fun _ _ => String.toList_injective
    have scope := List.map_injective_iff.mpr texts scope
    rw [segments_eq, segments_eq, resource, Collection.apiParts_eq, Collection.apiParts_eq, base,
      scope]
  cases scope : client.scope with
  | none =>
    rw [scope] at unbroken same alike
    cases scope' : other.scope with
    | none => rw [scope'] at alike; exact alike rfl
    | some name' =>
      rw [scope'] at unbroken' same
      exact segments_eq_of_inside unbroken unbroken' same
  | some name =>
    rw [scope] at unbroken same alike
    cases scope' : other.scope with
    | none =>
      rw [scope'] at unbroken' same
      exact (segments_eq_of_inside unbroken' unbroken same.symm).symm
    | some name' => rw [scope'] at alike; exact alike rfl

/-! ## From URLs to paths -/

/-- The URL of a collection is made of its server and its segments. -/
theorem collectionUrl_congr (server : client.server = other.server)
    (segments : client.segments client.scope = other.segments other.scope) :
    client.collectionUrl client.scope = other.collectionUrl other.scope := by
  unfold collectionUrl
  rw [server, segments]

/-- The collection has a name, each of its parts is a segment of its own, and the API's path is
spelled with one slash before each of them. -/
structure IsSpelled (client : Client) : Prop where
  named : client.collection.resourceName ≠ ""
  base : client.collection.IsSpelled
  plain : ∀ part ∈ client.segments client.scope, IsPlain part
  undriven : client.server.scheme = "file" →
    ∀ part ∈ client.segments client.scope, isDriveLetter part = false

theorem IsSpelled.collectionUrl_path (spelled : client.IsSpelled) {list : List String}
    (divided : client.server.path = .segments list) :
    ∃ url, client.collectionUrl client.scope = .ok url ∧
      url.path = .segments (pushFront client.server.scheme (popIfEmpty list) ++
        (client.segments client.scope).map (segmentOf client.server.scheme)) := by
  have parts : client.parts client.scope none = client.segments client.scope := List.append_nil _
  obtain ⟨url, found⟩ : ∃ url, client.collectionUrl client.scope = .ok url := by
    unfold collectionUrl
    rw [divided]
    exact ⟨_, rfl⟩
  have place : client.placeUrl client.scope none = .ok url := found
  have path := placeUrl_segments divided spelled.named (parts.symm ▸ spelled.plain)
    (parts.symm ▸ spelled.undriven) place
  rw [parts] at path
  exact ⟨url, found, path⟩

/-- A place has one path, if its parts are spelled. -/
theorem path_eq_of_collectionUrl (server : client.server = other.server)
    (divided : client.server.isBase = true) (spelled : client.IsSpelled)
    (spelled' : other.IsSpelled)
    (same : client.collectionUrl client.scope = other.collectionUrl other.scope) :
    client.path = other.path := by
  obtain ⟨list, path⟩ : ∃ list, client.server.path = .segments list := by
    unfold Url.isBase at divided
    split at divided
    next list path => exact ⟨list, path⟩
    next => cases divided
  obtain ⟨url, found, front⟩ := spelled.collectionUrl_path path
  obtain ⟨url', found', front'⟩ := spelled'.collectionUrl_path (server ▸ path)
  rw [found, found'] at same
  cases same
  rw [front, ← server] at front'
  have segments := List.map_injective_iff.mpr (segmentOf_injective client.server.scheme)
    (List.append_cancel_left (UrlPath.segments.inj front'))
  rw [Client.path, Client.path, spelled.base.path_eq, spelled'.base.path_eq, ← segments_eq,
    ← segments_eq, segments]

end Client

end ListWatch
