import ListWatch.Resource.Family
import ListWatch.Synchronizer.Control

/-!
# Registries of synchronizers

A registry keeps one synchronizer for each path, in the order of the paths. A
path belongs to the resource type it was first registered with; registering it
again gives the same synchronizer, or is refused for another type. All of them
speak to one server under the same options.
-/
namespace ListWatch

open ResourceFamily (Carrier)

structure Store (κ : Type) [ResourceFamily κ] where
  path : String
  kind : κ
  synchronizer : Synchronizer (Carrier kind)

/-- An effect of the synchronizer at a path. -/
structure StoreEffect (κ : Type) [ResourceFamily κ] where
  path : String
  kind : κ
  effect : Effect (Carrier kind)

structure TypeMismatch (κ : Type) where
  path : String
  requested : κ
  deriving DecidableEq, Repr

variable {κ : Type} [ResourceFamily κ]

def TypeMismatch.message (mismatch : TypeMismatch κ) : String :=
  "collection " ++ mismatch.path ++ " is registered with another resource type ("
    ++ ResourceFamily.name mismatch.requested ++ ")"

namespace Store

/-- The store after a turn of its synchronizer, and the effects of the turn. -/
def after (store : Store κ) (turn : Turn (Carrier store.kind)) : Store κ × List (StoreEffect κ) :=
  ({ store with synchronizer := turn.synchronizer },
    turn.effects.map fun effect => { path := store.path, kind := store.kind, effect })

def phase (store : Store κ) : Phase := store.synchronizer.phase

def start (store : Store κ) : Store κ × List (StoreEffect κ) :=
  store.after store.synchronizer.start.1

def stop (store : Store κ) : Store κ × List (StoreEffect κ) :=
  store.after store.synchronizer.stop.1

def step (credential : Credential) (signal : Signal) (store : Store κ) :
    Option (Store κ × List (StoreEffect κ)) :=
  (store.synchronizer.step credential signal).map store.after

end Store

structure Stores (κ : Type) [ResourceFamily κ] where
  server : Url
  options : Options
  /-- In ascending order of the paths. -/
  entries : List (Store κ) := []

namespace Stores

def find? (stores : Stores κ) (path : String) : Option (Store κ) :=
  stores.entries.find? fun store => decide (store.path = path)

def collections (stores : Stores κ) : List String := stores.entries.map Store.path

def phases (stores : Stores κ) : List (String × Phase) :=
  stores.entries.map fun store => (store.path, store.phase)

def description (stores : Stores κ) : String :=
  "ResourceStores \x7b server: " ++ Text.quoted stores.server.render ++ ", collections: ["
    ++ ", ".intercalate (stores.collections.map Text.quoted) ++ "] \x7d"

/-- Puts a store where its path belongs. -/
def insert (store : Store κ) : List (Store κ) → List (Store κ)
  | [] => [store]
  | other :: rest =>
    if store.path < other.path then store :: other :: rest else other :: insert store rest

/-- The registry with the collection in it, and the path under which its synchronizer is found. -/
def register [DecidableEq κ] (stores : Stores κ) (collection : Collection) (scope : Option String)
    (kind : κ) : Except (TypeMismatch κ) (Stores κ × String) :=
  let path := collection.path scope
  match stores.find? path with
  | some store =>
    if store.kind = kind then .ok (stores, path) else .error { path, requested := kind }
  | none =>
    let client : Client := { server := stores.server, collection, scope }
    let store : Store κ := { path, kind, synchronizer := .create client stores.options }
    .ok ({ stores with entries := insert store stores.entries }, path)

/-- Puts a store in the place of the one at its path. -/
def replace (stores : Stores κ) (store : Store κ) : Stores κ :=
  { stores with
    entries := stores.entries.map fun other => if other.path = store.path then store else other }

/-- Acts on the store at a path, if there is one and it takes part. -/
def act (stores : Stores κ) (path : String)
    (action : Store κ → Option (Store κ × List (StoreEffect κ))) :
    Option (Stores κ × List (StoreEffect κ)) :=
  ((stores.find? path).bind action).map fun (store, effects) => (stores.replace store, effects)

/-- Acts on every store. -/
def actOnAll (stores : Stores κ) (action : Store κ → Store κ × List (StoreEffect κ)) :
    Stores κ × List (StoreEffect κ) :=
  let acted := stores.entries.map action
  ({ stores with entries := acted.map Prod.fst }, acted.flatMap Prod.snd)

/-- Starts every synchronizer that has no run, and tells how many were started. -/
def startAll (stores : Stores κ) : Stores κ × List (StoreEffect κ) × Nat :=
  let (started, effects) := stores.actOnAll Store.start
  (started, effects, stores.entries.countP fun store => store.synchronizer.start.2)

/-- Stops every synchronizer, and tells how many had a run. -/
def stopAll (stores : Stores κ) : Stores κ × List (StoreEffect κ) × Nat :=
  let (stopped, effects) := stores.actOnAll Store.stop
  (stopped, effects, stores.entries.countP fun store => store.synchronizer.stop.2)

end Stores

end ListWatch
