import ListWatch.Event.Change
import ListWatch.Resource.List

/-!
# Replicas

A replica holds the objects of one collection in the server's order. A list
replaces all of them. A change appends, replaces in place or removes the first
object of its key, and says which; every other change leaves the objects as they
are. A snapshot is a replica as it was at one moment.
-/
namespace ListWatch

inductive Outcome where
  | appended
  | replaced
  | removed
  /-- A modified object whose key is not held. -/
  | missingKey
  | unchanged
  deriving DecidableEq, Repr, Inhabited

namespace Outcome

def all : List Outcome := [.appended, .replaced, .removed, .missingKey, .unchanged]

def name : Outcome → String
  | .appended => "Appended"
  | .replaced => "Replaced"
  | .removed => "Removed"
  | .missingKey => "MissingKey"
  | .unchanged => "Unchanged"

instance : Json.Form Outcome := Json.Form.ofNames all name .unchanged

/-- Whether the objects held are different now. -/
def mutated : Outcome → Bool
  | .appended | .replaced | .removed => true
  | .missingKey | .unchanged => false

end Outcome

structure Replica (α : Type) where
  items : List α := []
  freshness : Freshness := .idle
  resourceVersion : Option String := none
  deriving DecidableEq, Repr, Inhabited

/-- What a replica held at one moment. -/
abbrev Snapshot (α : Type) := Replica α

namespace Replica

variable {α : Type}

def empty : Replica α := {}

def setFreshness (replica : Replica α) (freshness : Freshness) : Replica α :=
  { replica with freshness }

def replaceAll (_ : Replica α) (list : ObjectList α) : Replica α :=
  { items := list.items, freshness := .synced, resourceVersion := list.resourceVersion }

variable [Resource α]

def keys (replica : Replica α) : List Key := replica.items.map Resource.key

def hasKey (key : Key) (object : α) : Bool := decide (Resource.key object = key)

def position? (replica : Replica α) (key : Key) : Option Nat :=
  replica.items.findIdx? (hasKey key)

def get? (replica : Replica α) (key : Key) : Option α := replica.items.find? (hasKey key)

def apply (replica : Replica α) : Change α → Replica α × Outcome
  | .added object => ({ replica with items := replica.items ++ [object] }, .appended)
  | .modified object =>
    match replica.position? (Resource.key object) with
    | some index => ({ replica with items := replica.items.set index object }, .replaced)
    | none => (replica, .missingKey)
  | .deleted object =>
    match replica.position? (Resource.key object) with
    | some index => ({ replica with items := replica.items.eraseIdx index }, .removed)
    | none => (replica, .unchanged)
  | .bookmark _ | .error _ | .unknown _ => (replica, .unchanged)

end Replica

end ListWatch
