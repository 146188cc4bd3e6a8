import ListWatch.Resource.Basic

/-!
# Lists of objects

The body of a list answer: the version at which the collection was read, and its
objects in the server's order.
-/
namespace ListWatch

open Json (Value Schema Form)

structure ListMetadata where
  resourceVersion : Option String := none
  deriving DecidableEq, Repr, Inhabited

namespace ListMetadata

def toValue (metadata : ListMetadata) : Value :=
  .object (Json.Presence.omissible.member "resourceVersion"
    (.ofOption .string metadata.resourceVersion))

instance : Form ListMetadata where
  schema := .record "struct ListMeta" [("resourceVersion", .omissible, .text)]
  ofNormal value :=
    { resourceVersion := (value.field "resourceVersion").toOption Value.toText }
  toValue := toValue

end ListMetadata

structure ObjectList (α : Type) where
  resourceVersion : Option String
  items : List α
  deriving DecidableEq, Repr, Inhabited

namespace ObjectList

variable {α : Type} [Resource α]

def schema (α : Type) [Resource α] : Schema :=
  .record "struct ResourceList"
    [("metadata", .default (.object []), Form.schema ListMetadata),
      ("items", .default (.list []), .list (Resource.schema α))]

def ofNormal (value : Value) : ObjectList α :=
  { resourceVersion := (Form.ofNormal (value.field "metadata") : ListMetadata).resourceVersion
    items := (value.field "items").toList.map Resource.ofNormal }

def decode (α : Type) [Resource α] (bytes : List UInt8) : Except Json.Fault (ObjectList α) :=
  ((schema α).decode bytes).map ofNormal

/-- The document written for a list, or why one of its objects cannot be written. -/
def encode (list : ObjectList α) : Except String Value := do
  let items ← list.items.mapM Resource.encode
  return .object
    [("metadata", ListMetadata.toValue ⟨list.resourceVersion⟩), ("items", .list items)]

end ObjectList

end ListWatch
