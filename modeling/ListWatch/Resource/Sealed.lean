import ListWatch.Resource.Basic

/-!
# Sealed objects

A sealed object is read for its metadata alone and cannot be written.
-/
namespace ListWatch

structure SealedObject where
  metadata : Metadata
  deriving DecidableEq, Repr, Inhabited

namespace SealedObject

instance : Resource SealedObject where
  schema := .record "struct Opaque" [("metadata", .default (.object []), metadataSchema)]
  ofNormal value := { metadata := .ofNormal (value.field "metadata") }
  metadata := metadata
  encode _ := .error "opaque objects cannot be encoded"

end SealedObject

end ListWatch
