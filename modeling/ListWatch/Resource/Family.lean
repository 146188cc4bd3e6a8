import ListWatch.Resource.Untyped

/-!
# Families of resource types

A family names the resource types that a registry may hold side by side. The
name of a type is what diagnostics call it.
-/
namespace ListWatch

class ResourceFamily (κ : Type) where
  Carrier : κ → Type
  resource : (kind : κ) → Resource (Carrier kind)
  name : κ → String

instance {κ : Type} [ResourceFamily κ] (kind : κ) : Resource (ResourceFamily.Carrier kind) :=
  ResourceFamily.resource kind

/-- The family of untyped objects alone. -/
instance : ResourceFamily Unit where
  Carrier _ := UntypedObject
  resource _ := inferInstance
  name _ := "UntypedObject"

end ListWatch
