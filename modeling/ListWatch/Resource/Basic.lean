import ListWatch.Resource.Metadata

/-!
# Resource types

A resource type is read by a schema, has metadata, and may be written. Nothing
else of an object is ever looked at.
-/
namespace ListWatch

open Json (Value Members Schema Form)

class Resource (α : Type) where
  schema : Schema
  ofNormal : Value → α
  metadata : α → Metadata
  /-- The document written for an object, or why there is none. -/
  encode : α → Except String Value

def Resource.key {α : Type} [Resource α] (object : α) : Key :=
  Key.ofMetadata (Resource.metadata object)

def Resource.decode (α : Type) [Resource α] (bytes : List UInt8) : Except Json.Fault α :=
  ((Resource.schema α).decode bytes).map Resource.ofNormal

def Resource.ofValue (α : Type) [Resource α] (value : Value) : Except Json.Fault α :=
  (value.check (Resource.schema α)).map Resource.ofNormal

def metadataSchema : Schema := Form.schema Metadata

end ListWatch
