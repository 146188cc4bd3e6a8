import ListWatch.Resource.Basic

/-!
# Untyped objects

An untyped object keeps every member beside its metadata as it was read.
-/
namespace ListWatch

open Json (Value Members Schema Form)

structure UntypedObject where
  metadata : Metadata := {}
  fields : Members := []
  deriving DecidableEq, Repr, Inhabited

namespace UntypedObject

def named (scope : Option String) (name : String) : UntypedObject :=
  { metadata := { name := some name, scope := scope } }

def withField (key : String) (value : Value) (object : UntypedObject) : UntypedObject :=
  { object with fields := Json.setMember key value object.fields }

instance : Form UntypedObject where
  schema := .extensible "struct DynamicObject" [("metadata", .default (.object []), metadataSchema)]
  ofNormal value :=
    { metadata := .ofNormal (value.field "metadata")
      fields := Json.withoutNames ["metadata"] value.toMembers }
  toValue object := .object (("metadata", object.metadata.toValue) :: object.fields)

instance : Resource UntypedObject where
  schema := Form.schema UntypedObject
  ofNormal := Form.ofNormal
  metadata := metadata
  encode object := .ok (Form.toValue object)

end UntypedObject

end ListWatch
