import ListWatch.Resource.Basic

/-!
# Devices

A device has metadata and one switch, which is off unless it is given.
-/
namespace ListWatch

open Json (Form)

structure Device where
  metadata : Metadata
  online : Bool
  deriving DecidableEq, Repr, Inhabited

namespace Device

instance : Form Device where
  schema := .record "struct Device"
    [("metadata", .required, metadataSchema), ("online", .default (.boolean false), .flag)]
  ofNormal value :=
    { metadata := .ofNormal (value.field "metadata"), online := (value.field "online").toFlag }
  toValue device :=
    .object [("metadata", device.metadata.toValue), ("online", .boolean device.online)]

instance : Resource Device where
  schema := Form.schema Device
  ofNormal := Form.ofNormal
  metadata := metadata
  encode device := .ok (Form.toValue device)

end Device

end ListWatch
