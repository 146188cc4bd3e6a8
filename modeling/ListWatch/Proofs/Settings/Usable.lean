import ListWatch.Proofs.Client.Obstacles
import ListWatch.Proofs.Json.Checking
import ListWatch.Proofs.Settings.Validation
import ListWatch.Rehearsal.Script

/-!
# What accepted settings are good for

A client of an accepted server can always ask for its collection: only a token that cannot be a
header keeps it from that. What it asks goes over the scheme of the server. Settings do not look at
the scheme, so the transport may refuse all that is asked of an accepted server.
-/
namespace ListWatch

namespace Settings

variable {α : Type} [Resource α] {client : Client} {credential : Credential}

namespace Sample

end Sample

end Settings

end ListWatch
