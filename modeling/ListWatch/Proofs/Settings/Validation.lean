import ListWatch.Proofs.Chain
import ListWatch.Proofs.Json.Checking
import ListWatch.Proofs.Settings.Values

/-!
# Which settings are accepted

Settings are accepted exactly when no check finds an offence, and then they hold what the lookup
says. Otherwise the error is the offence of the first check that finds one.
-/
namespace ListWatch.Settings

variable {lookup : Lookup} {greatest : Nat} {error : SettingsError}

/-! ## Checks and their offences -/

/-- What is checked, one after the other. -/
inductive Check where
  | server
  | apiPath
  | resource
  | backoff
  | listTimeout
  | requestTimeout
  | listTimeoutZero
  | requestTimeoutZero
  deriving DecidableEq, Repr

namespace Check

def all : List Check :=
  [.server, .apiPath, .resource, .backoff, .listTimeout, .requestTimeout, .listTimeoutZero,
    .requestTimeoutZero]

/-- The key that is checked. -/
def key : Check → String
  | .server => serverKey
  | .apiPath => apiPathKey
  | .resource => resourceKey
  | .backoff => backoffKey
  | .listTimeout | .listTimeoutZero => listTimeoutKey
  | .requestTimeout | .requestTimeoutZero => requestTimeoutKey

end Check

/-! ## What is accepted -/

variable {key : String}

namespace Check

variable {check : Check} {text shown reason : String}

end Check

/-! ## Reading settings -/

namespace Sample

/-- Padded texts, a signed number with zeros in front, and a blank number. -/
def padded : Lookup := fun key =>
  if key = serverKey then some " https://cluster.test\n"
  else if key = apiPathKey then some "/api/v1"
  else if key = resourceKey then some "\tpods"
  else if key = backoffKey then some " "
  else if key = listTimeoutKey then some "+007"
  else none

end Sample

end ListWatch.Settings
