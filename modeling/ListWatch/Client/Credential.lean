/-!
# Credentials

A credential gives the bearer token of a request, or none. It is asked once for
every request, so a shared token that was changed counts from the next request
on. An empty token is none. What a credential shows of itself never depends on
the token beyond its presence.
-/
namespace ListWatch

inductive Credential where
  | anonymous
  | fixed (token : String)
  | shared (token : Option String)
  deriving DecidableEq, Repr, Inhabited

namespace Credential

def bearer : Credential → Option String
  | .anonymous => none
  | .fixed token => some token |>.filter fun text => text ≠ ""
  | .shared token => token.filter fun text => text ≠ ""

/-- Puts a token into a shared credential; the others are as they were made. -/
def store (token : Option String) : Credential → Credential
  | .shared _ => .shared token
  | other => other

def description : Credential → String
  | .anonymous => "Anonymous"
  | .fixed _ => "StaticToken(<redacted>)"
  | .shared token =>
    "SharedToken \x7b present: " ++ toString (Credential.shared token).bearer.isSome ++ " \x7d"

end Credential

end ListWatch
