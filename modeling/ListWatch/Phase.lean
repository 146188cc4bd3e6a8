import ListWatch.Failure.Basic

/-!
# Phases of a synchronizer

A synchronizer starts from idle or stopped, watches once its list came in, fails
from there or from the list, and starts over after a failure. It may be stopped
at any time. A move that is not allowed is refused and changes nothing.
-/
namespace ListWatch

namespace Phase

def isActive : Phase → Bool
  | .syncing | .watching | .failed => true
  | .idle | .stopped => false

/-- The moves of a phase, apart from stopping. -/
inductive Move where
  | start
  | listed
  | failed
  | retry
  deriving DecidableEq, Repr

def Move.sources : Move → List Phase
  | .start => [.idle, .stopped]
  | .listed => [.syncing]
  | .failed => [.syncing, .watching]
  | .retry => [.failed]

def Move.target : Move → Phase
  | .start | .retry => .syncing
  | .listed => .watching
  | .failed => .failed

def Move.name : Move → String
  | .start => "start"
  | .listed => "on_listed"
  | .failed => "on_failed"
  | .retry => "on_retry"

/-- The failure that reports a refused move. -/
def refusal (phase : Phase) (move : Move) : Failure :=
  { category := .internal
    code := "invalid_state_transition"
    message :=
      "cannot run '" ++ move.name ++ "' while synchronizer is in phase " ++ phase.name }

def move (phase : Phase) (move : Move) : Except Failure Phase :=
  if phase ∈ move.sources then .ok move.target else .error (phase.refusal move)

end Phase

end ListWatch
