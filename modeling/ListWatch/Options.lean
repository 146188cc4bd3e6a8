import ListWatch.Backoff

/-!
# Options of a synchronizer
-/
namespace ListWatch

/-- Seconds the server is given to answer a list. -/
def defaultListTimeout : Nat := 10

def defaultEventBuffer : Nat := 256

structure Options where
  backoff : Backoff := .fixed defaultRelistDelay.toNat
  listTimeoutSeconds : Nat := defaultListTimeout
  eventBuffer : Nat := defaultEventBuffer
  deriving DecidableEq, Repr

def Options.description (options : Options) : String :=
  "SyncOptions \x7b retry: RetryPolicy \x7b base_delay_ms: " ++ toString options.backoff.base.toNat
    ++ ", max_delay_ms: " ++ toString options.backoff.greatest.toNat
    ++ " \x7d, list_timeout_seconds: " ++ toString options.listTimeoutSeconds
    ++ ", event_buffer: " ++ toString options.eventBuffer ++ " \x7d"

end ListWatch
