/-!
# The latest value, for many readers

A new value replaces the one before it. Each reader remembers how many values
had been published when it last looked, so it can tell whether there is a newer
one, but not how many it missed.
-/
namespace ListWatch

structure Latest (σ : Type) where
  current : σ
  version : Nat := 0
  readers : List Nat := []
  deriving DecidableEq, Repr

namespace Latest

variable {σ : Type}

def publish (latest : Latest σ) (value : σ) : Latest σ :=
  { latest with current := value, version := latest.version + 1 }

/-- A new reader and its index. It has seen the current value. -/
def subscribe (latest : Latest σ) : Latest σ × Nat :=
  ({ latest with readers := latest.readers ++ [latest.version] }, latest.readers.length)

/-- Whether a reader has not seen the current value. -/
def changed? (latest : Latest σ) (index : Nat) : Option Bool :=
  latest.readers[index]?.map fun seen => seen ≠ latest.version

def read? (latest : Latest σ) (index : Nat) : Latest σ × Option σ :=
  match latest.readers[index]? with
  | some _ =>
    ({ latest with readers := latest.readers.set index latest.version }, some latest.current)
  | none => (latest, none)

end Latest

end ListWatch
