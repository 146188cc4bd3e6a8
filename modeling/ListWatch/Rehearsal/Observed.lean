import ListWatch.Observer
import ListWatch.Rehearsal.World

/-!
# Observed synchronizers

The synchronizer at a path of a world, and an observer of it that has its turn
whenever the run waits.
-/
namespace ListWatch.Rehearsal

variable {κ : Type} [ResourceFamily κ]

namespace World

open ResourceFamily (Carrier)

/-- Has somebody read from the outlet at a path. -/
def readFrom {β : Type} (world : World κ) (path : String)
    (read : (kind : κ) → Outlet (Carrier kind) → Outlet (Carrier kind) × β) :
    World κ × Option β :=
  match world.stores.find? path with
  | none => (world, none)
  | some store =>
    let (outlet, result) := read store.kind store.synchronizer.outlet
    let synchronizer := { store.synchronizer with outlet }
    ({ world with stores := world.stores.replace { store with synchronizer } }, some result)

end World

structure Observed (κ : Type) [ResourceFamily κ] where
  world : World κ
  path : String
  observer : Observer

namespace Observed

def ofWorld (world : World κ) (path : String) : Option (Observed κ) :=
  match world.readFrom path fun _ outlet => Observer.subscribe outlet with
  | (world, some observer) => some { world, path, observer }
  | (_, none) => none

def observe (observed : Observed κ) : Observed κ :=
  match observed.world.readFrom observed.path fun _ outlet => observed.observer.observe outlet with
  | (world, some observer) => { observed with world, observer }
  | (_, none) => observed

def start (observed : Observed κ) : Observed κ :=
  { observed with world := (observed.world.start observed.path).1 }.observe

def runUntil (limit : Nat) : (fuel : Nat) → Observed κ → Observed κ
  | 0, observed => observed
  | fuel + 1, observed =>
    match observed.world.tick? limit with
    | some world => runUntil limit fuel { observed with world }.observe
    | none => observed

/-- Lets time pass. -/
def sleep (observed : Observed κ) (milliseconds : Nat) : Observed κ :=
  let limit := observed.world.now + milliseconds
  let slept := observed.runUntil limit (observed.world.signals limit)
  { slept with world := { slept.world with now := limit } }

end Observed

end ListWatch.Rehearsal
