import ListWatch.Event.Notice
import ListWatch.Outlet.EventBuffer
import ListWatch.Outlet.Latest

/-!
# What observers read

A synchronizer has one outlet for notices, which every reader gets in order, and
one for snapshots, of which only the newest is kept.
-/
namespace ListWatch

structure Outlet (α : Type) where
  notices : EventBuffer Notice
  snapshots : Latest (Snapshot α)
  deriving DecidableEq, Repr

namespace Outlet

variable {α : Type}

def ofSize (size : Nat) : Outlet α :=
  { notices := .ofSize size, snapshots := { current := Replica.empty } }

def emit (outlet : Outlet α) (notice : Notice) : Outlet α :=
  { outlet with notices := outlet.notices.emit notice }

def publish (outlet : Outlet α) (snapshot : Snapshot α) : Outlet α :=
  { outlet with snapshots := outlet.snapshots.publish snapshot }

def current (outlet : Outlet α) : Snapshot α := outlet.snapshots.current

end Outlet

end ListWatch
