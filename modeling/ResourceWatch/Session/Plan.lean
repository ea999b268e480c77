import ResourceWatch.Log.Value
import ResourceWatch.Session

/-!
A consumer that knows beforehand what it does at which item.
-/

namespace ResourceWatch

/-- The numbers of items count from one. -/
structure Plan where
  /-- The item at which it gives the stop signal. -/
  stopAfter : Option Nat := none
  /-- The item at which it fails. -/
  throwAfter : Option Nat := none
  /-- The item at which it leaves. -/
  breakAfter : Option Nat := none
  /-- How long it holds each item. -/
  pauses : List Nat := []

namespace Plan

structure State where
  taken : Nat := 0
  /-- When the stop signal comes. -/
  stop : Option Time := none
  failed : Bool := false

/-- At an item the stop signal comes first, then the failure, then the leaving, then the pause. -/
def consumer {α : Type} (plan : Plan) : Consumer State α := fun state now _ =>
  let taken := state.taken + 1
  let stop := if plan.stopAfter = some taken then Clock.earlier state.stop (some now) else state.stop
  let failed := plan.throwAfter = some taken
  let leaves := failed || plan.breakAfter = some taken
  let pause := if leaves then none else some (plan.pauses.getD state.taken 0)
  (⟨taken, stop, failed⟩, { pause, stop })

/-- What it fails with. -/
def error : Thrown := .error "Error" "consumer failed"

end Plan

end ResourceWatch
