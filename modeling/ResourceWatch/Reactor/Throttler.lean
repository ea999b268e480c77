import ResourceWatch.Log.Record

/-!
Error throttling: how long a resource is not handled after a failure. Consecutive failures use up a
list of delays, of which the last one repeats.
-/

namespace ResourceWatch

/-- Empty while the resource is handled normally. -/
structure Throttler where
  /-- Until when the resource is not handled. -/
  activeUntil : Option Number := none
  lastUsedDelayMs : Option Number := none
  /-- The delays that were not used yet. -/
  pendingDelaysMs : Option (List Number) := none

namespace Throttler

/-- The delay is over. -/
def rested (throttler : Throttler) : Throttler :=
  { throttler with activeUntil := none }

/-- A success ends throttling. -/
def succeeded (throttler : Throttler) : Throttler :=
  { throttler with lastUsedDelayMs := none, pendingDelaysMs := none }

/-- The delays that are left, all of them at the first failure. -/
def pending (throttler : Throttler) (delays : List Number) : List Number :=
  throttler.pendingDelaysMs.getD delays

/-- The delay after a failure: the next one, or the last one used. -/
def nextDelay? (throttler : Throttler) (delays : List Number) : Option Number :=
  (throttler.pending delays).head?.or throttler.lastUsedDelayMs

/-- A failure uses up a delay, if there is one. -/
def failed (throttler : Throttler) (delays : List Number) (now : Time) : Throttler :=
  match throttler.nextDelay? delays with
  | none => { throttler with pendingDelaysMs := some (throttler.pending delays).tail }
  | some delay =>
    { activeUntil := some (Number.add (.ofInt now) delay)
      lastUsedDelayMs := some delay
      pendingDelaysMs := some (throttler.pending delays).tail }

end Throttler

end ResourceWatch
