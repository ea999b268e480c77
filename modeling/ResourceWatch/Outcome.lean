import ResourceWatch.Clock
import ResourceWatch.Failure

/-!
What comes of waiting: when a wait is over and why. A wait can be bounded by a stop signal and by a
deadline.
-/

namespace ResourceWatch

inductive Ended (α : Type) where
  | value (value : α)
  | failed (failure : Failure)
  | stopped

/-- When and how something ends; none if it never does. -/
abbrev Outcome (α : Type) := Option (Time × Ended α)

namespace Outcome

variable {α β : Type}

def ofExcept (event : Option (Time × Except Failure α)) : Outcome α :=
  event.map fun (time, result) =>
    match result with
    | .ok value => (time, .value value)
    | .error failure => (time, .failed failure)

/-- Goes on with a value from the time at which it is there. -/
def andThen (outcome : Outcome α) (next : Time → α → Outcome β) : Outcome β :=
  match outcome with
  | none => none
  | some (time, .value value) => next time value
  | some (time, .failed failure) => some (time, .failed failure)
  | some (time, .stopped) => some (time, .stopped)

/-- When it is over. -/
def time? (outcome : Outcome α) : Option Time :=
  outcome.map Prod.fst

end Outcome

/-- What ends a wait before that which is waited for. -/
structure Bounds where
  stop : Option Time := none
  deadline : Option Deadline := none

namespace Bounds

variable {α : Type}

/-- Waits from `now` on. Of several things at the same time the stop signal comes first, then the
deadline. -/
def waitFor (bounds : Bounds) (now : Time) (event : Option (Time × Except Failure α)) : Outcome α :=
  Clock.sooner (bounds.stop.map fun stop => (max now stop, .stopped))
    (Clock.sooner
      (bounds.deadline.map fun deadline =>
        (max now deadline.expiry, .failed (.timedOut deadline.limit)))
      (Outcome.ofExcept event))

end Bounds

end ResourceWatch
