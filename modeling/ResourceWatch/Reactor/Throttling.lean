import ResourceWatch.Reactor.Throttler
import ResourceWatch.Log.Value

/-!
Throttled calls: what is left of a throttling delay is waited out first, then the call is made, and
after a failure the next delay is waited out. A stop signal interrupts the waits.
-/

namespace ResourceWatch

/-- What a call does: how long it takes, if it ever settles, what it fails with, and whether it gives
the stop signal at its beginning. -/
structure Behaviour where
  duration : Option Nat := some 0
  failure : Option Thrown := none
  stops : Bool := false

namespace Throttling

/-- How throttled calls are made. -/
structure Setting where
  /-- The delays after consecutive failures. -/
  delays : List Number
  /-- The category of the records. -/
  category : List Text

/-- What a throttled call waits for. -/
inductive Stage where
  | resting (due : Time)
  | calling (due : Option Time) (failure : Option Thrown)
  | cooling (due : Time)

/-- What a throttled call does next. -/
inductive Next where
  | wait (stage : Stage)
  | call
  /-- Whether the call was made and succeeded. -/
  | over (succeeded : Bool)

/-- A step of a throttled call. -/
structure Step where
  throttler : Throttler
  next : Next
  log : List Log.Record := []

namespace Stage

/-- How many steps are left at most. -/
def work : Stage → Nat
  | .resting _ => 3
  | .calling .. => 2
  | .cooling _ => 1

/-- When the stage is over; the stop signal ends a delay. -/
def due? (stage : Stage) (stop : Option Time) : Option Time :=
  match stage with
  | .resting due => Clock.earlier stop (some due)
  | .calling due _ => due
  | .cooling due => Clock.earlier stop (some due)

end Stage

namespace Setting

def record (setting : Setting) (now : Time) (severity : Log.Severity) (message : List Log.Value) :
    Log.Record :=
  { time := now, severity, category := setting.category, message }

def overRecord (setting : Setting) (now : Time) : Log.Record :=
  setting.record now .info [.str "Throttling is over. Switching back to normal operations."]

def failureRecord (setting : Setting) (now : Time) (delay : Option Number) (failure : Thrown) :
    Log.Record :=
  match delay with
  | some delay =>
    setting.record now .error [.str "Throttling for ", .num delay,
      .str "ms due to an unexpected error: ", failure.toValue]
  | none =>
    setting.record now .error
      [.str "Unexpected error, no throttling delays configured: ", failure.toValue]

/-- The first step: a delay that is left over is waited out. -/
def enter (throttler : Throttler) (now : Time) : Step :=
  match throttler.activeUntil with
  | none => ⟨throttler, .call, []⟩
  | some until_ =>
    ⟨throttler, .wait (.resting (now + Clock.timer (Number.sub until_ (.ofInt now)))), []⟩

/-- What follows a call that settles. -/
def settle (setting : Setting) (throttler : Throttler) (now : Time) (failure : Option Thrown) :
    Step :=
  match failure with
  | none => ⟨throttler.succeeded, .over true, []⟩
  | some failure =>
    let delay := throttler.nextDelay? setting.delays
    { throttler := throttler.failed setting.delays now
      next :=
        match delay with
        | some delay => .wait (.cooling (now + Clock.timer delay))
        | none => .over false
      log := [setting.failureRecord now delay failure] }

/-- The step at the end of a stage. A delay that is interrupted leaves the throttler as it is. -/
def fire (setting : Setting) (stop : Option Time) (throttler : Throttler) (now : Time)
    (stage : Stage) : Step :=
  match stage with
  | .resting _ =>
    if Clock.reached stop now then ⟨throttler, .over false, []⟩
    else ⟨throttler.rested, .call, [setting.overRecord now]⟩
  | .calling _ failure => setting.settle throttler now failure
  | .cooling _ =>
    if Clock.reached stop now then ⟨throttler, .over false, []⟩
    else ⟨throttler.rested, .over false, [setting.overRecord now]⟩

end Setting

end Throttling

end ResourceWatch
