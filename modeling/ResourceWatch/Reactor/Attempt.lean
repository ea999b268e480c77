import ResourceWatch.Reactor.Throttling

/-!
Throttled calls on one throttler, one after another or several at a time.
-/

namespace ResourceWatch

open Throttling

inductive Attempt.State where
  | waiting (stage : Stage)
  | over (time : Time) (succeeded : Bool)

/-- A throttled call that was begun. -/
structure Attempt where
  calledAt : Time
  setting : Setting
  stop : Option Time
  behaviour : Behaviour
  /-- When the call itself was made, if it was. -/
  ranAt : Option Time := none
  state : Attempt.State

namespace Attempt

def due? (attempt : Attempt) : Option Time :=
  match attempt.state with
  | .waiting stage => stage.due? attempt.stop
  | .over .. => none

def result? (attempt : Attempt) : Option (Time × Bool) :=
  match attempt.state with
  | .waiting _ => none
  | .over time succeeded => some (time, succeeded)

def work (attempt : Attempt) : Nat :=
  match attempt.state with
  | .waiting stage => stage.work
  | .over .. => 0

/-- Follows a step. -/
def proceed (attempt : Attempt) (time : Time) (next : Next) : Attempt :=
  match next with
  | .wait stage => { attempt with state := .waiting stage }
  | .call =>
    { attempt with
      stop := if attempt.behaviour.stops then Clock.earlier attempt.stop (some time)
        else attempt.stop
      ranAt := some time
      state := .waiting (.calling (attempt.behaviour.duration.map (time + ·))
        attempt.behaviour.failure) }
  | .over succeeded => { attempt with state := .over time succeeded }

end Attempt

/-- All that was begun on a throttler. -/
structure Attempts where
  now : Time
  throttler : Throttler := {}
  attempts : List Attempt := []
  log : List Log.Record := []

namespace Attempts

/-- The first of the attempts to go on, and when. -/
def soonest? (number : Nat) : List Attempt → Option (Time × Nat)
  | [] => none
  | attempt :: rest =>
    Clock.sooner (attempt.due?.map fun due => (due, number)) (soonest? (number + 1) rest)

/-- Begins a throttled call. -/
def start (state : Attempts) (setting : Setting) (stop : Option Time) (behaviour : Behaviour) :
    Attempts :=
  let step := Setting.enter state.throttler state.now
  let attempt : Attempt :=
    { calledAt := state.now, setting, stop, behaviour, state := .over state.now false }
  { state with
    attempts := state.attempts ++ [attempt.proceed state.now step.next]
    log := state.log ++ step.log }

/-- Takes the step at the end of an attempt's stage. -/
def fire (state : Attempts) (number : Nat) (time : Time) : Attempts :=
  match state.attempts[number]? with
  | none => state
  | some attempt =>
    match attempt.state with
    | .over .. => state
    | .waiting stage =>
      let step := attempt.setting.fire attempt.stop state.throttler time stage
      { now := time
        throttler := step.throttler
        attempts := state.attempts.set number (attempt.proceed time step.next)
        log := state.log ++ step.log }

def workOf : List Attempt → Nat
  | [] => 0
  | attempt :: rest => attempt.work + workOf rest

/-- How many steps all attempts take at most. -/
def work (state : Attempts) : Nat :=
  workOf state.attempts

/-- Takes steps until there are none, or the next one is not to be taken. -/
def advanceBy (isDone : Attempts → Time → Bool) : Nat → Attempts → Attempts
  | 0, state => state
  | steps + 1, state =>
    match soonest? 0 state.attempts with
    | none => state
    | some (due, number) =>
      if isDone state due then state
      else advanceBy isDone steps (state.fire number (max state.now due))

/-- Lets time pass. -/
def wait (state : Attempts) (until_ : Time) : Attempts :=
  { advanceBy (fun _ due => until_ < due) state.work state with now := until_ }

/-- Lets time pass until an attempt is over. -/
def waitFor (state : Attempts) (number : Nat) : Attempts :=
  advanceBy (fun state _ => state.attempts[number]?.any fun attempt => attempt.result?.isSome)
    state.work state

/-- The category of the records of calls that are not made for something else. -/
def category : List Text := ["shoal", "reactor", "throttling"]

end Attempts

end ResourceWatch
