import ResourceWatch.Number

/-!
Times in milliseconds, timers, and waits that end with the first of several things.
-/

namespace ResourceWatch

abbrev Time := Int

namespace Clock

/-- The longest wait that a timer takes. -/
def longestTimer : Number := 2147483647

/-- How long a timer really waits: whole milliseconds, and one if the delay is out of range. -/
def timer (delay : Number) : Nat :=
  if Number.le 1 delay && Number.le delay longestTimer then
    match delay.truncate? with
    | some whole => whole.toNat
    | none => 1
  else 1

/-- The earlier of two times that may never come. -/
def earlier : Option Time → Option Time → Option Time
  | some first, some second => some (min first second)
  | some first, none => some first
  | none, second => second

/-- Whether a time has come. -/
def reached (time : Option Time) (now : Time) : Bool :=
  match time with
  | some time => time ≤ now
  | none => false

/-- The first of two things that may never come; of two at the same time the one given first. -/
def sooner {α : Type} : Option (Time × α) → Option (Time × α) → Option (Time × α)
  | some first, some second => if second.1 < first.1 then some second else some first
  | some first, none => some first
  | none, second => second

end Clock

/-- A time limit of an operation and when it runs out. -/
structure Deadline where
  limit : Number
  expiry : Time

namespace Deadline

def start? (now : Time) (limit : Option Number) : Option Deadline :=
  limit.map fun limit => ⟨limit, now + Clock.timer limit⟩

/-- Whether the limit has run out by the end of the operation, which may have none. -/
def isOver (deadline : Option Deadline) (ended : Option Time) : Bool :=
  match deadline, ended with
  | none, _ => false
  | some _, none => true
  | some deadline, some time => deadline.expiry ≤ time

/-- When its timer fires, if it is still set behind the operation: it is cleared at the end. -/
def timer? (deadline : Option Deadline) (ended : Option Time) : Option Time :=
  match ended with
  | none => deadline.map expiry
  | some _ => none

end Deadline

end ResourceWatch
