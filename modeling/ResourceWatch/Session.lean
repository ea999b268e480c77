import ResourceWatch.Log.Record

/-!
A sequence of items that is handed over to a consumer, one item at a time. The consumer may hold
each item for some time, bring forward the stop signal, or leave.
-/

namespace ResourceWatch

/-- What a consumer does with an item. -/
structure Reaction where
  /-- How long it holds the item before it asks for the next one; none if it leaves. -/
  pause : Option Nat
  /-- When the stop signal comes, as far as that is known now. -/
  stop : Option Time
  log : List Log.Record := []

abbrev Consumer (σ α : Type) := σ → Time → α → σ × Reaction

structure Session (σ α : Type) where
  now : Time
  stop : Option Time
  state : σ
  /-- The items that were handed over, with the times. -/
  items : List (Time × α) := []
  log : List Log.Record := []
  /-- Whether the consumer has left. -/
  left : Bool := false

namespace Session

variable {σ α : Type}

def isStopped (session : Session σ α) : Bool :=
  Clock.reached session.stop session.now

def wait (session : Session σ α) (time : Time) : Session σ α :=
  { session with now := time }

def write (session : Session σ α) (records : List Log.Record) : Session σ α :=
  { session with log := session.log ++ records }

/-- Hands an item over. A stop signal that has come is never taken back. -/
def offer (consumer : Consumer σ α) (session : Session σ α) (value : α) : Session σ α :=
  let (state, reaction) := consumer session.state session.now value
  { now := session.now + (reaction.pause.getD 0 : Nat)
    stop := if session.isStopped then session.stop else reaction.stop.map (max session.now)
    state
    items := session.items ++ [(session.now, value)]
    log := session.log ++ reaction.log
    left := reaction.pause.isNone }

/-- Hands items over until the consumer leaves. -/
def offerAll (consumer : Consumer σ α) (session : Session σ α) : List α → Session σ α
  | [] => session
  | value :: rest =>
    let session := session.offer consumer value
    if session.left then session else session.offerAll consumer rest

end Session

end ResourceWatch
