import ResourceWatch.Clock
import ResourceWatch.Failure
import ResourceWatch.Text.Utf8

/-!
What a server does with the requests that it gets: a script of replies, one for each request, and
the bodies of the replies as they arrive.
-/

namespace ResourceWatch

/-- A piece of a body and how long after the response it can be read. -/
structure Chunk where
  delay : Nat
  bytes : Bytes

inductive BodyEnd where
  | closed
  | failed (error : Thrown)
  | hanging

structure Body where
  chunks : List Chunk
  /-- How long after the response the body ends. -/
  endDelay : Nat
  ending : BodyEnd

inductive Reply where
  /-- The request is never answered. -/
  | silent
  | refusal (delay : Nat) (error : Thrown)
  | response (delay : Nat) (status : Number) (body : Option Body)

/-- The reply to a request for which the script has none. -/
def Reply.unscripted : Reply :=
  .refusal 0 (.error "Error" "no scripted response")

/-- A chunk and the time from which on it can be read. -/
structure Arrival where
  time : Time
  bytes : Bytes

/-- A body that is arriving. -/
structure Feed where
  chunks : List Arrival
  endTime : Time
  ending : BodyEnd

namespace Feed

/-- A body whose response came at `start`. Its chunks come in the order of their times, and those
that come after its end are lost. -/
def start (body : Body) (start : Time) : Feed where
  chunks :=
    let arrivals := (body.chunks.map fun chunk =>
      Arrival.mk (start + chunk.delay) chunk.bytes).mergeSort fun first second =>
        first.time ≤ second.time
    match body.ending with
    | .hanging => arrivals
    | _ => arrivals.filter (·.time ≤ start + body.endDelay)
  endTime := start + body.endDelay
  ending := body.ending

/-- Whether the body has failed by now. -/
def failure? (feed : Feed) (now : Time) : Option Thrown :=
  match feed.ending with
  | .failed error => if feed.endTime ≤ now then some error else none
  | _ => none

/-- When a read that begins now is answered, if `next` is the first chunk that was not read, and with
which bytes; with none at the end. Chunks that were not read when the body fails are lost. -/
def answer? (feed : Feed) (now : Time) (next : Option Arrival) :
    Option (Time × Except Failure (Option Bytes)) :=
  match feed.failure? now, next with
  | some error, _ => some (now, .error (.external error))
  | none, some chunk => some (max now chunk.time, .ok (some chunk.bytes))
  | none, none =>
    match feed.ending with
    | .closed => some (max now feed.endTime, .ok none)
    | .failed error => some (feed.endTime, .error (.external error))
    | .hanging => none

/-- All the bytes of the body. -/
def bytes (feed : Feed) : Bytes :=
  feed.chunks.flatMap Arrival.bytes

/-- When the whole body is read, if reading begins now, and with which result. -/
def whole? (feed : Feed) (now : Time) : Option (Time × Except Failure Bytes) :=
  match feed.ending with
  | .closed => some (max now feed.endTime, .ok feed.bytes)
  | .failed error => some (max now feed.endTime, .error (.external error))
  | .hanging => none

/-- Whether nothing is left to be read now and nothing will come. -/
def isExhausted (feed : Feed) (now : Time) : Bool :=
  match feed.ending with
  | .closed => feed.endTime ≤ now && feed.chunks.isEmpty
  | _ => false

/-- What is left of the body when this many chunks are read. -/
def drop (feed : Feed) (count : Nat) : Feed :=
  { feed with chunks := feed.chunks.drop count }

end Feed

/-- The head of a response, and its body if it has one. -/
structure Response where
  status : Number
  body : Option Feed

/-- When a request that is sent now is answered, and with what. -/
def Reply.answer? (reply : Reply) (now : Time) : Option (Time × Except Failure Response) :=
  match reply with
  | .silent => none
  | .refusal delay error => some (now + delay, .error (.external error))
  | .response delay status body =>
    some (now + delay, .ok ⟨status, body.map (Feed.start · (now + delay))⟩)

end ResourceWatch
