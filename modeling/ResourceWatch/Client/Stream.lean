import ResourceWatch.Client.Exchange
import ResourceWatch.Lines
import ResourceWatch.Session

/-!
A stream: the body of one response, read line by line while it arrives, with one item for a line.
Each wait is bounded by the stop signal and by the time limit of the whole stream. All lines that a
chunk completes are handed over before the next wait.
-/

namespace ResourceWatch.Client

/-- How items are read from lines: with a memory that goes from line to line, and with lines that
give no item. -/
abbrev Reading (ρ α : Type) := ρ → Text → Except Failure (ρ × Option α)

/-- Why a stream is over. -/
inductive Verdict where
  | closed
  | stopped
  | left
  | failed (failure : Failure)
  | pending

namespace Stream

variable {σ ρ α : Type}

structure Progress (σ ρ α : Type) where
  session : Session σ α
  memory : ρ
  buffer : LineBuffer := {}
  /-- When reads were begun. -/
  reads : List Time := []
  /-- The chunks that were read, with the times at which they came. -/
  chunks : List Arrival := []
  /-- How many chunks are off the body: a read takes a chunk that is there even if the time limit has
  run out. -/
  taken : Nat := 0

namespace Progress

def wait (progress : Progress σ ρ α) (time : Time) : Progress σ ρ α :=
  { progress with session := progress.session.wait time }

def write (progress : Progress σ ρ α) (records : List Log.Record) : Progress σ ρ α :=
  { progress with session := progress.session.write records }

/-- Takes in a chunk and gives the lines that it completes. -/
def receive (progress : Progress σ ρ α) (time : Time) (bytes : Bytes) :
    Progress σ ρ α × List Text :=
  let (buffer, lines) := progress.buffer.feed bytes
  ({ progress with
      session := progress.session.wait time
      buffer
      chunks := progress.chunks ++ [⟨time, bytes⟩]
      taken := progress.chunks.length + 1 }, lines)

/-- Hands over the items of lines, until a line is malformed or the consumer leaves. -/
def hand (reading : Reading ρ α) (consumer : Consumer σ α) (progress : Progress σ ρ α) :
    List Text → Progress σ ρ α × Option Verdict
  | [] => (progress, none)
  | line :: rest =>
    match reading progress.memory line with
    | .error failure => (progress, some (.failed failure))
    | .ok (memory, none) => hand reading consumer { progress with memory } rest
    | .ok (memory, some value) =>
      let session := progress.session.offer consumer value
      if session.left then ({ progress with memory, session }, some .left)
      else hand reading consumer { progress with memory, session } rest

/-- Reads on, unless the stop signal has come. -/
def read (deadline : Option Deadline) (feed : Feed) (next : Option Arrival)
    (progress : Progress σ ρ α) : Progress σ ρ α × Outcome (Option Bytes) :=
  let now := progress.session.now
  if progress.session.isStopped then (progress, some (now, .stopped))
  else
    let isThere := next.any fun chunk => chunk.time ≤ now
    ({ progress with
        reads := progress.reads ++ [now]
        taken := progress.chunks.length + isThere.toNat },
      Bounds.waitFor ⟨progress.session.stop, deadline⟩ now (feed.answer? now next))

/-- Ends with a read that gave no chunk. -/
def settle (progress : Progress σ ρ α) (outcome : Outcome (Option Bytes)) :
    Progress σ ρ α × Verdict :=
  match outcome with
  | none => (progress, .pending)
  | some (time, .value _) => (progress.wait time, .closed)
  | some (time, .failed failure) => (progress.wait time, .failed failure)
  | some (time, .stopped) => (progress.wait time, .stopped)

/-- Reads chunk after chunk. -/
def follow (reading : Reading ρ α) (consumer : Consumer σ α) (deadline : Option Deadline)
    (feed : Feed) (progress : Progress σ ρ α) : List Arrival → Progress σ ρ α × Verdict
  | [] =>
    let (progress, outcome) := progress.read deadline feed none
    progress.settle outcome
  | chunk :: rest =>
    match progress.read deadline feed (some chunk) with
    | (progress, some (time, .value (some bytes))) =>
      let (progress, lines) := progress.receive time bytes
      match progress.hand reading consumer lines with
      | (progress, some verdict) => (progress, verdict)
      | (progress, none) => follow reading consumer deadline feed progress rest
    | (progress, outcome) => progress.settle outcome

end Progress

def record (now : Time) (message : List Log.Value) : Log.Record where
  time := now
  severity := .debug
  category := Client.category
  message := message

/-- The record of why reading is over, if that is not an error and the consumer has not left. -/
def endRecords (now : Time) (url : Text) : Verdict → List Log.Record
  | .closed => [record now [.str "Stream from ", .str url, .str " ended"]]
  | .stopped => [record now [.str "Stream from ", .str url, .str " stopped"]]
  | _ => []

/-- The record of text that is given up because no newline came. -/
def tailRecords (now : Time) (url : Text) (buffer : LineBuffer) : List Log.Record :=
  let tail := buffer.terminate.2
  if (Text.trim tail).isEmpty then []
  else
    [record now [.str "Discarding an unterminated line of ", .num (.ofNat tail.length),
      .str " characters from ", .str url]]

/-- The record of a body that has failed before it is given up. -/
def failureRecords (now : Time) (url : Text) (feed : Feed) : List Log.Record :=
  match feed.failure? now with
  | some error =>
    [record now [.str "Stream from ", .str url, .str " was already closed: ", error.toValue]]
  | none => []

/-- A stream that is over. -/
structure Run (σ ρ α : Type) where
  /-- The request, if one was sent. -/
  exchange : Option Exchange := none
  /-- When the timer of the time limit fires, if it is set. -/
  timer : Option Time
  progress : Progress σ ρ α
  verdict : Verdict

/-- Lets go of the timer, the body and the request, unless the stream waits forever. -/
def Run.release (url : Text) (run : Run σ ρ α) : Run σ ρ α :=
  match run.verdict with
  | .pending => run
  | _ =>
    let now := run.progress.session.now
    let body := run.exchange.bind Exchange.body
    { run with
      exchange := run.exchange.map (Exchange.release now)
      timer := none
      progress := run.progress.write (body.elim [] fun feed =>
        tailRecords now url run.progress.buffer ++ failureRecords now url feed) }

/-- A body that is read no more, with what is left of it. -/
def conclude (url : Text) (deadline : Option Deadline) (feed : Feed) (exchange : Exchange)
    (progress : Progress σ ρ α) (verdict : Verdict) : Run σ ρ α where
  exchange := some { exchange with body := some (feed.drop progress.taken) }
  timer := deadline.map Deadline.expiry
  progress := progress.write (endRecords progress.session.now url verdict)
  verdict := verdict

/-- Sends the request and reads the body of the response, which may be missing. Nothing is sent
after the stop signal. -/
def attempt (client : Client) (reading : Reading ρ α) (consumer : Consumer σ α) (url : Text)
    (headers : List (Text × Text)) (deadline : Option Deadline) (reply : Reply)
    (progress : Progress σ ρ α) : Run σ ρ α :=
  let now := progress.session.now
  let timer := deadline.map Deadline.expiry
  if progress.session.isStopped then { timer, progress, verdict := .stopped }
  else
    match client.build? .get url { headers } with
    | none => { timer, progress, verdict := .failed .unbuildable }
    | some request =>
      let progress := progress.write [announcement now request]
      let exchange : Exchange := { time := now, request, aborted := false }
      match send ⟨progress.session.stop, deadline⟩ now reply with
      | none => { exchange := some exchange, timer, progress, verdict := .pending }
      | some (time, .failed failure) =>
        { exchange := some exchange, timer, progress := progress.wait time
          verdict := .failed failure }
      | some (time, .stopped) =>
        { exchange := some exchange
          timer
          progress := (progress.wait time).write
            [record time [.str "Stream from ", .str url, .str " stopped while connecting"]]
          verdict := .stopped }
      | some (time, .value response) =>
        match response.body with
        | none =>
          { exchange := some exchange, timer, progress := progress.wait time, verdict := .closed }
        | some feed =>
          let (progress, verdict) :=
            (progress.wait time).follow reading consumer deadline feed feed.chunks
          conclude url deadline feed exchange progress verdict

/-- Streams the response to a read of a URL, and lets go of everything however that ends. -/
def run (client : Client) (reading : Reading ρ α) (consumer : Consumer σ α) (url : Text)
    (headers : List (Text × Text)) (timeoutMs : Option Number) (reply : Reply)
    (progress : Progress σ ρ α) : Run σ ρ α :=
  let deadline := Deadline.start? progress.session.now timeoutMs
  (attempt client reading consumer url headers deadline reply progress).release url

/-- Items are the records on the lines. -/
def records : Reading Unit Json := fun _ line =>
  (Lines.record line).map fun value => ((), some value)

end Stream

end ResourceWatch.Client
