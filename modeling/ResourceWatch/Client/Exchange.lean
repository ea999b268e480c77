import ResourceWatch.Client
import ResourceWatch.Log.Record
import ResourceWatch.Outcome
import ResourceWatch.Server

/-!
Sending one request and waiting for its response.
-/

namespace ResourceWatch

/-- A request that was sent and what became of it. -/
structure Exchange where
  time : Time
  request : Request
  /-- Whether its signal is aborted in the end. -/
  aborted : Bool
  /-- What was left in the end of the body, if it was read chunk by chunk. -/
  body : Option Feed := none
  /-- Whether the body was given up before it was exhausted or had failed. -/
  cancelled : Bool := false

/-- Gives up a request and the body that is read. -/
def Exchange.release (now : Time) (exchange : Exchange) : Exchange :=
  { exchange with
    aborted := true
    cancelled := exchange.body.any fun feed => !feed.isExhausted now && (feed.failure? now).isNone }

namespace Response

def isSuccess (response : Response) : Bool :=
  Number.le 200 response.status && Number.lt response.status 300

/-- The text of a whole body. A byte order mark is taken off the body, and another one off its text. -/
def decode (bytes : Bytes) : Text :=
  Text.ofCodePoints (Utf8.dropMark (Utf8.dropMark (Utf8.decodePoints bytes)))

/-- When the whole text of the body is there, if reading begins now. -/
def text? (response : Response) (now : Time) : Option (Time × Except Failure Text) :=
  match response.body with
  | none => some (now, .ok [])
  | some feed =>
    (feed.whole? now).map fun (time, result) =>
      (time, result.map decode)

/-- What an error tells: JSON if the text is, else the text itself, and nothing if it is empty. -/
def payload? (text : Text) : Option Json :=
  if text.isEmpty then none
  else
    match Json.parse? text with
    | some value => some value
    | none => some (.str text)

end Response

namespace Client

def category : List Text := ["shoal", "client"]

/-- The record of a request that is about to be sent. -/
def announcement (now : Time) (request : Request) : Log.Record where
  time := now
  severity := .debug
  category := category
  message := [.str request.method.name, .str " ", .str request.url]

/-- Sends a request and waits for its response. A status without success is escalated with the
whole body. -/
def send (bounds : Bounds) (now : Time) (reply : Reply) : Outcome Response :=
  (bounds.waitFor now (reply.answer? now)).andThen fun time response =>
    if response.isSuccess then some (time, .value response)
    else (bounds.waitFor time (response.text? time)).andThen fun time text =>
      some (time, .failed (.api ⟨response.status, Response.payload? text⟩))

end Client

end ResourceWatch
