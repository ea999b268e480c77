import ResourceWatch.Client.Exchange
import ResourceWatch.Lines
import ResourceWatch.Watch.Event

/-!
Calls: one request each, bounded as a whole by one time limit.
-/

namespace ResourceWatch.Client

/-- What a call came to. -/
structure Call (α : Type) where
  /-- The request, if one could be built. -/
  exchange : Option Exchange
  outcome : Outcome α
  /-- When the timer of the time limit fires, if it is still set. -/
  timer : Option Time
  log : List Log.Record

namespace Call

variable {α β : Type}

/-- Makes a call: builds the request, sends it, and goes on with the response. -/
def run (client : Client) (now : Time) (method : Method) (url : Text) (options : RequestOptions)
    (timeoutMs : Option Number) (reply : Reply)
    (next : Bounds → Time → Response → Outcome α) : Call α :=
  let bounds : Bounds := { deadline := Deadline.start? now (timeoutMs.or client.requestTimeoutMs) }
  match client.build? method url options with
  | none =>
    { exchange := none, outcome := some (now, .failed .unbuildable), timer := none, log := [] }
  | some request =>
    let outcome := (send bounds now reply).andThen (next bounds)
    { exchange := some
        { time := now, request, aborted := Deadline.isOver bounds.deadline outcome.time? }
      outcome
      timer := Deadline.timer? bounds.deadline outcome.time?
      log := [announcement now request] }

/-- The response with its body unread. -/
def request (client : Client) (now : Time) (method : Method) (url : Text)
    (options : RequestOptions) (timeoutMs : Option Number) (reply : Reply) : Call Response :=
  run client now method url options timeoutMs reply fun _ time response =>
    some (time, .value response)

/-- Goes on with a value at the time at which it is there. -/
def check (call : Call α) (next : α → Except Failure β) : Call β :=
  { call with outcome := call.outcome.andThen fun time value =>
      Outcome.ofExcept (some (time, next value)) }

/-- The JSON value of the whole body. -/
def json (client : Client) (now : Time) (method : Method) (url : Text)
    (options : RequestOptions) (timeoutMs : Option Number) (reply : Reply) : Call Json :=
  (run client now method url options timeoutMs reply fun bounds time response =>
    bounds.waitFor time (response.text? time)).check Lines.record

/-- The content type of the changes that a patch sends. -/
def mergePatch : Text := "application/merge-patch+json"

def contentType (method : Method) : Text :=
  if method = .patch then mergePatch else "application/json"

/-- A call by its method, which tells the content type of the payload. -/
def typed (client : Client) (now : Time) (method : Method) (url : Text) (payload : Option Json)
    (headers : List (Text × Text)) (timeoutMs : Option Number) (reply : Reply) : Call Json :=
  json client now method url { payload, headers, contentType := contentType method } timeoutMs reply

def get (client : Client) (now : Time) (url : Text) (headers : List (Text × Text))
    (timeoutMs : Option Number) (reply : Reply) : Call Json :=
  typed client now .get url none headers timeoutMs reply

theorem get_eq_json (client : Client) (now : Time) (url : Text) (headers : List (Text × Text))
    (timeoutMs : Option Number) (reply : Reply) :
    get client now url headers timeoutMs reply =
      json client now .get url { headers } timeoutMs reply := rfl

def post (client : Client) (now : Time) (url : Text) (payload : Option Json)
    (headers : List (Text × Text)) (timeoutMs : Option Number) (reply : Reply) : Call Json :=
  typed client now .post url payload headers timeoutMs reply

/-- Sends the payload as a merge patch, unless the headers of the call say otherwise. -/
def patch (client : Client) (now : Time) (url : Text) (payload : Option Json)
    (headers : List (Text × Text)) (timeoutMs : Option Number) (reply : Reply) : Call Json :=
  typed client now .patch url payload headers timeoutMs reply

def delete (client : Client) (now : Time) (url : Text) (payload : Option Json)
    (headers : List (Text × Text)) (timeoutMs : Option Number) (reply : Reply) : Call Json :=
  typed client now .delete url payload headers timeoutMs reply

/-- The objects of a collection. -/
def list (client : Client) (now : Time) (url : Text) (headers : List (Text × Text))
    (timeoutMs : Option Number) (reply : Reply) : Call ObjectList :=
  (get client now url headers timeoutMs reply).check fun value =>
    (ObjectList.check (some value)).mapError Failure.invalid

end Call

end ResourceWatch.Client
