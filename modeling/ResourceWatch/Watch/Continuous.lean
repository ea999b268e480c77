import ResourceWatch.Client.Call
import ResourceWatch.Watch.Reading

/-!
Following a collection: list it, then watch it from the version of the list, and watch again from
the last version seen whenever a stream ends. When the server no longer knows the version, the
collection is listed again.
-/

namespace ResourceWatch.Watch

open Client

/-- What the next request is for. -/
inductive Phase where
  | listing
  | watching (version : Option Text)
deriving DecidableEq

/-- One request of a run and what was done with its response. -/
structure Leg (σ : Type) where
  phase : Phase
  exchange : Option Exchange
  /-- When the timer of the time limit of the request fires, if it is still set. -/
  timer : Option Time
  /-- The chunks that a watch read. -/
  chunks : List Arrival
  session : Session σ Event
  verdict : Verdict
  /-- What comes next, if the run is not over. -/
  next : Option Phase

variable {σ : Type}

def category : List Text := ["shoal", "client", "watching"]

/-- The record of a version that the server no longer knows. -/
def goneRecord (now : Time) (url : Text) (version : Option Text) : Log.Record where
  time := now
  severity := .info
  category := category
  message := [.str "Version ", .str (version.getD "undefined"), .str " of ", .str url,
    .str " is gone; listing again"]

/-- Lists a collection and hands over its objects. The stop signal does not end the wait for it. -/
def list (client : Client) (url : Text) (consumer : Consumer σ Event) (reply : Reply)
    (session : Session σ Event) : Leg σ :=
  let call := Call.list client session.now url [] none reply
  let session := session.write call.log
  let leg (session : Session σ Event) (verdict : Verdict) (next : Option Phase) : Leg σ :=
    { phase := .listing, exchange := call.exchange, timer := call.timer, chunks := [], session
      verdict, next }
  match call.outcome with
  | none => leg session .pending none
  | some (time, .stopped) => leg (session.wait time) .stopped none
  | some (time, .failed failure) => leg (session.wait time) (.failed failure) none
  | some (time, .value listing) =>
    let session := (session.wait time).offerAll consumer (listing.items.map .listed)
    if session.left then leg session .left none
    else leg session .closed (some (.watching listing.resourceVersion))

/-- Watches from a version on until the stream ends. -/
def watch (client : Client) (url : Text) (consumer : Consumer σ Event) (version : Option Text)
    (reply : Reply) (session : Session σ Event) : Leg σ :=
  let stream := Stream.run client changes consumer
    (address client.watchTimeoutSeconds url version) [] none reply { session, memory := version }
  let last := stream.progress.memory
  let leg (session : Session σ Event) (next : Option Phase) : Leg σ :=
    { phase := .watching version, exchange := stream.exchange, timer := stream.timer
      chunks := stream.progress.chunks, session, verdict := stream.verdict, next }
  let session := stream.progress.session
  match stream.verdict with
  | .closed | .stopped => leg session (some (.watching last))
  | .failed failure =>
    if failure.isGone then leg (session.write [goneRecord session.now url last]) (some .listing)
    else leg session none
  | .left | .pending => leg session none

def leg (client : Client) (url : Text) (consumer : Consumer σ Event) (phase : Phase)
    (reply : Reply) (session : Session σ Event) : Leg σ :=
  match phase with
  | .listing => list client url consumer reply session
  | .watching version => watch client url consumer version reply session

/-- A run that is over. -/
structure Run (σ : Type) where
  legs : List (Leg σ)
  session : Session σ Event
  verdict : Verdict

namespace Run

def exchanges (run : Run σ) : List Exchange :=
  run.legs.filterMap Leg.exchange

end Run

/-- Goes on with a phase. The stop signal ends the run between two requests; the request after the
last reply fails, and so does the run. -/
def continueWith (client : Client) (url : Text) (consumer : Consumer σ Event) (phase : Phase)
    (session : Session σ Event) : List Reply → Run σ
  | [] =>
    if session.isStopped then ⟨[], session, .stopped⟩
    else
      let leg := leg client url consumer phase .unscripted session
      ⟨[leg], leg.session, leg.verdict⟩
  | reply :: rest =>
    if session.isStopped then ⟨[], session, .stopped⟩
    else
      let leg := leg client url consumer phase reply session
      match leg.next with
      | none => ⟨[leg], leg.session, leg.verdict⟩
      | some phase =>
        let run := continueWith client url consumer phase leg.session rest
        { run with legs := leg :: run.legs }

/-- Follows a collection against a server that gives these replies. -/
def follow (client : Client) (url : Text) (consumer : Consumer σ Event) (replies : List Reply)
    (session : Session σ Event) : Run σ :=
  continueWith client url consumer .listing session replies

end ResourceWatch.Watch
