import ResourceWatch.Client.Stream
import ResourceWatch.Watch.Address
import ResourceWatch.Watch.Event

/-!
Watch events as they are read from a stream, once or from one stream to the next.
-/

namespace ResourceWatch.Watch

open Client

/-- The error that an error event stands for. -/
def errorOf (object : Object) : ApiError where
  status := ((Status.of? (some (.obj object))).bind Status.code).getD 500
  payload := some (.obj object)

/-- The event on a line; an error event is raised. -/
def event (line : Text) : Except Failure WatchEvent := do
  let value ← Lines.record line
  let event ← (WatchEvent.check (some value)).mapError Failure.invalid
  if event.type = .error then .error (.api (errorOf event.object)) else .ok event

/-- Items are the events on the lines. -/
def events : Reading Unit WatchEvent := fun _ line =>
  (event line).map fun event => ((), some event)

/-- Remembers the last version seen. A bookmark is no item. -/
def changes : Reading (Option Text) Event := fun version line =>
  (event line).map fun event =>
    ((Object.resourceVersion? event.object).or version,
      if event.type = .bookmark then none else some (.ofWatch event))

/-- Watches a collection once. -/
def run {σ : Type} (client : Client) (consumer : Consumer σ WatchEvent) (url : Text)
    (version : Option Text) (timeoutMs : Option Number) (reply : Reply)
    (session : Session σ WatchEvent) : Stream.Run σ Unit WatchEvent :=
  Stream.run client events consumer (address client.watchTimeoutSeconds url version) [] timeoutMs
    reply { session, memory := () }

end ResourceWatch.Watch
