import ResourceWatch.Reactor.Processing
import ResourceWatch.Watch.Continuous

/-!
The reactor: follows a collection and hands its events to a handler.
-/

namespace ResourceWatch.Reactor

open Processing

/-- The handling of the events so far, and why it has ended, if by a failure. -/
structure Watcher where
  state : State
  failure : Option Failure := none

/-- Takes the events of a collection as they come. The records so far are handed on. -/
def consumer (setting : Setting) : Consumer Watcher Event := fun watcher now event =>
  let (state, taken) := watcher.state.take setting now event
  let reaction : Reaction :=
    { pause :=
        match taken with
        | .goesOn => some 0
        | _ => none
      stop := (state.finish setting).stop
      log := state.log }
  let failure :=
    match taken with
    | .fails failure => some failure
    | _ => none
  ({ state := { state with log := [] }, failure }, reaction)

def category : List Text := ["shoal", "reactor"]

def record (now : Time) (message : List Log.Value) : Log.Record :=
  { time := now, severity := .info, category, message }

def startRecord (now : Time) (url server : Text) : Log.Record :=
  record now [.str "Watching ", .str url, .str " on ", .str server]

def endRecord (now : Time) (url : Text) : Log.Record :=
  record now [.str "Stopped watching ", .str url]

structure Run where
  watch : Watch.Run Watcher
  state : State
  /-- When it is over, if it ever is. -/
  ended : Option Time
  failure : Option Failure
  log : List Log.Record

/-- Why the events of a collection are over, if by a failure. -/
def failure? (watch : Watch.Run Watcher) : Option Failure :=
  match watch.verdict with
  | .failed failure => some failure
  | .left => watch.session.state.failure
  | _ => none

/-- Whether the events of a collection are over. -/
def isOver (watch : Watch.Run Watcher) : Bool :=
  match watch.verdict with
  | .pending => false
  | _ => true

/-- Runs a reactor until the stop signal or a failure, and waits for the handler. After the last event
only the handler can have an effect on the sequence, by giving the stop signal, so its records of a
moment come first. -/
def run (client : Client) (url : Text) (setting : Setting) (now : Time) (stop : Option Time)
    (replies : List Reply) : Run :=
  let watch := Watch.follow client url (consumer setting) replies
    { now, stop, state := { state := { now, stop } }, log := [startRecord now url client.server] }
  let state := (watch.session.state.state.wait setting watch.session.now).finish setting
  let failure := failure? watch
  let isOver := isOver watch && state.isIdle
  let ending :=
    if isOver && failure.isNone then [Processing.endRecord state, endRecord state.now url] else []
  { watch, state, failure
    ended := if isOver then some state.now else none
    log := Log.inOrder (state.log ++ watch.session.log ++ ending) }

end ResourceWatch.Reactor
