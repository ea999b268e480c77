import ResourceWatch.Reactor.Registry

/-!
Handling events: each event is queued on the memory of its resource, and the handler is called for it
under error throttling. Resources are handled independently of each other.
-/

namespace ResourceWatch

/-- What the handler does at its calls for a resource, which are counted from zero. -/
abbrev Handler := Text → Nat → Behaviour

namespace Processing

open Throttling

/-- A call of the handler: the event and what is known of the resource at that moment. -/
structure Call where
  job : Job
  slot : Nat
  memory : Memory

inductive Happening where
  | called (call : Call)
  | settled (number slot : Nat) (failure : Option Thrown)
  /-- The event is done with; whether the handler was called and succeeded. -/
  | over (number slot : Nat) (succeeded : Bool)

structure Setting where
  handler : Handler
  template : Option Template
  /-- The values that copies of the template share. -/
  cells : Cells := []
  delays : List Number

def category : List Text := ["shoal", "reactor", "processing"]

def Setting.throttling (setting : Setting) : Throttling.Setting :=
  ⟨setting.delays, category⟩

structure State where
  now : Time
  stop : Option Time
  registry : Registry := {}
  /-- How many events were queued. -/
  queued : Nat := 0
  /-- How often the template was copied. -/
  duplications : Nat := 0
  trace : List (Time × Happening) := []
  log : List Log.Record := []

namespace State

def calls (state : State) : List (Time × Call) :=
  state.trace.filterMap fun (time, happening) =>
    match happening with
    | .called call => some (time, call)
    | _ => none

/-- How often the handler was called for a resource. -/
def callCount (state : State) (uid : Text) : Nat :=
  (state.calls.filter fun (_, call) => call.job.uid = uid).length

def isStopped (state : State) : Bool :=
  Clock.reached state.stop state.now

/-- When the next event of a memory goes on: a job that waits starts at once. -/
def due? (state : State) (memory : Memory) : Option Time :=
  match memory.queue.running with
  | some handling => handling.stage.due? state.stop
  | none => if memory.queue.waiting.isEmpty then none else some state.now

/-- The first of the memories to go on, and when. -/
def soonest? (state : State) (slot : Nat) : List Memory → Option (Time × Nat)
  | [] => none
  | memory :: rest =>
    Clock.sooner ((state.due? memory).map fun due => (due, slot)) (state.soonest? (slot + 1) rest)

def record (state : State) (happening : Happening) : State :=
  { state with trace := state.trace ++ [(state.now, happening)] }

/-- Calls the handler. -/
def call (setting : Setting) (state : State) (slot : Nat) (memory : Memory) (job : Job) : State :=
  let behaviour := setting.handler job.uid (state.callCount job.uid)
  let memory := { memory with memo := memory.memo.countCall setting.cells }
  let stage := Stage.calling (behaviour.duration.map (state.now + ·)) behaviour.failure
  { state with
    stop := if behaviour.stops then Clock.earlier state.stop (some state.now) else state.stop
    registry := state.registry.update slot fun _ =>
      { memory with queue := memory.queue.run ⟨job, stage⟩ }
    trace := state.trace ++ [(state.now, .called ⟨job, slot, memory⟩)] }

/-- Follows a step of the throttled call that is made for a job. -/
def proceed (setting : Setting) (state : State) (slot : Nat) (memory : Memory) (job : Job)
    (step : Step) : State :=
  let memory := { memory with throttler := step.throttler }
  let state := { state with log := state.log ++ step.log }
  match step.next with
  | .wait stage =>
    { state with registry := state.registry.update slot fun _ =>
        { memory with queue := memory.queue.run ⟨job, stage⟩ } }
  | .call => state.call setting slot memory job
  | .over succeeded =>
    { state with
      registry := state.registry.update slot fun _ =>
        { memory with queue := memory.queue.settle }
      trace := state.trace ++ [(state.now, .over job.number slot succeeded)] }

/-- Goes on with a memory: starts the job whose turn it is, or ends a stage of the one under way. -/
def fire (setting : Setting) (state : State) (slot : Nat) (time : Time) : State :=
  match state.registry.memories[slot]? with
  | none => state
  | some memory =>
    let state := { state with now := time }
    match memory.queue.running with
    | none =>
      match memory.queue.turn? with
      | none => state
      | some (job, queue) =>
        state.proceed setting slot { memory with queue } job
          (Throttling.Setting.enter memory.throttler time)
    | some ⟨job, stage⟩ =>
      let state :=
        match stage with
        | .calling _ failure => state.record (.settled job.number slot failure)
        | _ => state
      state.proceed setting slot memory job
        (setting.throttling.fire state.stop memory.throttler time stage)

/-- How many steps the jobs of a memory take at most. -/
def memoryWork (memory : Memory) : Nat :=
  4 * memory.queue.waiting.length +
    (match memory.queue.running with
      | some handling => handling.stage.work
      | none => 0)

def workOf : List Memory → Nat
  | [] => 0
  | memory :: rest => memoryWork memory + workOf rest

/-- How many steps all jobs take at most. -/
def work (state : State) : Nat :=
  workOf state.registry.memories

def advanceBy (setting : Setting) (limit : Option Time) : Nat → State → State
  | 0, state => state
  | steps + 1, state =>
    match state.soonest? 0 state.registry.memories with
    | none => state
    | some (due, slot) =>
      if limit.any fun limit => limit < due then state
      else advanceBy setting limit steps (state.fire setting slot (max state.now due))

/-- Takes all steps that are due by a time. -/
def wait (setting : Setting) (state : State) (time : Time) : State :=
  { advanceBy setting (some time) state.work state with now := time }

/-- Takes all steps there are. -/
def finish (setting : Setting) (state : State) : State :=
  advanceBy setting none state.work state

/-- Whether no job is waiting or under way. -/
def isIdle (state : State) : Bool :=
  state.registry.memories.all fun memory => memory.queue.isIdle

/-- Queues an event on the memory of its resource. A bookmark is no event of a resource. A resource
that is deleted is forgotten at once, and its jobs stay with its memory. -/
def dispatch (setting : Setting) (state : State) (event : Event) : State × Option Failure :=
  if event.type = some .bookmark then (state, none)
  else
    let found := state.registry.recalled setting.cells event.object setting.template
      event.type.isNone
    let duplications := state.duplications + found.duplicated.toNat
    match event.object.identity, found.slot with
    | .error failure, _ | _, .error failure => ({ state with duplications }, some failure)
    | .ok uid, .ok slot =>
      let registry :=
        if event.type = some .deleted then found.registry.forgetUid uid else found.registry
      let job : Job := ⟨state.queued, uid, event⟩
      ({ state with
          registry := registry.update slot fun memory =>
            { memory with queue := memory.queue.push job }
          queued := state.queued + 1
          duplications }, none)

end State

/-- What becomes of the sequence of events at an event. -/
inductive Taken where
  | goesOn
  | leaves
  | fails (failure : Failure)

/-- Takes an event, unless the stop signal has come. -/
def State.take (setting : Setting) (state : State) (time : Time) (event : Event) : State × Taken :=
  let state := state.wait setting time
  if state.isStopped then (state, .leaves)
  else
    match state.dispatch setting event with
    | (state, none) => (state.wait setting time, .goesOn)
    | (state, some failure) => (state.wait setting time, .fails failure)

/-- What a source of events gives, and how long it takes. -/
inductive Delivery where
  | event (delay : Nat) (event : Event)
  | failure (delay : Nat) (error : Thrown)

/-- The handling of all events of a source. -/
structure Run where
  state : State
  /-- When no more events were taken. -/
  closedAt : Time
  failure : Option Failure
  /-- How many events were taken. -/
  delivered : Nat

/-- Takes event after event until the source ends, and waits for the handler. -/
def State.receive (setting : Setting) (state : State) (delivered : Nat) : List Delivery → Run
  | [] => ⟨state, state.now, none, delivered⟩
  | .failure delay error :: _ =>
    let state := state.wait setting (state.now + delay)
    ⟨state, state.now, some (.external error), delivered⟩
  | .event delay event :: rest =>
    match state.take setting (state.now + delay) event with
    | (state, .goesOn) => state.receive setting (delivered + 1) rest
    | (state, .leaves) => ⟨state, state.now, none, delivered + 1⟩
    | (state, .fails failure) => ⟨state, state.now, some failure, delivered + 1⟩

def endRecord (state : State) : Log.Record where
  time := state.now
  severity := .debug
  category := category
  message := [.str "Stopped processing; ", .num (.ofNat state.registry.size),
    .str " resources remembered"]

/-- Waits for the handler. The end is logged if it is a normal one. -/
def Run.finish (setting : Setting) (run : Run) : Run :=
  let state := run.state.finish setting
  if state.isIdle && run.failure.isNone then
    { run with state := { state with log := state.log ++ [endRecord state] } }
  else { run with state }

/-- Handles the events of a source. -/
def run (setting : Setting) (state : State) (deliveries : List Delivery) : Run :=
  (state.receive setting 0 deliveries).finish setting

/-- Handles the events of a source one at a time: each is waited for before the next is asked for.
Gives also the times at which they were done with. -/
def runSingly (setting : Setting) (state : State) (delivered : Nat) :
    List Delivery → Run × List Time
  | [] => (⟨state, state.now, none, delivered⟩, [])
  | .failure delay error :: _ =>
    let state := state.wait setting (state.now + delay)
    (⟨state, state.now, some (.external error), delivered⟩, [])
  | .event delay event :: rest =>
    match (state.wait setting (state.now + delay)).dispatch setting event with
    | (state, some failure) => (⟨state, state.now, some failure, delivered + 1⟩, [])
    | (state, none) =>
      let state := state.finish setting
      if state.isIdle then
        let (run, times) := runSingly setting state (delivered + 1) rest
        (run, state.now :: times)
      else (⟨state, state.now, none, delivered + 1⟩, [])

end Processing

end ResourceWatch
