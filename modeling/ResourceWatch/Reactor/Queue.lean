import ResourceWatch.Clock
import ResourceWatch.Log.Value

/-!
Queues: of the tasks that are queued, one runs at a time, in the order in which they came.
-/

namespace ResourceWatch

/-- Tasks that wait, and the state of the one that runs. -/
structure Queue (α β : Type) where
  running : Option β := none
  waiting : List α := []

namespace Queue

variable {α β : Type}

def push (queue : Queue α β) (task : α) : Queue α β :=
  { queue with waiting := queue.waiting ++ [task] }

/-- The task whose turn it is, and the queue without it. -/
def turn? (queue : Queue α β) : Option (α × Queue α β) :=
  match queue.running, queue.waiting with
  | none, task :: rest => some (task, { queue with waiting := rest })
  | _, _ => none

def run (queue : Queue α β) (state : β) : Queue α β :=
  { queue with running := some state }

/-- The task that ran has settled, whatever its outcome. -/
def settle (queue : Queue α β) : Queue α β :=
  { queue with running := none }

/-- Whether nothing runs and nothing waits. -/
def isIdle (queue : Queue α β) : Bool :=
  queue.running.isNone && queue.waiting.isEmpty

end Queue

/-- A task that takes some time, unless it never settles, and then fails or not. -/
structure Task where
  queuedAt : Time
  duration : Option Nat
  failure : Option Thrown

/-- A task that has started. -/
structure Turn where
  task : Task
  startedAt : Time

namespace Turn

def due? (turn : Turn) : Option Time :=
  turn.task.duration.map fun duration => turn.startedAt + duration

end Turn

/-- A task that has settled. -/
structure Settled where
  turn : Turn
  settledAt : Time

/-- A queue at work. -/
structure Worker where
  now : Time
  queue : Queue Task Turn := {}
  settled : List Settled := []

namespace Worker

/-- When something happens next: the task that runs settles, or one that waits starts. -/
def due? (worker : Worker) : Option Time :=
  match worker.queue.running with
  | some turn => turn.due?
  | none => if worker.queue.waiting.isEmpty then none else some worker.now

/-- Does what happens next, at its time. -/
def fire (worker : Worker) (time : Time) : Worker :=
  match worker.queue.running with
  | some turn =>
    { now := time
      queue := worker.queue.settle
      settled := worker.settled ++ [⟨turn, time⟩] }
  | none =>
    match worker.queue.turn? with
    | some (task, queue) => { worker with now := time, queue := queue.run ⟨task, time⟩ }
    | none => worker

/-- How many things can happen. -/
def work (worker : Worker) : Nat :=
  2 * worker.queue.waiting.length + (if worker.queue.running.isSome then 1 else 0)

def advanceBy : Nat → Option Time → Worker → Worker
  | 0, _, worker => worker
  | steps + 1, limit, worker =>
    match worker.due? with
    | none => worker
    | some due =>
      if limit.any fun limit => limit < due then worker
      else advanceBy steps limit (worker.fire due)

/-- Lets everything happen that is due by a time, or everything there is. -/
def advance (limit : Option Time) (worker : Worker) : Worker :=
  advanceBy worker.work limit worker

/-- Queues a task at its time. -/
def enqueue (worker : Worker) (task : Task) : Worker :=
  let worker := worker.advance (some task.queuedAt)
  { worker with now := task.queuedAt, queue := worker.queue.push task }

/-- Queues tasks one after another, and lets them run. -/
def run (now : Time) (tasks : List Task) : Worker :=
  (tasks.foldl enqueue { now }).advance none

end Worker

end ResourceWatch
