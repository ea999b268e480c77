import ResourceWatch.Reactor.Queue
import Mathlib.Data.List.Basic

/-!
# A queue at work

What becomes of a task is decided when it is queued: it starts as soon as the task in front of it
has settled, and not before it is queued. A worker does its steps one at a time, so this is told of
it through its outlook, the fates of all tasks that came to it or are still to come. No step changes
the outlook, and at the end nothing but fates is left.

The same times are those of promises in a row, each of which calls its task once the one before
it has settled. Behind a failure a task would not be called at all, so the failure is absorbed
between two tasks, and stays with the promise of its own task.
-/

namespace ResourceWatch

namespace Turn

theorem due?_eq (turn : Turn) :
    turn.due? = turn.task.duration.map fun duration : Nat => turn.startedAt + duration := by
  unfold due?
  cases turn.task.duration <;> rfl

theorem le_of_due? {turn : Turn} {time : Time} (hdue : turn.due? = some time) :
    turn.startedAt ≤ time := by
  rw [due?_eq, Option.map_eq_some_iff] at hdue
  obtain ⟨duration, -, rfl⟩ := hdue
  exact Int.le_add_of_nonneg_right (Int.natCast_nonneg duration)

end Turn

/-! ### Promises in a row -/

/-- How a promise settles: rejected with what is thrown, or else fulfilled. -/
structure Settlement where
  time : Time
  failure : Option Thrown

/-- A promise, which may never settle. -/
structure Promise where
  settlement? : Option Settlement

namespace Promise

/-- A task called at a time. -/
def called (task : Task) (time : Time) : Promise :=
  ⟨(Turn.due? ⟨task, time⟩).map (⟨·, task.failure⟩)⟩

/-- A task called once a promise is fulfilled. Nothing is called behind a rejected one. -/
def thenCall (promise : Promise) (task : Task) : Promise :=
  match promise.settlement? with
  | none => ⟨none⟩
  | some ⟨time, some thrown⟩ => ⟨some ⟨max task.queuedAt time, some thrown⟩⟩
  | some ⟨time, none⟩ => called task (max task.queuedAt time)

/-- Fulfilled once a promise has settled, whatever its outcome. -/
def absorbed (promise : Promise) : Promise :=
  ⟨promise.settlement?.map fun settlement => { settlement with failure := none }⟩

/-- The promises of tasks that are queued one after another behind a tail. -/
def chain (tail : Promise) : List Task → List Promise
  | [] => []
  | task :: rest => tail.thenCall task :: (tail.thenCall task).absorbed.chain rest

end Promise

/-! ### Fates of tasks -/

/-- What becomes of a task: when it starts and when it settles, if ever. -/
structure Fate where
  task : Task
  startedAt? : Option Time
  settledAt? : Option Time

namespace Fate

/-- A task behind another one that settles at a time, if ever. -/
def behind (settledAt? : Option Time) (task : Task) : Fate where
  task := task
  startedAt? := settledAt?.map (max task.queuedAt)
  settledAt? := settledAt?.bind fun time => Turn.due? ⟨task, max task.queuedAt time⟩

/-- The fates of tasks that run one after another. -/
def inTurn (settledAt? : Option Time) : List Task → List Fate
  | [] => []
  | task :: rest => behind settledAt? task :: inTurn (behind settledAt? task).settledAt? rest

/-- A promise that settles with a task, and with its outcome. -/
def promise (fate : Fate) : Promise :=
  ⟨fate.settledAt?.map fun time => ⟨time, fate.task.failure⟩⟩

variable {settledAt? : Option Time} {time : Time} {tasks : List Task} {fate : Fate}

theorem map_task_inTurn (settledAt? : Option Time) (tasks : List Task) :
    (inTurn settledAt? tasks).map Fate.task = tasks := by
  induction tasks generalizing settledAt? with
  | nil => rfl
  | cons task rest ih => rw [inTurn, List.map_cons, ih, behind]

/-- Nothing runs behind a task that never settles. -/
theorem inTurn_none (tasks : List Task) :
    inTurn none tasks = tasks.map fun task => ⟨task, none, none⟩ := by
  induction tasks with
  | nil => rfl
  | cons task rest ih => rw [inTurn, List.map_cons, ← ih]; rfl

theorem getElem_inTurn (settledAt? : Option Time) (tasks : List Task) (place : Nat)
    (hplace : place + 1 < (inTurn settledAt? tasks).length) :
    (inTurn settledAt? tasks)[place + 1] =
      behind (inTurn settledAt? tasks)[place].settledAt?
        (inTurn settledAt? tasks)[place + 1].task := by
  induction tasks generalizing settledAt? place with
  | nil => cases hplace
  | cons task rest ih =>
    cases place with
    | zero =>
      cases rest with
      | nil => simp [inTurn] at hplace
      | cons second rest => rfl
    | succ place => exact ih _ place (Nat.lt_of_succ_lt_succ hplace)

theorem settledAt?_of_mem_inTurn (hfate : fate ∈ inTurn settledAt? tasks) :
    fate.settledAt? = fate.startedAt?.bind fun time => Turn.due? ⟨fate.task, time⟩ := by
  induction tasks generalizing settledAt? with
  | nil => cases hfate
  | cons task rest ih =>
    rw [inTurn, List.mem_cons] at hfate
    rcases hfate with rfl | hrest
    · cases settledAt? <;> rfl
    · exact ih hrest

/-- A task that starts does so when it is queued or later, and the one in front has settled. -/
theorem exists_of_startedAt?_inTurn (hfate : fate ∈ inTurn settledAt? tasks)
    (hstarted : fate.startedAt? = some time) :
    fate.task.queuedAt ≤ time ∧ ∃ settledAt, settledAt? = some settledAt ∧ settledAt ≤ time := by
  induction tasks generalizing settledAt? with
  | nil => cases hfate
  | cons task rest ih =>
    rw [inTurn, List.mem_cons] at hfate
    rcases hfate with rfl | hrest
    · obtain ⟨settledAt, hsettled, rfl⟩ := Option.map_eq_some_iff.mp hstarted
      exact ⟨Int.le_max_left _ _, settledAt, hsettled, Int.le_max_right _ _⟩
    · obtain ⟨hqueued, later, hlater, hle⟩ := ih hrest
      obtain ⟨settledAt, hsettled, htask⟩ := Option.bind_eq_some_iff.mp hlater
      have hstart : max task.queuedAt settledAt ≤ later := Turn.le_of_due? htask
      have hbefore : settledAt ≤ later := Int.le_trans (Int.le_max_right _ _) hstart
      exact ⟨hqueued, settledAt, hsettled, Int.le_trans hbefore hle⟩

/-- Of two tasks the one in front has settled when the other starts. -/
theorem pairwise_inTurn (settledAt? : Option Time) (tasks : List Task) :
    (inTurn settledAt? tasks).Pairwise fun first second =>
      ∀ startedAt, second.startedAt? = some startedAt →
        ∃ settledAt, first.settledAt? = some settledAt ∧ settledAt ≤ startedAt := by
  induction tasks generalizing settledAt? with
  | nil => exact List.Pairwise.nil
  | cons task rest ih =>
    refine List.Pairwise.cons ?_ (ih _)
    intro second hsecond startedAt hstarted
    exact (exists_of_startedAt?_inTurn hsecond hstarted).2

/-- The promises in a row are those of the tasks in turn: no failure is handed on. -/
theorem chain_eq_map_promise (settledAt? : Option Time) (tasks : List Task) :
    Promise.chain ⟨settledAt?.map (⟨·, none⟩)⟩ tasks =
      (inTurn settledAt? tasks).map Fate.promise := by
  induction tasks generalizing settledAt? with
  | nil => rfl
  | cons task rest ih =>
    have hrun : Promise.thenCall ⟨settledAt?.map (⟨·, none⟩)⟩ task =
        (behind settledAt? task).promise := by
      cases settledAt? with
      | none => rfl
      | some time => simp [Promise.thenCall, Promise.called, promise, behind]
    have htail : (behind settledAt? task).promise.absorbed =
        ⟨(behind settledAt? task).settledAt?.map (⟨·, none⟩)⟩ := by
      rw [promise, Promise.absorbed, Option.map_map]
      rfl
    rw [Promise.chain, inTurn, List.map_cons, hrun, htail, ih]

end Fate

/-! ### The outlook of a worker -/

def Turn.fate (turn : Turn) : Fate :=
  ⟨turn.task, some turn.startedAt, turn.due?⟩

def Settled.fate (settled : Settled) : Fate :=
  ⟨settled.turn.task, some settled.turn.startedAt, some settled.settledAt⟩

namespace Worker

/-- What has become of the tasks so far. -/
def fates (worker : Worker) : List Fate :=
  worker.settled.map Settled.fate ++
    (worker.queue.running.toList.map Turn.fate ++
      worker.queue.waiting.map fun task => ⟨task, none, none⟩)

/-- What is to become of the tasks that have come, and of some that come later. -/
def outlook (worker : Worker) (later : List Task) : List Fate :=
  worker.settled.map Settled.fate ++
    match worker.queue.running with
    | some turn => turn.fate :: Fate.inTurn turn.due? (worker.queue.waiting ++ later)
    | none => Fate.inTurn (some worker.now) (worker.queue.waiting ++ later)

/-- Nothing that has come is of the future, and nothing that is due is of the past. -/
structure IsCurrent (worker : Worker) : Prop where
  queued : ∀ task ∈ worker.queue.waiting, task.queuedAt ≤ worker.now
  due : ∀ time, worker.due? = some time → worker.now ≤ time

/-- Nothing is left to do by a time, or at all. -/
def IsAdvanced (limit : Option Time) (worker : Worker) : Prop :=
  ∀ due, worker.due? = some due → ∃ time, limit = some time ∧ time < due

variable {worker : Worker} {limit : Option Time} {time : Time} {task : Task}

/-- There are two kinds of steps: a task settles, or one that waits starts. -/
theorem eq_fire_of_due? (hdue : worker.due? = some time) :
    (∃ turn, worker.queue.running = some turn ∧ turn.due? = some time ∧
      worker.fire time = ⟨time, ⟨none, worker.queue.waiting⟩, worker.settled ++ [⟨turn, time⟩]⟩) ∨
    (∃ task rest, worker.queue = ⟨none, task :: rest⟩ ∧ worker.now = time ∧
      worker.fire time = ⟨time, ⟨some ⟨task, time⟩, rest⟩, worker.settled⟩) := by
  obtain ⟨now, ⟨running, waiting⟩, settled⟩ := worker
  cases running with
  | some turn => exact .inl ⟨turn, rfl, hdue, rfl⟩
  | none =>
    cases waiting with
    | nil => cases hdue
    | cons task rest => exact .inr ⟨task, rest, rfl, Option.some.inj hdue, rfl⟩

theorem work_fire (hdue : worker.due? = some time) : (worker.fire time).work < worker.work := by
  rcases eq_fire_of_due? hdue with ⟨turn, hrunning, -, hfire⟩ | ⟨task, rest, hqueue, -, hfire⟩
  · simp [hfire, work, hrunning]
  · simp [hfire, work, hqueue]
    omega

theorem now_fire (hdue : worker.due? = some time) : (worker.fire time).now = time := by
  rcases eq_fire_of_due? hdue with ⟨_, _, _, hfire⟩ | ⟨_, _, _, _, hfire⟩ <;> rw [hfire]

theorem IsCurrent.fire (hcurrent : worker.IsCurrent) (hdue : worker.due? = some time) :
    (worker.fire time).IsCurrent := by
  have hnow := hcurrent.due time hdue
  rcases eq_fire_of_due? hdue with ⟨turn, -, -, hfire⟩ | ⟨task, rest, hqueue, rfl, hfire⟩
  · rw [hfire]
    refine ⟨fun waiting hwaiting => Int.le_trans (hcurrent.queued waiting hwaiting) hnow, ?_⟩
    intro next hnext
    simp only [due?] at hnext
    split at hnext
    · cases hnext
    · exact Int.le_of_eq (Option.some.inj hnext)
  · rw [hfire]
    refine ⟨fun waiting hwaiting => hcurrent.queued waiting ?_, ?_⟩
    · rw [hqueue]
      exact List.mem_cons_of_mem _ hwaiting
    · intro next hnext
      have hturn : Turn.due? ⟨task, worker.now⟩ = some next := hnext
      exact Turn.le_of_due? hturn

theorem outlook_fire (hcurrent : worker.IsCurrent) (hdue : worker.due? = some time)
    (later : List Task) : (worker.fire time).outlook later = worker.outlook later := by
  rcases eq_fire_of_due? hdue with ⟨turn, hrunning, hturn, hfire⟩ | ⟨task, rest, hqueue, rfl, hfire⟩
  · simp only [hfire, outlook, hrunning, hturn, List.map_append, List.map_singleton,
      List.append_assoc, List.singleton_append]
    rw [Settled.fate, Turn.fate, hturn]
  · have hqueued : task.queuedAt ≤ worker.now :=
      hcurrent.queued task (by rw [hqueue]; exact List.mem_cons_self)
    have hbehind : Fate.behind (some worker.now) task = Turn.fate ⟨task, worker.now⟩ := by
      simp only [Fate.behind, Turn.fate, Option.map_some, Option.bind_some,
        Int.max_eq_right hqueued]
    simp only [hfire, outlook, hqueue, List.cons_append, Fate.inTurn, hbehind]
    rfl

/-! ### Runs -/

/-- What a worker is that has done everything that is due by a time. -/
structure Advances (limit : Option Time) (worker after : Worker) : Prop where
  current : after.IsCurrent
  outlook : ∀ later, after.outlook later = worker.outlook later
  now : ∀ time, limit = some time → worker.now ≤ time → after.now ≤ time
  isAdvanced : after.IsAdvanced limit

theorem Advances.refl {limit : Option Time} (hcurrent : worker.IsCurrent)
    (hadvanced : worker.IsAdvanced limit) : Advances limit worker worker :=
  ⟨hcurrent, fun _ => rfl, fun _ _ hnow => hnow, hadvanced⟩

theorem IsCurrent.advances_advanceBy (hcurrent : worker.IsCurrent) (limit : Option Time)
    {steps : Nat} (hsteps : worker.work ≤ steps) :
    Advances limit worker (advanceBy steps limit worker) := by
  induction steps generalizing worker with
  | zero =>
    refine .refl hcurrent fun due hdue => ?_
    have hwork : (worker.fire due).work < worker.work := work_fire hdue
    omega
  | succ steps ih =>
    rw [advanceBy]
    cases hdue : worker.due? with
    | none =>
      refine .refl hcurrent fun due hsome => ?_
      exact nomatch hdue.symm.trans hsome
    | some due =>
      by_cases hlimit : limit.any (fun limit => limit < due) = true
      · simp only [hlimit, if_true]
        refine .refl hcurrent fun next hnext => ?_
        obtain rfl := Option.some.inj (hdue.symm.trans hnext)
        obtain ⟨time, hsome, hlt⟩ := (Option.any_eq_true _ _).mp hlimit
        exact ⟨time, hsome, of_decide_eq_true hlt⟩
      · simp only [hlimit, if_false, Bool.false_eq_true]
        have hwork := work_fire hdue
        have hrest := ih (hcurrent.fire hdue) (by omega)
        refine ⟨hrest.current, ?_, ?_, hrest.isAdvanced⟩
        · intro later
          rw [hrest.outlook, outlook_fire hcurrent hdue]
        · intro time hsome _
          apply hrest.now time hsome
          rw [now_fire hdue]
          simpa [hsome] using hlimit

theorem IsCurrent.advances (hcurrent : worker.IsCurrent) (limit : Option Time) :
    Advances limit worker (worker.advance limit) :=
  hcurrent.advances_advanceBy limit (Nat.le_refl _)

/-- A worker at which a task arrives. -/
def arrive (worker : Worker) (task : Task) : Worker :=
  { worker with now := task.queuedAt, queue := worker.queue.push task }

theorem enqueue_eq (worker : Worker) (task : Task) :
    worker.enqueue task = (worker.advance (some task.queuedAt)).arrive task :=
  rfl

/-- With everything done that is due, a task waits only behind one that runs. -/
theorem IsAdvanced.waiting_eq_nil (hadvanced : worker.IsAdvanced limit)
    (hnow : ∀ time, limit = some time → worker.now ≤ time) (hidle : worker.queue.running = none) :
    worker.queue.waiting = [] := by
  by_contra hwaiting
  have hdue : worker.due? = some worker.now := by simp [due?, hidle, hwaiting]
  obtain ⟨time, hlimit, hlt⟩ := hadvanced _ hdue
  exact Int.not_le.mpr hlt (hnow time hlimit)

theorem IsCurrent.arrive (hcurrent : worker.IsCurrent) (hnow : worker.now ≤ task.queuedAt)
    (hadvanced : worker.IsAdvanced (some task.queuedAt)) : (worker.arrive task).IsCurrent := by
  refine ⟨?_, ?_⟩
  · intro waiting hwaiting
    rcases List.mem_append.mp hwaiting with hbefore | hlast
    · exact Int.le_trans (hcurrent.queued waiting hbefore) hnow
    · rw [List.mem_singleton.mp hlast]
      exact Int.le_refl _
  · intro due hdue
    cases hrunning : worker.queue.running with
    | none =>
      have hstart : some task.queuedAt = some due := by
        simpa [due?, Worker.arrive, Queue.push, hrunning] using hdue
      exact Int.le_of_eq (Option.some.inj hstart)
    | some turn =>
      have hturn : worker.due? = some due := by
        simpa [due?, Worker.arrive, Queue.push, hrunning] using hdue
      obtain ⟨time, hlimit, hlt⟩ := hadvanced due hturn
      obtain rfl := Option.some.inj hlimit
      exact Int.le_of_lt hlt

theorem outlook_arrive (hnow : worker.now ≤ task.queuedAt)
    (hadvanced : worker.IsAdvanced (some task.queuedAt)) (later : List Task) :
    (worker.arrive task).outlook later = worker.outlook (task :: later) := by
  cases hrunning : worker.queue.running with
  | some turn => simp [outlook, arrive, Queue.push, hrunning]
  | none =>
    have hwaiting : worker.queue.waiting = [] := by
      refine hadvanced.waiting_eq_nil ?_ hrunning
      intro time htime
      rwa [← Option.some.inj htime]
    -- The task starts when it arrives, though the worker has been idle since some time before.
    have hbehind : Fate.behind (some task.queuedAt) task = Fate.behind (some worker.now) task := by
      simp only [Fate.behind, Option.map_some, Option.bind_some, Int.max_eq_left hnow,
        Int.max_eq_left (Int.le_refl _)]
    simp [outlook, arrive, Queue.push, hrunning, hwaiting, Fate.inTurn, hbehind]

theorem IsCurrent.enqueue (hcurrent : worker.IsCurrent) (hnow : worker.now ≤ task.queuedAt) :
    (worker.enqueue task).IsCurrent ∧
      ∀ later, (worker.enqueue task).outlook later = worker.outlook (task :: later) := by
  have hadvances := hcurrent.advances (some task.queuedAt)
  have hpassed := hadvances.now _ rfl hnow
  rw [enqueue_eq]
  refine ⟨hadvances.current.arrive hpassed hadvances.isAdvanced, ?_⟩
  intro later
  rw [outlook_arrive hpassed hadvances.isAdvanced, hadvances.outlook]

theorem outlook_foldl_enqueue (hcurrent : worker.IsCurrent) {tasks : List Task}
    (hsorted : (worker.now :: tasks.map Task.queuedAt).Pairwise (· ≤ ·)) :
    (tasks.foldl enqueue worker).IsCurrent ∧
      (tasks.foldl enqueue worker).outlook [] = worker.outlook tasks := by
  induction tasks generalizing worker with
  | nil => exact ⟨hcurrent, rfl⟩
  | cons task rest ih =>
    obtain ⟨hnow, hrest⟩ := List.pairwise_cons.mp hsorted
    obtain ⟨hafter, houtlook⟩ := hcurrent.enqueue (hnow _ List.mem_cons_self)
    rw [List.foldl_cons, ← houtlook]
    exact ih hafter hrest

/-- With nothing left to do, nothing but fates is left. -/
theorem outlook_eq_fates (hadvanced : worker.IsAdvanced none) :
    worker.outlook [] = worker.fates := by
  unfold outlook fates
  cases hrunning : worker.queue.running with
  | none =>
    have hwaiting : worker.queue.waiting = [] :=
      hadvanced.waiting_eq_nil (fun _ hnone => nomatch hnone) hrunning
    simp [hwaiting, Fate.inTurn]
  | some turn =>
    have hturn : turn.due? = none := by
      rw [Option.eq_none_iff_forall_ne_some]
      intro due hdue
      obtain ⟨time, hnone, -⟩ := hadvanced due (by simpa [due?, hrunning] using hdue)
      cases hnone
    simp [hturn, Fate.inTurn_none]

theorem fates_run {now : Time} {tasks : List Task}
    (hsorted : (now :: tasks.map Task.queuedAt).Pairwise (· ≤ ·)) :
    (run now tasks).fates = Fate.inTurn (some now) tasks := by
  have hcurrent : IsCurrent { now } :=
    ⟨fun _ hwaiting => (nomatch hwaiting), fun _ hdue => (nomatch hdue)⟩
  obtain ⟨hqueued, houtlook⟩ := outlook_foldl_enqueue hcurrent hsorted
  have hadvances := hqueued.advances none
  rw [run, ← outlook_eq_fates hadvances.isAdvanced, hadvances.outlook, houtlook]
  rfl

end Worker

/-- What the fates of tasks are that are queued one after another. -/
structure IsFifo (now : Time) (tasks : List Task) (fates : List Fate) : Prop where
  /-- None is skipped, repeated or brought forward. -/
  task : fates.map Fate.task = tasks
  first : ∀ fate, fates.head? = some fate → fate.startedAt? = some fate.task.queuedAt
  /-- The others start when they are queued, or when the one in front has settled. -/
  next : ∀ place, ∀ hplace : place + 1 < fates.length,
    fates[place + 1].startedAt? = fates[place].settledAt?.map (max fates[place + 1].task.queuedAt)
  settled : ∀ fate ∈ fates, fate.settledAt? =
    fate.startedAt?.bind fun time => fate.task.duration.map fun duration : Nat => time + duration
  apart : fates.Pairwise fun first second => ∀ startedAt, second.startedAt? = some startedAt →
    ∃ settledAt, first.settledAt? = some settledAt ∧ settledAt ≤ startedAt
  /-- Each promise settles with its own task. -/
  promise : Promise.chain ⟨some ⟨now, none⟩⟩ tasks = fates.map fun fate =>
    ⟨fate.settledAt?.map fun time => ⟨time, fate.task.failure⟩⟩

/-- **Queued tasks run one at a time, in their order and without delay, and each of them settles its
own promise.** -/
theorem run_isFifo {now : Time} {tasks : List Task}
    (hsorted : (now :: tasks.map Task.queuedAt).Pairwise (· ≤ ·)) :
    IsFifo now tasks (Worker.run now tasks).fates := by
  rw [Worker.fates_run hsorted]
  refine ⟨Fate.map_task_inTurn _ _, ?_, ?_, ?_, Fate.pairwise_inTurn _ _,
    Fate.chain_eq_map_promise (some now) tasks⟩
  · intro fate hfate
    cases tasks with
    | nil => cases hfate
    | cons task rest =>
      obtain rfl := Option.some.inj hfate
      have hnow := (List.pairwise_cons.mp hsorted).1 _ List.mem_cons_self
      change some (max task.queuedAt now) = some task.queuedAt
      rw [Int.max_eq_left hnow]
  · intro place hplace
    exact congrArg Fate.startedAt? (Fate.getElem_inTurn (some now) tasks place hplace)
  · intro fate hfate
    simp only [Fate.settledAt?_of_mem_inTurn hfate, Turn.due?_eq]

/-- A task that fails at once, one that waits for it, one that comes later and never settles, and
one behind that. -/
theorem run_isFifo_failing :
    let tasks : List Task :=
      [⟨2, some 0, some (.plain .null)⟩, ⟨2, some 5, none⟩, ⟨9, none, none⟩,
        ⟨9, some 1, none⟩]
    ((0 : Time) :: tasks.map Task.queuedAt).Pairwise (· ≤ ·) ∧
      IsFifo 0 tasks (Worker.run 0 tasks).fates :=
  ⟨by decide, run_isFifo (by decide)⟩

end ResourceWatch
