import ResourceWatch.Proofs.Clock
import ResourceWatch.Reactor.Processing

/-!
# Single steps of the handling

Handling goes on one memory at a time. Here is all that a step can do to the memory it goes on with
and to the trace, and that only so many steps can be taken.
-/

namespace ResourceWatch

namespace Throttler

/-- How long is waited after a call with this outcome. -/
def pauseAfter (throttler : Throttler) (delays : List Number) (failure : Option Thrown) : Nat :=
  match failure, throttler.nextDelay? delays with
  | some _, some delay => Clock.timer delay
  | _, _ => 0

variable {throttler : Throttler} {delays : List Number}

theorem pauseAfter_of_none (failure : Option Thrown) (hdelay : throttler.nextDelay? delays = none) :
    throttler.pauseAfter delays failure = 0 := by
  unfold pauseAfter
  cases failure <;> simp only [hdelay]

theorem pauseAfter_of_some (error : Thrown) {delay : Number}
    (hdelay : throttler.nextDelay? delays = some delay) :
    throttler.pauseAfter delays (some error) = Clock.timer delay := by
  unfold pauseAfter
  simp only [hdelay]

end Throttler

/-- When a call that is made now settles, if it ever does. -/
def Behaviour.settlesAt? (behaviour : Behaviour) (now : Time) : Option Time :=
  behaviour.duration.map fun duration => now + (duration : Nat)

theorem Behaviour.map_duration (behaviour : Behaviour) (now : Time) :
    (behaviour.duration.map (now + ·) : Option Time) = behaviour.settlesAt? now := by
  rw [settlesAt?]
  cases behaviour.duration <;> rfl

namespace Memory

/-- The jobs for which the handler was not called yet. -/
def uncalled (memory : Memory) : List Job :=
  match memory.queue.running with
  | some ⟨job, .resting _⟩ => job :: memory.queue.waiting
  | _ => memory.queue.waiting

/-- Until when the handler is not called, unless it is being called. -/
def quietUntil? (memory : Memory) (now : Time) : Option Time :=
  match memory.queue.running with
  | some ⟨_, .calling ..⟩ => none
  | some ⟨_, .cooling due⟩ => some due
  | _ => some now

end Memory

namespace Processing

open Throttling

variable {setting : Setting} {state : State} {slot : Nat} {time : Time} {memory : Memory}

/-! ### The next step -/

theorem of_soonest? {first : Nat} {memories : List Memory} {due : Time}
    (hsoonest : state.soonest? first memories = some (due, slot)) :
    ∃ place memory, slot = first + place ∧ memories[place]? = some memory ∧
      state.due? memory = some due := by
  induction memories generalizing first with
  | nil => simp [State.soonest?] at hsoonest
  | cons memory rest ih =>
      rw [State.soonest?] at hsoonest
      rcases Clock.sooner_eq ((state.due? memory).map fun due => (due, first))
        (state.soonest? (first + 1) rest) with ⟨found, hfirst, heq⟩ | heq
      · rw [heq, Option.some.injEq] at hsoonest
        rw [hsoonest, Option.map_eq_some_iff] at hfirst
        obtain ⟨time, hdue, hsame⟩ := hfirst
        rw [Prod.mk.injEq] at hsame
        exact ⟨0, memory, hsame.2.symm, rfl, hsame.1 ▸ hdue⟩
      · rw [heq] at hsoonest
        obtain ⟨place, found, hslot, hplace, hdue⟩ := ih hsoonest
        exact ⟨place + 1, found, by omega, hplace, hdue⟩

theorem due?_of_soonest?_eq_none {first : Nat} {memories : List Memory}
    (hsoonest : state.soonest? first memories = none) :
    ∀ memory ∈ memories, state.due? memory = none := by
  induction memories generalizing first with
  | nil => simp
  | cons memory rest ih =>
      rw [State.soonest?] at hsoonest
      obtain ⟨hfirst, hrest⟩ := Clock.sooner_eq_none_iff.mp hsoonest
      simp only [List.mem_cons, forall_eq_or_imp]
      exact ⟨by simpa using hfirst, ih hrest⟩

/-! ### What a step does -/

/-- A step that goes on with one memory. -/
structure Framed (state : State) (slot : Nat) (time : Time) (after : Memory)
    (added : List Happening) (next : State) : Prop where
  now : next.now = time
  stop : next.stop = state.stop ∨ next.stop = Clock.earlier state.stop (some time)
  slots : next.registry.slots = state.registry.slots
  memories : next.registry.memories = state.registry.memories.set slot after
  queued : next.queued = state.queued
  trace : next.trace = state.trace ++ added.map (time, ·)

theorem modify_eq_set {α : Type} {items : List α} {place : Nat} {item : α}
    (hitem : items[place]? = some item) (change : α → α) :
    items.modify place change = items.set place (change item) := by
  apply List.ext_getElem?
  intro other
  rw [List.getElem?_modify, List.getElem?_set]
  by_cases hsame : place = other
  · subst hsame
    obtain ⟨hlt, rfl⟩ := List.getElem?_eq_some_iff.mp hitem
    simp [hlt]
  · simp [hsame]

/-- What becomes of a memory, and what is added to the trace, when a throttled call goes on. -/
def proceeded (setting : Setting) (state : State) (slot : Nat) (memory : Memory) (job : Job)
    (step : Step) : Memory × List Happening :=
  let memory := { memory with throttler := step.throttler }
  match step.next with
  | .wait stage => ({ memory with queue := memory.queue.run ⟨job, stage⟩ }, [])
  | .call =>
    let behaviour := setting.handler job.uid (state.callCount job.uid)
    let memory := { memory with memo := memory.memo.countCall setting.cells }
    let stage := Stage.calling (behaviour.duration.map (state.now + ·)) behaviour.failure
    ({ memory with queue := memory.queue.run ⟨job, stage⟩ }, [.called ⟨job, slot, memory⟩])
  | .over succeeded =>
    ({ memory with queue := memory.queue.settle }, [.over job.number slot succeeded])

theorem framed_proceed (setting : Setting) (state : State)
    (hmemory : state.registry.memories[slot]? = some memory) (memory' : Memory) (job : Job)
    (step : Step) :
    Framed state slot state.now (proceeded setting state slot memory' job step).1
      (proceeded setting state slot memory' job step).2
      (state.proceed setting slot memory' job step) := by
  have hset (after : Memory) := modify_eq_set hmemory fun _ => after
  rcases hnext : step.next with stage | _ | succeeded
  · simp only [State.proceed, proceeded, hnext]
    exact ⟨rfl, Or.inl rfl, rfl, hset _, rfl, by simp⟩
  · simp only [State.proceed, proceeded, hnext, State.call]
    refine ⟨rfl, ?_, rfl, hset _, rfl, rfl⟩
    split
    · exact Or.inr rfl
    · exact Or.inl rfl
  · simp only [State.proceed, proceeded, hnext]
    exact ⟨rfl, Or.inl rfl, rfl, hset _, rfl, rfl⟩

/-- What a step does to the memory that it goes on with, and what it adds to the trace. -/
inductive Advance (setting : Setting) (state : State) (slot : Nat) (time : Time)
    (memory after : Memory) : List Happening → Prop where
  /-- A wait begins before the call, or is over behind it. -/
  | waits (added : List Happening) (bound : Time)
      (hquiet : memory.quietUntil? state.now = some bound)
      (hbound : bound ≤ time) (hafter : after.quietUntil? time = some time)
      (huncalled : after.uncalled = memory.uncalled)
      (hadded : ∀ happening ∈ added, ∃ number succeeded, happening = .over number slot succeeded) :
      Advance setting state slot time memory after added
  | calls (call : Call) (bound : Time) (hquiet : memory.quietUntil? state.now = some bound)
      (hbound : bound ≤ time) (hslot : call.slot = slot)
      (huncalled : memory.uncalled = call.job :: after.uncalled)
      (hrunning : after.queue.running =
        some ⟨call.job, .calling
          ((setting.handler call.job.uid (state.callCount call.job.uid)).settlesAt? time)
          (setting.handler call.job.uid (state.callCount call.job.uid)).failure⟩)
      (hthrottler : call.memory.throttler = after.throttler) :
      Advance setting state slot time memory after [.called call]
  | settles (job : Job) (due : Time) (failure : Option Thrown) (added : List Happening)
      (hrunning : memory.queue.running = some ⟨job, .calling (some due) failure⟩)
      (hdue : due ≤ time)
      (hafter : after.quietUntil? time =
        some (time + memory.throttler.pauseAfter setting.delays failure))
      (huncalled : after.uncalled = memory.uncalled)
      (hadded : ∀ happening ∈ added, ∃ number succeeded, happening = .over number slot succeeded) :
      Advance setting state slot time memory after (.settled job.number slot failure :: added)
  /-- The stop signal has come. -/
  | stopped (added : List Happening) (hstopped : Clock.reached state.stop time = true) :
      Advance setting state slot time memory after added

/-- A step at a time, with a memory. -/
structure Fired (setting : Setting) (state : State) (slot : Nat) (time : Time)
    (memory after : Memory) (added : List Happening) (next : State) : Prop
    extends Framed state slot time after added next where
  advance : Advance setting state slot time memory after added
  work : State.memoryWork after < State.memoryWork memory

theorem Framed.of_now {after : Memory} {added : List Happening} {next : State}
    (hframed : Framed { state with now := time } slot time after added next) :
    Framed state slot time after added next :=
  ⟨hframed.now, hframed.stop, hframed.slots, hframed.memories, hframed.queued, hframed.trace⟩

theorem Framed.of_record {happening : Happening} {after : Memory} {added : List Happening}
    {next : State}
    (hframed : Framed (State.record { state with now := time } happening) slot time after added
      next) :
    Framed state slot time after (happening :: added) next where
  now := hframed.now
  stop := hframed.stop
  slots := hframed.slots
  memories := hframed.memories
  queued := hframed.queued
  trace := by simpa [State.record] using hframed.trace

theorem fired_turn (hmemory : state.registry.memories[slot]? = some memory)
    (hrunning : memory.queue.running = none) {job : Job} {rest : List Job}
    (hwaiting : memory.queue.waiting = job :: rest) (hnow : state.now ≤ time) :
    ∃ after added, Fired setting state slot time memory after added
      (State.proceed setting { state with now := time } slot
        { memory with queue := { memory.queue with waiting := rest } } job
        (Throttling.Setting.enter memory.throttler time)) := by
  have hframed := framed_proceed setting { state with now := time } hmemory
    { memory with queue := { memory.queue with waiting := rest } } job
    (Throttling.Setting.enter memory.throttler time)
  cases hactive : memory.throttler.activeUntil with
  | none =>
      refine ⟨_, _, ⟨hframed.of_now, ?_, ?_⟩⟩
      · simp only [proceeded, Throttling.Setting.enter, hactive]
        refine .calls _ state.now ?_ hnow rfl ?_ ?_ rfl
        · simp [Memory.quietUntil?, hrunning]
        · simp [Memory.uncalled, hrunning, hwaiting, Queue.run]
        · rw [← Behaviour.map_duration]
          rfl
      · simp only [proceeded, Throttling.Setting.enter, hactive, State.memoryWork, Queue.run,
          hrunning, hwaiting, Stage.work, List.length_cons]
        omega
  | some until_ =>
      refine ⟨_, _, ⟨hframed.of_now, ?_, ?_⟩⟩
      · simp only [proceeded, Throttling.Setting.enter, hactive]
        refine .waits [] state.now ?_ hnow rfl ?_ (by simp)
        · simp [Memory.quietUntil?, hrunning]
        · simp only [Memory.uncalled, hrunning, hwaiting, Queue.run]
      · simp only [proceeded, Throttling.Setting.enter, hactive, State.memoryWork, Queue.run,
          hrunning, hwaiting, Stage.work, List.length_cons]
        omega

theorem fired_resting (hmemory : state.registry.memories[slot]? = some memory) {job : Job}
    {due : Time} (hrunning : memory.queue.running = some ⟨job, .resting due⟩)
    (hnow : state.now ≤ time) :
    ∃ after added, Fired setting state slot time memory after added
      (State.proceed setting { state with now := time } slot memory job
        (setting.throttling.fire state.stop memory.throttler time (.resting due))) := by
  have hframed := framed_proceed setting { state with now := time } hmemory
    memory job (setting.throttling.fire state.stop memory.throttler time (.resting due))
  refine ⟨_, _, ⟨hframed.of_now, ?_, ?_⟩⟩
  · cases hreached : Clock.reached state.stop time with
    | true => exact .stopped _ hreached
    | false =>
        simp only [proceeded, Throttling.Setting.fire, hreached, Bool.false_eq_true, if_false]
        refine .calls _ state.now ?_ hnow rfl ?_ ?_ rfl
        · simp [Memory.quietUntil?, hrunning]
        · simp [Memory.uncalled, hrunning, Queue.run]
        · rw [← Behaviour.map_duration]
          rfl
  · cases hreached : Clock.reached state.stop time <;>
      simp [proceeded, Throttling.Setting.fire, hreached, State.memoryWork, Queue.run, Queue.settle,
        hrunning, Stage.work]

theorem fired_calling (hmemory : state.registry.memories[slot]? = some memory) {job : Job}
    {due : Time} {failure : Option Thrown}
    (hrunning : memory.queue.running = some ⟨job, .calling (some due) failure⟩) (hle : due ≤ time) :
    ∃ after added, Fired setting state slot time memory after added
      (State.proceed setting
        (State.record { state with now := time } (.settled job.number slot failure)) slot memory job
        (setting.throttling.fire state.stop memory.throttler time
          (.calling (some due) failure))) := by
  have hframed := framed_proceed setting
    (State.record { state with now := time } (.settled job.number slot failure)) hmemory memory job
    (setting.throttling.fire state.stop memory.throttler time (.calling (some due) failure))
  -- Only a failed call with a delay left for it is followed by a wait.
  cases failure with
  | none =>
      refine ⟨_, _, ⟨hframed.of_record, ?_, ?_⟩⟩
      · simp only [proceeded, Throttling.Setting.fire, Throttling.Setting.settle]
        refine .settles job due none _ hrunning hle ?_ ?_ (by simp)
        · have hpause : memory.throttler.pauseAfter setting.delays none = 0 := rfl
          simp [Memory.quietUntil?, Queue.settle, hpause]
        · simp [Memory.uncalled, hrunning, Queue.settle]
      · simp [proceeded, Throttling.Setting.fire, Throttling.Setting.settle, State.memoryWork,
          Queue.settle, hrunning, Stage.work]
  | some error =>
      cases hdelay : memory.throttler.nextDelay? setting.delays with
      | none =>
          refine ⟨_, _, ⟨hframed.of_record, ?_, ?_⟩⟩
          · simp only [proceeded, Throttling.Setting.fire, Throttling.Setting.settle,
              Setting.throttling, hdelay]
            refine .settles job due (some error) _ hrunning hle ?_ ?_ (by simp)
            · simp [Memory.quietUntil?, Queue.settle, Throttler.pauseAfter_of_none _ hdelay]
            · simp [Memory.uncalled, hrunning, Queue.settle]
          · simp only [proceeded, Throttling.Setting.fire, Throttling.Setting.settle,
              Setting.throttling, hdelay, State.memoryWork, Queue.settle, hrunning, Stage.work]
            omega
      | some delay =>
          refine ⟨_, _, ⟨hframed.of_record, ?_, ?_⟩⟩
          · simp only [proceeded, Throttling.Setting.fire, Throttling.Setting.settle,
              Setting.throttling, hdelay]
            refine .settles job due (some error) _ hrunning hle ?_ ?_ (by simp)
            · simp only [Memory.quietUntil?, Queue.run, Throttler.pauseAfter_of_some error hdelay]
            · simp only [Memory.uncalled, hrunning, Queue.run]
          · simp only [proceeded, Throttling.Setting.fire, Throttling.Setting.settle,
              Setting.throttling, hdelay, State.memoryWork, Queue.run, hrunning, Stage.work]
            omega

theorem fired_cooling (hmemory : state.registry.memories[slot]? = some memory) {job : Job}
    {due : Time}
    (hrunning : memory.queue.running = some ⟨job, .cooling due⟩)
    (hle : Clock.reached state.stop time = false → due ≤ time) :
    ∃ after added, Fired setting state slot time memory after added
      (State.proceed setting { state with now := time } slot memory job
        (setting.throttling.fire state.stop memory.throttler time (.cooling due))) := by
  have hframed := framed_proceed setting { state with now := time } hmemory
    memory job (setting.throttling.fire state.stop memory.throttler time (.cooling due))
  refine ⟨_, _, ⟨hframed.of_now, ?_, ?_⟩⟩
  · cases hreached : Clock.reached state.stop time with
    | true => exact .stopped _ hreached
    | false =>
        simp only [proceeded, Throttling.Setting.fire, hreached, Bool.false_eq_true, if_false]
        refine .waits _ due ?_ (hle hreached) rfl ?_ (by simp)
        · simp [Memory.quietUntil?, hrunning]
        · simp [Memory.uncalled, hrunning, Queue.settle]
  · cases hreached : Clock.reached state.stop time <;>
      simp [proceeded, Throttling.Setting.fire, hreached, State.memoryWork, Queue.settle, hrunning,
        Stage.work]

/-- A delay that is due is over, unless the stop signal has come. -/
theorem le_of_earlier {stop : Option Time} {due ended : Time}
    (hearlier : Clock.earlier stop (some due) = some ended) (hle : ended ≤ time)
    (hreached : Clock.reached stop time = false) : due ≤ time := by
  cases stop with
  | none =>
      rw [Clock.earlier, Option.some.injEq] at hearlier
      exact hearlier ▸ hle
  | some stop =>
      simp only [Clock.earlier, Option.some.injEq, Clock.reached, decide_eq_false_iff_not,
        Time] at *
      omega

/-- **What a step does.** It is taken at a time at which the memory can go on. -/
theorem fired_fire (setting : Setting)
    (hmemory : state.registry.memories[slot]? = some memory) {due : Time}
    (hdue : state.due? memory = some due) (hnow : state.now ≤ time) (hle : due ≤ time) :
    ∃ after added,
      Fired setting state slot time memory after added (state.fire setting slot time) := by
  rw [State.due?] at hdue
  rcases hrunning : memory.queue.running with _ | ⟨job, stage⟩
  · rcases hwaiting : memory.queue.waiting with _ | ⟨job, rest⟩
    · simp [hrunning, hwaiting] at hdue
    · have hturn : memory.queue.turn? = some (job, { memory.queue with waiting := rest }) := by
        simp [Queue.turn?, hrunning, hwaiting]
      simp only [State.fire, hmemory, hturn]
      split
      · exact fired_turn hmemory hrunning hwaiting hnow
      · rename_i hother
        simp [hrunning] at hother
  · simp only [State.fire, hmemory, hrunning]
    rw [hrunning] at hdue
    cases stage with
    | resting ended => exact fired_resting hmemory hrunning hnow
    | calling settledAt failure =>
        have hsettled : settledAt = some due := hdue
        subst hsettled
        exact fired_calling hmemory hrunning hle
    | cooling ended =>
        exact fired_cooling hmemory hrunning fun hreached => le_of_earlier hdue hle hreached

/-! ### Many steps -/

theorem fired_of_soonest? (setting : Setting) {due : Time}
    (hsoonest : state.soonest? 0 state.registry.memories = some (due, slot)) :
    ∃ memory after added, state.registry.memories[slot]? = some memory ∧
      Fired setting state slot (max state.now due) memory after added
        (state.fire setting slot (max state.now due)) := by
  obtain ⟨place, memory, hslot, hplace, hdue⟩ := of_soonest? hsoonest
  rw [Nat.zero_add] at hslot
  subst hslot
  obtain ⟨after, added, hfired⟩ := fired_fire setting hplace hdue
    (Int.le_max_left state.now due) (Int.le_max_right state.now due)
  exact ⟨memory, after, added, hplace, hfired⟩

/-- **What each step preserves, all steps preserve.** -/
theorem advanceBy_induction {limit : Option Time} {P : State → Prop}
    (hstep : ∀ state slot time memory after added next,
      state.registry.memories[slot]? = some memory → state.now ≤ time →
      (∀ bound ∈ limit, state.now ≤ bound → time ≤ bound) →
      Fired setting state slot time memory after added next → P state → P next)
    (steps : Nat) (state : State) (hstate : P state) :
    P (State.advanceBy setting limit steps state) := by
  induction steps generalizing state with
  | zero => exact hstate
  | succ steps ih =>
      rw [State.advanceBy]
      split
      · exact hstate
      · rename_i due slot hsoonest
        split
        · exact hstate
        · rename_i hlimit
          obtain ⟨memory, after, added, hmemory, hfired⟩ :=
            fired_of_soonest? setting hsoonest
          refine ih _ (hstep state slot _ memory after added _ hmemory (Int.le_max_left _ _) ?_
            hfired hstate)
          intro bound hbound hnow
          rw [Option.mem_def] at hbound
          simp only [hbound, Option.any_some, decide_eq_true_eq, Int.not_lt] at hlimit
          exact Int.max_le.mpr ⟨hnow, hlimit⟩

theorem workOf_set {memories : List Memory} (hmemory : memories[slot]? = some memory)
    (after : Memory) :
    State.workOf (memories.set slot after) + State.memoryWork memory =
      State.workOf memories + State.memoryWork after := by
  induction memories generalizing slot with
  | nil => simp at hmemory
  | cons first rest ih =>
      cases slot with
      | zero =>
          rw [List.getElem?_cons_zero, Option.some.injEq] at hmemory
          subst hmemory
          rw [List.set_cons_zero, State.workOf, State.workOf]
          omega
      | succ slot =>
          have hrest := ih (by simpa using hmemory)
          rw [List.set_cons_succ, State.workOf, State.workOf]
          omega

theorem Fired.work_lt {after : Memory} {added : List Happening} {next : State}
    (hmemory : state.registry.memories[slot]? = some memory)
    (hfired : Fired setting state slot time memory after added next) : next.work < state.work := by
  have hset := workOf_set hmemory after
  have hlt := hfired.work
  rw [State.work, State.work, hfired.memories]
  omega

/-- **The handling comes to its end.** Behind its last step no memory goes on. -/
theorem soonest?_advanceBy {steps : Nat} {state : State} (hsteps : state.work ≤ steps) :
    (State.advanceBy setting none steps state).soonest? 0
      (State.advanceBy setting none steps state).registry.memories = none := by
  -- A step leaves less work, so the steps last.
  induction steps generalizing state with
  | zero =>
      rw [State.advanceBy]
      cases hsoonest : state.soonest? 0 state.registry.memories with
      | none => rfl
      | some found =>
          obtain ⟨memory, after, added, hmemory, hfired⟩ :=
            fired_of_soonest? setting hsoonest
          have hlt := hfired.work_lt hmemory
          omega
  | succ steps ih =>
      rw [State.advanceBy]
      cases hsoonest : state.soonest? 0 state.registry.memories with
      | none => exact hsoonest
      | some found =>
          obtain ⟨memory, after, added, hmemory, hfired⟩ :=
            fired_of_soonest? setting hsoonest
          have hlt := hfired.work_lt hmemory
          simp only [Option.any_none, Bool.false_eq_true, if_false]
          exact ih (by omega)

theorem due?_finish (setting : Setting) (state : State) :
    ∀ memory ∈ (state.finish setting).registry.memories,
      (state.finish setting).due? memory = none :=
  due?_of_soonest?_eq_none (soonest?_advanceBy (Nat.le_refl _))

/-! ### The stop signal -/

/-- If the stop signal has not come behind a step, it did not come with it. -/
theorem Fired.stop_eq {after : Memory} {added : List Happening} {next : State}
    (hfired : Fired setting state slot time memory after added next)
    (hnext : next.isStopped = false) :
    next.stop = state.stop ∧ Clock.reached state.stop time = false := by
  rw [State.isStopped, hfired.now] at hnext
  rcases hfired.stop with hstop | hstop
  · exact ⟨hstop, hstop ▸ hnext⟩
  · rw [hstop, Clock.reached_earlier] at hnext
    simp at hnext

/-- A stop signal that has come is not taken back. -/
theorem Fired.isStopped {after : Memory} {added : List Happening} {next : State}
    (hfired : Fired setting state slot time memory after added next) (hnow : state.now ≤ time)
    (hnext : next.isStopped = false) : state.isStopped = false := by
  rw [Bool.eq_false_iff]
  intro hstopped
  have hreached := Clock.reached_of_le hnow hstopped
  rw [(hfired.stop_eq hnext).2] at hreached
  simp at hreached

end Processing

end ResourceWatch
