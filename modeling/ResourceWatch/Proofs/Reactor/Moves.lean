import ResourceWatch.Proofs.Number.Timers
import ResourceWatch.Proofs.Reactor.Handling
import ResourceWatch.Proofs.Reactor.Interleaving

/-!
# The moves of a run

A run gets on by steps of its memories, by waiting for the next event, and by queueing one. What a
step does is told here also for the time behind the stop signal, and the states that a run comes by
are told as a chain of moves from its start to its end.
-/

namespace ResourceWatch

open Throttling

/-- When the stage is over, if it is a wait. -/
def Throttling.Stage.waitsUntil? : Stage → Option Time
  | .resting due | .cooling due => some due
  | .calling .. => none

/-- The jobs that are not done with. -/
def Memory.unfinished (memory : Memory) : List Job :=
  (memory.queue.running.map Handling.job).toList ++ memory.queue.waiting

namespace Processing

variable {setting : Setting} {state next last : State} {slot : Nat} {time due : Time}
  {memory after : Memory} {added : List Happening} {jobs more : List (Job × Nat)}

/-! ### What a step does, before and behind the stop signal -/

/-- All that a step can do on its slot, and what becomes of the stop signal. -/
inductive Stepped (setting : Setting) (state : State) (slot : Nat) (time : Time)
    (memory after : Memory) : List Happening → Option Time → Prop where
  /-- The throttling of earlier failures is waited out first. -/
  | rests (job : Job) (due : Time) (hrunning : memory.queue.running = none)
      (hwaiting : memory.queue.waiting = job :: after.queue.waiting)
      (hactive : memory.throttler.activeUntil.isSome = true)
      (hafter : after.queue.running = some ⟨job, .resting due⟩) (hlt : time < due)
      (hthrottler : after.throttler = memory.throttler) :
      Stepped setting state slot time memory after [] state.stop
  | calls (call : Call) (stop : Option Time)
      (hfree : memory.queue.running = none ∧
          memory.queue.waiting = call.job :: after.queue.waiting ∧
          memory.throttler.activeUntil = none ∨
        ∃ due, memory.queue.running = some ⟨call.job, .resting due⟩ ∧
          after.queue.waiting = memory.queue.waiting ∧ due ≤ time ∧
          Clock.reached state.stop time = false)
      (hslot : call.slot = slot)
      (hafter : after.queue.running = some ⟨call.job, .calling
        ((setting.handler call.job.uid (state.callCount call.job.uid)).settlesAt? time)
        (setting.handler call.job.uid (state.callCount call.job.uid)).failure⟩)
      (hthrottler : after.throttler = memory.throttler.rested)
      (hstop : stop = state.stop ∨ stop = Clock.earlier state.stop (some time)) :
      Stepped setting state slot time memory after [.called call] stop
  | ends (job : Job) (due : Time) (failure : Option Thrown) (succeeded : Bool)
      (hrunning : memory.queue.running = some ⟨job, .calling (some due) failure⟩)
      (hdue : due ≤ time) (hafter : after.queue.running = none)
      (hwaiting : after.queue.waiting = memory.queue.waiting)
      (hthrottler : failure = none ∧ after.throttler = memory.throttler.succeeded ∨
        memory.throttler.nextDelay? setting.delays = none) :
      Stepped setting state slot time memory after
        [.settled job.number slot failure, .over job.number slot succeeded] state.stop
  | fails (job : Job) (due : Time) (error : Thrown) (delay : Number)
      (hrunning : memory.queue.running = some ⟨job, .calling (some due) (some error)⟩)
      (hdue : due ≤ time) (hdelay : memory.throttler.nextDelay? setting.delays = some delay)
      (hafter : after.queue.running = some ⟨job, .cooling (time + Clock.timer delay)⟩)
      (hwaiting : after.queue.waiting = memory.queue.waiting)
      (hthrottler : after.throttler = memory.throttler.failed setting.delays time) :
      Stepped setting state slot time memory after [.settled job.number slot (some error)]
        state.stop
  | cools (job : Job) (due : Time)
      (hrunning : memory.queue.running = some ⟨job, .cooling due⟩) (hdue : due ≤ time)
      (hgoing : Clock.reached state.stop time = false) (hafter : after.queue.running = none)
      (hwaiting : after.queue.waiting = memory.queue.waiting)
      (hthrottler : after.throttler = memory.throttler.rested) :
      Stepped setting state slot time memory after [.over job.number slot false] state.stop
  /-- The stop signal interrupts a wait. -/
  | breaksOff (job : Job) (stage : Stage) (due : Time)
      (hrunning : memory.queue.running = some ⟨job, stage⟩)
      (hwaits : stage.waitsUntil? = some due) (hstopped : Clock.reached state.stop time = true)
      (hafter : after.queue.running = none)
      (hwaiting : after.queue.waiting = memory.queue.waiting)
      (hthrottler : after.throttler = memory.throttler) :
      Stepped setting state slot time memory after [.over job.number slot false] state.stop

theorem stop_proceed_of_ne_call (setting : Setting) (state : State) (slot : Nat)
    (memory : Memory) (job : Job) {step : Step} (hcall : step.next ≠ .call) :
    (state.proceed setting slot memory job step).stop = state.stop := by
  rcases hnext : step.next with stage | _ | succeeded
  · simp only [State.proceed, hnext]
  · exact absurd hnext hcall
  · simp only [State.proceed, hnext]

/-- Only a call can give the stop signal. -/
theorem stop_fire_of_ne_call (setting : Setting)
    (hmemory : state.registry.memories[slot]? = some memory)
    {plan : Plan} (hplan : plan? setting.throttling state.stop time slot memory = some plan)
    (hcall : plan.step.next ≠ .call) : (state.fire setting slot time).stop = state.stop := by
  unfold plan? at hplan
  rcases hrunning : memory.queue.running with _ | ⟨job, stage⟩
  · rw [hrunning] at hplan
    obtain ⟨⟨job, queue⟩, hturn, rfl⟩ := Option.map_eq_some_iff.mp hplan
    simp only [State.fire, hmemory, hturn]
    split
    · exact stop_proceed_of_ne_call _ _ _ _ _ hcall
    · rename_i hother
      simp [hrunning] at hother
  · rw [hrunning] at hplan
    obtain rfl := Option.some.inj hplan
    simp only [State.fire, hmemory, hrunning]
    cases stage with
    | resting due => exact stop_proceed_of_ne_call _ _ _ _ _ hcall
    | calling due failure => exact stop_proceed_of_ne_call _ _ _ _ _ hcall
    | cooling due => exact stop_proceed_of_ne_call _ _ _ _ _ hcall

theorem rested_of_eq_none {throttler : Throttler} (hactive : throttler.activeUntil = none) :
    throttler = throttler.rested := by
  cases throttler
  simp_all [Throttler.rested]

theorem lt_add_timer (time : Time) (delay : Number) : time < time + Clock.timer delay :=
  Int.lt_add_of_pos_right time (Int.natCast_pos.mpr (Clock.timer_pos delay))

/-- **What a step does**, whether or not the stop signal has come. -/
theorem stepped_fire (setting : Setting) (hmemory : state.registry.memories[slot]? = some memory)
    (hdue : state.due? memory = some due) (hle : due ≤ time) :
    ∃ after added, Framed state slot time after added (state.fire setting slot time) ∧
      Stepped setting state slot time memory after added (state.fire setting slot time).stop := by
  obtain ⟨plan, hplan⟩ := exists_plan setting.throttling state.stop time slot hdue
  have hframed := framed_fire setting hmemory hplan
  have hstop := stop_fire_of_ne_call setting hmemory hplan
  refine ⟨_, _, hframed, ?_⟩
  -- A call can stop the run itself, so what is known of the stop signal is kept for each case.
  replace hframed := hframed.stop
  generalize (state.fire setting slot time).stop = stop at hframed hstop ⊢
  rw [State.due?] at hdue
  unfold plan? at hplan
  rcases hrunning : memory.queue.running with _ | ⟨job, stage⟩
  · rw [hrunning] at hplan hdue
    obtain ⟨⟨job, queue⟩, hturn, rfl⟩ := Option.map_eq_some_iff.mp hplan
    rcases hwaiting : memory.queue.waiting with _ | ⟨first, rest⟩
    · simp [hwaiting] at hdue
    · simp only [Queue.turn?, hrunning, hwaiting, Option.some.injEq, Prod.mk.injEq] at hturn
      obtain ⟨rfl, rfl⟩ := hturn
      cases hactive : memory.throttler.activeUntil with
      | none =>
          simp only [proceeded, Throttling.Setting.enter, hactive]
          refine .calls _ _ (.inl ⟨hrunning, hwaiting, hactive⟩) rfl ?_
            (rested_of_eq_none hactive) hframed
          rw [← Behaviour.map_duration]
          rfl
      | some until_ =>
          simp only [proceeded, Throttling.Setting.enter, hactive] at hstop ⊢
          rw [hstop (fun heq => by cases heq)]
          exact .rests first _ hrunning hwaiting (by rw [hactive]; rfl) rfl (lt_add_timer time _)
            rfl
  · rw [hrunning] at hplan hdue
    obtain rfl := Option.some.inj hplan
    cases stage with
    | resting ended =>
        cases hreached : Clock.reached state.stop time with
        | true =>
            simp only [proceeded, Throttling.Setting.fire, hreached, if_true] at hstop ⊢
            rw [hstop (by simp)]
            exact .breaksOff job _ ended hrunning rfl hreached rfl rfl rfl
        | false =>
            simp only [proceeded, Throttling.Setting.fire, hreached, Bool.false_eq_true, if_false]
            refine .calls _ _ (.inr ⟨ended, hrunning, rfl, le_of_earlier hdue hle hreached,
              hreached⟩) rfl ?_ rfl hframed
            rw [← Behaviour.map_duration]
            rfl
    | calling settledAt failure =>
        obtain rfl : settledAt = some due := hdue
        rw [hstop (next_fire_ne_call _ _ _ _ (by simp))]
        cases failure with
        | none =>
            simp only [proceeded, Throttling.Setting.fire, Throttling.Setting.settle]
            exact .ends job due none true hrunning hle rfl rfl (.inl ⟨rfl, rfl⟩)
        | some error =>
            cases hdelay : memory.throttler.nextDelay? setting.delays with
            | none =>
                simp only [proceeded, Throttling.Setting.fire, Throttling.Setting.settle,
                  Setting.throttling, hdelay]
                exact .ends job due (some error) false hrunning hle rfl rfl (.inr hdelay)
            | some delay =>
                simp only [proceeded, Throttling.Setting.fire, Throttling.Setting.settle,
                  Setting.throttling, hdelay]
                exact .fails job due error delay hrunning hle hdelay rfl rfl rfl
    | cooling ended =>
        rw [hstop (next_fire_ne_call _ _ _ _ (by simp))]
        cases hreached : Clock.reached state.stop time with
        | true =>
            simp only [proceeded, Throttling.Setting.fire, hreached, if_true]
            exact .breaksOff job _ ended hrunning rfl hreached rfl rfl rfl
        | false =>
            simp only [proceeded, Throttling.Setting.fire, hreached, Bool.false_eq_true, if_false]
            exact .cools job ended hrunning (le_of_earlier hdue hle hreached) hreached rfl rfl rfl

/-! ### Moves -/

/-- A move of a run, and the job that it queues, if any. -/
inductive Moves (setting : Setting) (state : State) : List (Job × Nat) → State → Prop where
  | goesOn (due : Time) (slot : Nat) (hnext : state.next? none = some (due, slot)) :
      Moves setting state [] (state.goOn setting slot due)
  | waits (time : Time) (hle : state.now ≤ time)
      (hquiet : ∀ slot due, state.dueAt? slot = some due → time < due) :
      Moves setting state [] { state with now := time }
  | queues (uid : Text) (event : Event) (slot : Nat) (registry : Registry) (duplications : Nat)
      (hstopped : state.isStopped = false) (hkeeps : state.registry.Keeps slot registry) :
      Moves setting state [(⟨state.queued, uid, event⟩, slot)]
        { state with
          registry := registry.update slot fun memory =>
            { memory with queue := memory.queue.push ⟨state.queued, uid, event⟩ }
          queued := state.queued + 1
          duplications }
  | counts (duplications : Nat) : Moves setting state [] { state with duplications }

/-- What a memory waits for, and what is known of its calls, are the same in two states, but for the
jobs that were queued. -/
structure Untouched (slot : Nat) (state next : State) (more : List Job) : Prop where
  running : (next.memoryAt slot).queue.running = (state.memoryAt slot).queue.running
  waiting : (next.memoryAt slot).queue.waiting = (state.memoryAt slot).queue.waiting ++ more
  throttler : (next.memoryAt slot).throttler = (state.memoryAt slot).throttler
  trace : ∃ added, next.trace = state.trace ++ added ∧ ∀ entry ∈ added, entry.2.slot ≠ slot

theorem Untouched.refl (slot : Nat) (state : State) : Untouched slot state state [] :=
  ⟨rfl, by simp, rfl, [], by simp, by simp⟩

theorem Untouched.trans {first second third : State} {jobs more : List Job}
    (hfirst : Untouched slot first second jobs) (hsecond : Untouched slot second third more) :
    Untouched slot first third (jobs ++ more) := by
  obtain ⟨added, htrace, hadded⟩ := hfirst.trace
  obtain ⟨added', htrace', hadded'⟩ := hsecond.trace
  refine ⟨hsecond.running.trans hfirst.running, ?_, hsecond.throttler.trans hfirst.throttler,
    added ++ added', ?_, ?_⟩
  · rw [hsecond.waiting, hfirst.waiting, List.append_assoc]
  · rw [htrace', htrace, List.append_assoc]
  · intro entry hentry
    rcases List.mem_append.mp hentry with hmem | hmem
    · exact hadded entry hmem
    · exact hadded' entry hmem

theorem jobsOn_append (slot : Nat) (jobs more : List (Job × Nat)) :
    jobsOn slot (jobs ++ more) = jobsOn slot jobs ++ jobsOn slot more := by
  simp [jobsOn]

theorem Stepped.slot_eq {stop : Option Time}
    (hstepped : Stepped setting state slot time memory after added stop) :
    ∀ happening ∈ added, happening.slot = slot := by
  cases hstepped with
  | rests => simp
  | calls call stop hfree hslot => simpa [Happening.slot] using hslot
  | ends | fails | cools | breaksOff => simp [Happening.slot]

/-- A step of the memory whose turn it is. -/
theorem stepped_goOn (setting : Setting) (hnext : state.next? none = some (due, slot)) :
    ∃ after added,
      Framed state slot (max state.now due) after added (state.goOn setting slot due) ∧
        Stepped setting state slot (max state.now due) (state.memoryAt slot) after added
          (state.goOn setting slot due).stop := by
  have hdue := dueAt?_of_next? hnext
  exact stepped_fire setting (getElem?_of_dueAt? hdue) hdue (Int.le_max_right _ _)

/-- A move is a step on a slot, or else it leaves the slot alone. -/
theorem Moves.goesOn_or_untouched (hmove : Moves setting state jobs next) (slot : Nat) :
    (∃ due, state.next? none = some (due, slot) ∧ next = state.goOn setting slot due ∧ jobs = []) ∨
      Untouched slot state next (jobsOn slot jobs) := by
  cases hmove with
  | goesOn due other hnext =>
      by_cases hsame : other = slot
      · subst hsame
        exact .inl ⟨due, hnext, rfl, rfl⟩
      · obtain ⟨after, added, hframed, hstepped⟩ := stepped_goOn setting hnext
        have hmemory := hframed.memoryAt_of_ne (Ne.symm hsame)
        refine .inr ⟨by rw [hmemory], by rw [hmemory]; simp [jobsOn], by rw [hmemory], _,
          hframed.trace, fun entry hentry => ?_⟩
        obtain ⟨happening, hhappening, rfl⟩ := List.mem_map.mp hentry
        rwa [hstepped.slot_eq happening hhappening]
  | waits | counts => exact .inr ⟨rfl, by simp [jobsOn, State.memoryAt], rfl, [], by simp, by simp⟩
  | queues uid event other registry duplications hstopped hkeeps =>
      obtain ⟨hqueue, hthrottler⟩ := hkeeps.memory_eq slot
      refine .inr ⟨?_, ?_, ?_, [], by simp, by simp⟩
      all_goals rw [State.memoryAt, Registry.memory_update hkeeps.slot_lt]
      · have hrunning := congrArg Queue.running hqueue
        split <;> exact hrunning
      · have hwaiting := congrArg Queue.waiting hqueue
        by_cases hsame : other = slot
        · rw [if_pos hsame]
          simp only [Queue.push, hwaiting, jobsOn, hsame, decide_true, List.filter_cons_of_pos,
            List.filter_nil, List.map_singleton]
          rfl
        · rw [if_neg hsame, hwaiting]
          simp [jobsOn, hsame, State.memoryAt]
      · split <;> exact hthrottler

theorem Framed.now_le (hframed : Framed state slot (max state.now due) after added next) :
    state.now ≤ next.now :=
  hframed.now ▸ Int.le_max_left _ _

theorem Moves.now_le (hmove : Moves setting state jobs next) : state.now ≤ next.now := by
  cases hmove with
  | goesOn due slot hnext =>
      obtain ⟨after, added, hframed, -⟩ := stepped_goOn setting hnext
      exact hframed.now_le
  | waits time hle => exact hle
  | queues | counts => exact Int.le_refl _

theorem Moves.trace (hmove : Moves setting state jobs next) :
    ∃ added, next.trace = state.trace ++ added := by
  cases hmove with
  | goesOn due slot hnext =>
      obtain ⟨after, added, hframed, -⟩ := stepped_goOn setting hnext
      exact ⟨_, hframed.trace⟩
  | waits | queues | counts => exact ⟨[], by simp⟩

/-- A move can give the stop signal, at its time, but not take it back. -/
theorem Moves.stop (hmove : Moves setting state jobs next) :
    next.stop = state.stop ∨
      next.stop = some next.now ∧ ∀ before ∈ state.stop, next.now ≤ before := by
  cases hmove with
  | goesOn due slot hnext =>
      obtain ⟨after, added, hframed, -⟩ := stepped_goOn setting hnext
      rw [hframed.now]
      rcases hframed.stop with hstop | hstop
      · exact .inl hstop
      · rw [hstop]
        cases hbefore : state.stop with
        | none => exact .inr ⟨rfl, by simp⟩
        | some before =>
            by_cases hle : before ≤ max state.now due
            · exact .inl (congrArg some (Int.min_eq_left hle))
            · have hlt := Int.le_of_lt (Int.not_le.mp hle)
              exact .inr ⟨congrArg some (Int.min_eq_right hlt), by simpa using hlt⟩
  | waits | queues | counts => exact .inl rfl

theorem Moves.isRemembered (hmove : Moves setting state jobs next)
    (hremembered : state.registry.IsRemembered) : next.registry.IsRemembered := by
  cases hmove with
  | goesOn due slot hnext =>
      obtain ⟨after, added, hframed, -⟩ := stepped_goOn setting hnext
      rw [Registry.IsRemembered, hframed.slots, hframed.memories, List.length_set]
      exact hremembered
  | waits | counts => exact hremembered
  | queues uid event slot registry duplications hstopped hkeeps =>
      simpa [Registry.IsRemembered, Registry.update] using hkeeps.isRemembered

/-! ### Many moves -/

/-- Moves from one state to another through states of some kind, and the jobs that they queue. -/
inductive Passage (setting : Setting) (on : State → Prop) :
    State → List (Job × Nat) → State → Prop where
  | rests (state : State) : Passage setting on state [] state
  | moves {state between last : State} {jobs more : List (Job × Nat)} (hon : on state)
      (hmove : Moves setting state jobs between) (hrest : Passage setting on between more last) :
      Passage setting on state (jobs ++ more) last

variable {on : State → Prop}

theorem Passage.single (hon : on state) (hmove : Moves setting state jobs next) :
    Passage setting on state jobs next := by
  have hpassage := Passage.moves hon hmove (.rests next)
  rwa [List.append_nil] at hpassage

theorem Passage.trans (hpassage : Passage setting on state jobs next)
    (hrest : Passage setting on next more last) : Passage setting on state (jobs ++ more) last := by
  induction hpassage with
  | rests => exact hrest
  | moves hon hmove _ ih =>
      rw [List.append_assoc]
      exact .moves hon hmove (ih hrest)

theorem Passage.trans_nil (hpassage : Passage setting on state jobs next)
    (hrest : Passage setting on next [] last) : Passage setting on state jobs last := by
  have hall := hpassage.trans hrest
  rwa [List.append_nil] at hall

/-- **What each move preserves, a passage preserves.** -/
theorem Passage.induction {P : State → Prop} (hpassage : Passage setting on state jobs last)
    (hmoves : ∀ state jobs next, on state → Moves setting state jobs next → P state → P next)
    (hstate : P state) : P last := by
  induction hpassage with
  | rests => exact hstate
  | moves hon hmove _ ih => exact ih (hmoves _ _ _ hon hmove hstate)

theorem Passage.now_le (hpassage : Passage setting on state jobs last) : state.now ≤ last.now :=
  hpassage.induction (P := fun next => state.now ≤ next.now)
    (fun _ _ _ _ hmove hle => Int.le_trans hle hmove.now_le) (Int.le_refl _)

theorem Passage.isRemembered (hpassage : Passage setting on state jobs last)
    (hremembered : state.registry.IsRemembered) : last.registry.IsRemembered :=
  hpassage.induction (P := fun next => next.registry.IsRemembered)
    (fun _ _ _ _ hmove hstate => hmove.isRemembered hstate) hremembered

theorem Passage.trace (hpassage : Passage setting on state jobs last) :
    ∃ added, last.trace = state.trace ++ added := by
  refine hpassage.induction (P := fun next => ∃ added, next.trace = state.trace ++ added)
    (fun between _ next _ hmove hbetween => ?_) ⟨[], by simp⟩
  obtain ⟨added, hadded⟩ := hbetween
  obtain ⟨more, hmore⟩ := hmove.trace
  exact ⟨added ++ more, by rw [hmore, hadded, List.append_assoc]⟩

theorem Passage.stop (hpassage : Passage setting on state jobs last) :
    last.stop = state.stop ∨
      ∃ stop, last.stop = some stop ∧ state.now ≤ stop ∧ ∀ before ∈ state.stop, stop ≤ before := by
  induction hpassage with
  | rests => exact .inl rfl
  | @moves state between last _ _ _ hmove _ ih =>
      have hnow := hmove.now_le
      rcases hmove.stop with hstop | ⟨hstop, hearlier⟩
      · rcases ih with hlast | ⟨stop, hlast, hle, hearlier⟩
        · exact .inl (hlast.trans hstop)
        · exact .inr ⟨stop, hlast, Int.le_trans hnow hle, hstop ▸ hearlier⟩
      · rcases ih with hlast | ⟨later, hlast, hle', hearlier'⟩
        · exact .inr ⟨between.now, hlast.trans hstop, hnow, hearlier⟩
        · refine .inr ⟨later, hlast, Int.le_trans hnow hle', fun before hbefore => ?_⟩
          exact Int.le_trans (hearlier' between.now hstop) (hearlier before hbefore)

/-- Behind the stop signal it is known when it came. -/
theorem Passage.stop_eq_of_lt (hpassage : Passage setting on state jobs last) {stop : Time}
    (hlast : last.stop = some stop) (hlt : stop < state.now) : state.stop = some stop := by
  rcases hpassage.stop with hsame | ⟨other, hother, hle, -⟩
  · exact hsame ▸ hlast
  · rw [hlast, Option.some.injEq] at hother
    exact absurd hle (hother ▸ Int.not_le.mpr hlt)

/-- A move that goes beyond the stop signal does not give it. -/
theorem Moves.stop_eq_of_lt (hmove : Moves setting state jobs next)
    (hpassage : Passage setting on next more last) {stop : Time} (hlast : last.stop = some stop)
    (hlt : stop < next.now) : state.stop = some stop := by
  have hnext := hpassage.stop_eq_of_lt hlast hlt
  rcases hmove.stop with hstop | ⟨hstop, -⟩
  · rw [← hstop, hnext]
  · rw [hnext, Option.some.injEq] at hstop
    exact absurd hlt (hstop ▸ Int.lt_irrefl _)

theorem Passage.stop_eq_of_isStopped (hpassage : Passage setting on state jobs last)
    (hstopped : state.isStopped = true) : last.stop = state.stop := by
  rcases hpassage.stop with hsame | ⟨stop, hstop, hle, hearlier⟩
  · exact hsame
  · rw [State.isStopped] at hstopped
    cases hbefore : state.stop with
    | none => simp [hbefore, Clock.reached] at hstopped
    | some before =>
        simp only [hbefore, Clock.reached, decide_eq_true_eq] at hstopped
        have hle' := hearlier before hbefore
        rw [hstop, Int.le_antisymm hle' (Int.le_trans hstopped hle)]

theorem Passage.isStopped (hpassage : Passage setting on state jobs last)
    (hstopped : state.isStopped = true) : last.isStopped = true := by
  rw [State.isStopped, hpassage.stop_eq_of_isStopped hstopped]
  exact Clock.reached_of_le hpassage.now_le hstopped

/-- A stop signal that comes by a time still does so later on. -/
theorem Passage.reached (hpassage : Passage setting on state jobs last) {bound : Time}
    (hreached : Clock.reached state.stop bound = true) : Clock.reached last.stop bound = true := by
  rcases hpassage.stop with hsame | ⟨stop, hstop, -, hearlier⟩
  · rwa [hsame]
  · cases hbefore : state.stop with
    | none => simp [hbefore, Clock.reached] at hreached
    | some before =>
        simp only [hbefore, Clock.reached, decide_eq_true_eq] at hreached
        rw [hstop, Clock.reached, decide_eq_true_eq]
        exact Int.le_trans (hearlier before hbefore) hreached

theorem Moves.passage (hmove : Moves setting state jobs next) :
    Passage setting (fun _ => True) state jobs next :=
  .single trivial hmove

theorem Moves.isStopped (hmove : Moves setting state jobs next)
    (hstopped : state.isStopped = true) : next.isStopped = true :=
  hmove.passage.isStopped hstopped

theorem Moves.reached (hmove : Moves setting state jobs next) {bound : Time}
    (hreached : Clock.reached state.stop bound = true) : Clock.reached next.stop bound = true :=
  hmove.passage.reached hreached

end Processing

end ResourceWatch
