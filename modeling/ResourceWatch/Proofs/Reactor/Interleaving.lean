import ResourceWatch.Proofs.Reactor.Order

/-!
# Steps on some slots among those on others

The memories go on one at a time, each at its own due time. Some of the slots are looked at here: a
step on one of the others does not change when these go on, and a step on one of them depends on
nothing but its memory, the time and the calls for its own resource.
-/

namespace ResourceWatch.Processing

open Throttling

/-- The slot on which something happened. -/
def Happening.slot : Happening → Nat
  | .called call => call.slot
  | .settled _ slot _ => slot
  | .over _ slot _ => slot

variable {setting other : Setting} {state first second next : State} {limit : Option Time}
  {slot : Nat} {time due : Time} {memory after : Memory} {added : List Happening}

/-! ### The next step -/

/-- The next step that is taken up to a limit: when it is due, and on which slot. -/
def State.next? (state : State) (limit : Option Time) : Option (Time × Nat) :=
  (state.soonest? 0 state.registry.memories).filter fun (due, _) =>
    !limit.any fun limit => limit < due

/-- The state behind the step of a memory that is due. -/
def State.goOn (setting : Setting) (state : State) (slot : Nat) (due : Time) : State :=
  state.fire setting slot (max state.now due)

theorem advanceBy_of_next?_eq_none (hnext : state.next? limit = none) (steps : Nat) :
    State.advanceBy setting limit steps state = state := by
  cases steps with
  | zero => rfl
  | succ steps =>
      rw [State.advanceBy]
      split
      · rfl
      · rename_i due slot hsoonest
        rw [State.next?, hsoonest] at hnext
        split
        · rfl
        · rename_i hlimit
          simp [Option.filter, hlimit] at hnext

theorem soonest?_of_next? (hnext : state.next? limit = some (due, slot)) :
    state.soonest? 0 state.registry.memories = some (due, slot) ∧
      limit.any (fun limit => limit < due) = false := by
  simpa [State.next?, Option.filter_eq_some_iff] using hnext

theorem advanceBy_succ (hnext : state.next? limit = some (due, slot)) (steps : Nat) :
    State.advanceBy setting limit (steps + 1) state =
      State.advanceBy setting limit steps (state.goOn setting slot due) := by
  obtain ⟨hsoonest, hlimit⟩ := soonest?_of_next? hnext
  rw [State.advanceBy, hsoonest]
  simp only [hlimit, Bool.false_eq_true, if_false]
  rfl

/-- Of the memories that are due the next one is due first, and is the first of those that are due
at that time. -/
theorem soonest?_least {start : Nat} {memories : List Memory}
    (hsoonest : state.soonest? start memories = some (due, slot)) {place : Nat} {due' : Time}
    (hplace : memories[place]? = some memory) (hdue : state.due? memory = some due') :
    due ≤ due' ∧ (start + place < slot → due < due') := by
  induction memories generalizing start place due slot with
  | nil => simp at hplace
  | cons head rest ih =>
      rw [State.soonest?] at hsoonest
      rcases Clock.sooner_cases hsoonest with ⟨hfirst, hothers⟩ | ⟨hrest, hothers⟩
      · -- The first memory is next.
        obtain ⟨found, hfound, heq⟩ := Option.map_eq_some_iff.mp hfirst
        obtain ⟨rfl, rfl⟩ := Prod.mk.inj heq
        cases place with
        | zero =>
            obtain rfl : head = memory := by simpa using hplace
            rw [hfound, Option.some.injEq] at hdue
            exact ⟨Int.le_of_eq hdue, by omega⟩
        | succ place =>
            rw [List.getElem?_cons_succ] at hplace
            refine ⟨?_, by omega⟩
            cases hsoonest' : state.soonest? (start + 1) rest with
            | none =>
                rw [due?_of_soonest?_eq_none hsoonest' memory (List.mem_of_getElem? hplace)] at hdue
                simp at hdue
            | some other =>
                exact Int.le_trans (hothers other hsoonest') (ih hsoonest' hplace).1
      · cases place with
        | zero =>
            obtain rfl : head = memory := by simpa using hplace
            have hlt := hothers (due', start) (by simp [hdue])
            exact ⟨Int.le_of_lt hlt, fun _ => hlt⟩
        | succ place =>
            rw [List.getElem?_cons_succ] at hplace
            obtain ⟨hle, hlt⟩ := ih hrest hplace
            exact ⟨hle, fun hplace => hlt (by omega)⟩

/-- When the memory in a slot goes on. -/
def State.dueAt? (state : State) (slot : Nat) : Option Time :=
  state.due? (state.memoryAt slot)

theorem getElem?_of_dueAt? (hdue : state.dueAt? slot = some due) :
    state.registry.memories[slot]? = some (state.memoryAt slot) := by
  rw [State.dueAt?, State.memoryAt] at hdue
  rw [State.memoryAt]
  cases hmemory : state.registry.memories[slot]? with
  | none => simp [hmemory, State.due?] at hdue
  | some memory => rfl

theorem dueAt?_of_next? (hnext : state.next? limit = some (due, slot)) :
    state.dueAt? slot = some due := by
  obtain ⟨place, memory, hslot, hplace, hdue⟩ := of_soonest? (soonest?_of_next? hnext).1
  obtain rfl : slot = place := by omega
  rw [State.dueAt?, State.memoryAt, hplace]
  exact hdue

theorem next?_least (hnext : state.next? limit = some (due, slot)) {other : Nat} {due' : Time}
    (hdue : state.dueAt? other = some due') : due ≤ due' ∧ (other < slot → due < due') := by
  have hleast := soonest?_least (soonest?_of_next? hnext).1 (getElem?_of_dueAt? hdue) hdue
  rwa [Nat.zero_add] at hleast

/-- If a memory is due up to the limit, a step is taken. -/
theorem exists_next? (hdue : state.dueAt? slot = some due)
    (hlimit : limit.any (fun limit => limit < due) = false) :
    ∃ due' slot', state.next? limit = some (due', slot') := by
  have hplace := getElem?_of_dueAt? hdue
  cases hsoonest : state.soonest? 0 state.registry.memories with
  | none =>
      rw [State.dueAt?, due?_of_soonest?_eq_none hsoonest _ (List.mem_of_getElem? hplace)] at hdue
      simp at hdue
  | some found =>
      obtain ⟨due', slot'⟩ := found
      obtain ⟨hle, -⟩ := soonest?_least hsoonest hplace hdue
      refine ⟨due', slot', ?_⟩
      rw [State.next?, hsoonest, Option.filter_some, if_pos]
      cases limit with
      | none => rfl
      | some limit =>
          simp only [Option.any_some, decide_eq_false_iff_not, Int.not_lt,
            Bool.not_eq_true'] at hlimit ⊢
          exact Int.le_trans hle hlimit

theorem fired_goOn (setting : Setting) (hnext : state.next? limit = some (due, slot)) :
    ∃ after added, Fired setting state slot (max state.now due) (state.memoryAt slot) after added
      (state.goOn setting slot due) := by
  have hdue := dueAt?_of_next? hnext
  exact fired_fire setting (getElem?_of_dueAt? hdue) hdue (Int.le_max_left _ _)
    (Int.le_max_right _ _)

theorem goOn_work_lt (setting : Setting) (hnext : state.next? limit = some (due, slot)) :
    (state.goOn setting slot due).work < state.work := by
  obtain ⟨after, added, hfired⟩ := fired_goOn setting hnext
  exact hfired.work_lt (getElem?_of_dueAt? (dueAt?_of_next? hnext))

/-- Steps that are enough for all the work begin with the next one. -/
theorem exists_succ_of_work {steps : Nat} (hwork : state.work ≤ steps)
    (hnext : state.next? limit = some (due, slot)) (setting : Setting) :
    ∃ less, steps = less + 1 ∧ (state.goOn setting slot due).work ≤ less := by
  have hlt := goOn_work_lt setting hnext
  exact ⟨steps - 1, by omega, by omega⟩

/-- An event that comes before the stop signal is dispatched. -/
theorem take_eq (hstopped : (state.wait setting time).isStopped = false) (event : Event) :
    state.take setting time event =
      (((state.wait setting time).dispatch setting event).1.wait setting time,
        ((state.wait setting time).dispatch setting event).2.elim .goesOn .fails) := by
  simp only [State.take, hstopped, Bool.false_eq_true, if_false]
  generalize (state.wait setting time).dispatch setting event = result
  obtain ⟨next, failure⟩ := result
  cases failure <;> rfl

/-! ### The same step in two states -/

/-- Settings that differ at most in what the handler does for other resources. -/
structure Setting.Agree (uid : Text) (setting other : Setting) : Prop where
  handler : setting.handler uid = other.handler uid
  template : setting.template = other.template
  cells : setting.cells = other.cells
  delays : setting.delays = other.delays

theorem proceeded_congr {uid : Text} (hagree : Setting.Agree uid setting other)
    (first second : State) (hnow : first.now = second.now) (memory : Memory) {job : Job} {step : Step}
    (hcall : step.next = .call →
      job.uid = uid ∧ first.callCount uid = second.callCount uid) :
    proceeded setting first slot memory job step =
      proceeded other second slot memory job step := by
  unfold proceeded
  cases hnext : step.next with
  | wait stage => rfl
  | call =>
      obtain ⟨rfl, hcount⟩ := hcall hnext
      simp only [hagree.handler, hagree.cells, hcount, hnow]
  | «over» succeeded => rfl

theorem proceeded_of_ne_call {job : Job} {step : Step} (hcall : step.next ≠ .call)
    (first second : State) :
    proceeded setting first slot memory job step = proceeded setting second slot memory job step := by
  unfold proceeded
  cases hnext : step.next with
  | wait stage => rfl
  | call => exact absurd hnext hcall
  | «over» succeeded => rfl

/-- No call is made at the end of another one, nor at the end of the wait behind it. -/
theorem next_fire_ne_call (setting : Throttling.Setting) (stop : Option Time) (throttler : Throttler)
    (now : Time) {stage : Stage} (hstage : ∀ due, stage ≠ .resting due) :
    (setting.fire stop throttler now stage).next ≠ .call := by
  cases stage with
  | resting due => exact absurd rfl (hstage due)
  | calling due failure =>
      rw [Throttling.Setting.fire]
      unfold Throttling.Setting.settle
      split
      · simp only [ne_eq, reduceCtorEq, not_false_eq_true]
      · simp only
        split <;> simp only [ne_eq, reduceCtorEq, not_false_eq_true]
  | cooling due =>
      rw [Throttling.Setting.fire]
      split <;> simp only [ne_eq, reduceCtorEq, not_false_eq_true]

/-- What a memory goes on with. -/
structure Plan where
  /-- The memory without the job. -/
  memory : Memory
  job : Job
  step : Step
  /-- The end of a call, if that is what was waited for. -/
  settled : List Happening

/-- What a memory goes on with at a time. -/
def plan? (throttling : Throttling.Setting) (stop : Option Time) (time : Time) (slot : Nat)
    (memory : Memory) : Option Plan :=
  match memory.queue.running with
  | none => memory.queue.turn?.map fun (job, queue) =>
      ⟨{ memory with queue }, job, Throttling.Setting.enter memory.throttler time, []⟩
  | some ⟨job, stage⟩ =>
      some ⟨memory, job, throttling.fire stop memory.throttler time stage,
        match stage with
        | .calling _ failure => [.settled job.number slot failure]
        | _ => []⟩

theorem exists_plan (throttling : Throttling.Setting) (stop : Option Time) (time : Time) (slot : Nat)
    (hdue : state.due? memory = some due) :
    ∃ plan, plan? throttling stop time slot memory = some plan := by
  unfold plan?
  rcases hrunning : memory.queue.running with _ | ⟨job, stage⟩
  · rcases hwaiting : memory.queue.waiting with _ | ⟨job, rest⟩
    · simp [State.due?, hrunning, hwaiting] at hdue
    · simp [Queue.turn?, hrunning, hwaiting]
  · exact ⟨_, rfl⟩

/-- The handler is called for the first job that waits. -/
theorem mem_uncalled_of_plan {throttling : Throttling.Setting} {stop : Option Time} {plan : Plan}
    (hplan : plan? throttling stop time slot memory = some plan) (hcall : plan.step.next = .call) :
    plan.job ∈ memory.uncalled := by
  unfold plan? at hplan
  split at hplan
  · rename_i hrunning
    obtain ⟨⟨job, queue⟩, hturn, rfl⟩ := Option.map_eq_some_iff.mp hplan
    rcases hwaiting : memory.queue.waiting with _ | ⟨first, rest⟩
    · simp [Queue.turn?, hrunning, hwaiting] at hturn
    · obtain ⟨rfl, -⟩ : first = job ∧ _ := by simpa [Queue.turn?, hrunning, hwaiting] using hturn
      simp [Memory.uncalled, hrunning, hwaiting]
  · rename_i job stage hrunning
    obtain rfl := Option.some.inj hplan
    cases stage with
    | resting due => simp [Memory.uncalled, hrunning]
    | calling due failure => exact absurd hcall (next_fire_ne_call _ _ _ _ (by simp))
    | cooling due => exact absurd hcall (next_fire_ne_call _ _ _ _ (by simp))

theorem framed_fire (setting : Setting) (hmemory : state.registry.memories[slot]? = some memory)
    {plan : Plan} (hplan : plan? setting.throttling state.stop time slot memory = some plan) :
    Framed state slot time
      (proceeded setting { state with now := time } slot plan.memory plan.job plan.step).1
      (plan.settled ++
        (proceeded setting { state with now := time } slot plan.memory plan.job plan.step).2)
      (state.fire setting slot time) := by
  unfold plan? at hplan
  rcases hrunning : memory.queue.running with _ | ⟨job, stage⟩
  · rw [hrunning] at hplan
    obtain ⟨⟨job, queue⟩, hturn, rfl⟩ := Option.map_eq_some_iff.mp hplan
    simp only [State.fire, hmemory, hturn]
    split
    · exact (framed_proceed setting { state with now := time } hmemory _ job _).of_now
    · rename_i hother
      simp [hrunning] at hother
  · rw [hrunning] at hplan
    obtain rfl := Option.some.inj hplan
    simp only [State.fire, hmemory, hrunning]
    cases stage with
    | resting due =>
        exact (framed_proceed setting { state with now := time } hmemory memory job _).of_now
    | calling due failure =>
        have hframed := (framed_proceed setting
          (State.record { state with now := time } (.settled job.number slot failure)) hmemory
          memory job (setting.throttling.fire state.stop memory.throttler time
            (.calling due failure))).of_record
        rwa [proceeded_of_ne_call (next_fire_ne_call _ _ _ _ (by simp)) _
          { state with now := time }] at hframed
    | cooling due =>
        exact (framed_proceed setting { state with now := time } hmemory memory job _).of_now

/-- **A step depends on little.** If a memory is the same in two states, and so is what the handler
does for the jobs that wait, then the same becomes of it. -/
theorem exists_framed_fire {uid : Text} (hagree : Setting.Agree uid setting other)
    (hfirst : first.registry.memories[slot]? = some memory)
    (hsecond : second.registry.memories[slot]? = some memory) (hstop : first.stop = second.stop)
    (hcount : first.callCount uid = second.callCount uid)
    (huid : ∀ job ∈ memory.uncalled, job.uid = uid) (hdue : first.due? memory = some due)
    (time : Time) :
    ∃ after added, Framed first slot time after added (first.fire setting slot time) ∧
      Framed second slot time after added (second.fire other slot time) := by
  have hthrottling : other.throttling = setting.throttling := by
    rw [Setting.throttling, Setting.throttling, hagree.delays]
  obtain ⟨plan, hplan⟩ := exists_plan setting.throttling first.stop time slot hdue
  have hplan' : plan? other.throttling second.stop time slot memory = some plan := by
    rw [hthrottling, ← hstop, hplan]
  have hframed := framed_fire other hsecond hplan'
  rw [← proceeded_congr hagree { first with now := time } { second with now := time } rfl
    plan.memory fun hcall => ⟨huid _ (mem_uncalled_of_plan hplan hcall), hcount⟩] at hframed
  exact ⟨_, _, framed_fire setting hfirst hplan, hframed⟩

end ResourceWatch.Processing
