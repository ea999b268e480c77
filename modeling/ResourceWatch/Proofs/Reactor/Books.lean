import ResourceWatch.Proofs.Reactor.Receiving

/-!
# What is known at each point of a run

Whether or not the stop signal has come, each job that was queued on a slot is done with or waits
there, in the order in which the jobs came, and none is called twice. The calls under way and the
waits are those that the trace and the throttling tell of.
-/

namespace ResourceWatch.Processing

open Throttling

/-- The numbers of the jobs on a slot that are done with. -/
def oversOn (slot : Nat) (history : History) : List Nat :=
  history.filterMap fun entry =>
    match entry.2 with
    | .over number place _ => if place = slot then some number else none
    | _ => none

variable {setting : Setting} {state next last : State} {slot : Nat} {time due : Time}
  {memory after : Memory} {added : List Happening} {jobs more : List (Job × Nat)}
  {stop : Option Time} {on : State → Prop} {history : History}

theorem oversOn_append (slot : Nat) (history more : History) :
    oversOn slot (history ++ more) = oversOn slot history ++ oversOn slot more :=
  List.filterMap_append

theorem of_mem_oversOn {number : Nat} (hmem : number ∈ oversOn slot history) :
    ∃ time succeeded, (time, Happening.over number slot succeeded) ∈ history := by
  obtain ⟨⟨time, happening⟩, hentry, hover⟩ := List.mem_filterMap.mp hmem
  rcases happening with call | ⟨number', place, failure⟩ | ⟨number', place, succeeded⟩
  · simp at hover
  · simp at hover
  · obtain ⟨rfl, rfl⟩ : place = slot ∧ number' = number := by simpa using hover
    exact ⟨time, succeeded, hentry⟩

theorem oversOn_of_foreign (hforeign : ∀ entry ∈ history, entry.2.slot ≠ slot) :
    oversOn slot history = [] := by
  apply List.eq_nil_iff_forall_not_mem.mpr
  intro number hmem
  obtain ⟨time, succeeded, hover⟩ := of_mem_oversOn hmem
  exact hforeign _ hover rfl

theorem calledOn_of_foreign (hforeign : ∀ entry ∈ history, entry.2.slot ≠ slot) :
    calledOn slot history = [] :=
  calledOn_of_hasNoCall fun _ _ hcall => hforeign _ hcall

/-! ### Jobs that nothing was done with -/

theorem Untouched.calledOn_eq {jobs : List Job} (huntouched : Untouched slot state next jobs) :
    calledOn slot next.trace = calledOn slot state.trace := by
  obtain ⟨added, htrace, hforeign⟩ := huntouched.trace
  rw [htrace, calledOn_append, calledOn_of_foreign hforeign, List.append_nil]

theorem Untouched.oversOn_eq {jobs : List Job} (huntouched : Untouched slot state next jobs) :
    oversOn slot next.trace = oversOn slot state.trace := by
  obtain ⟨added, htrace, hforeign⟩ := huntouched.trace
  rw [htrace, oversOn_append, oversOn_of_foreign hforeign, List.append_nil]

theorem Untouched.uncalled {jobs : List Job} (huntouched : Untouched slot state next jobs) :
    (next.memoryAt slot).uncalled = (state.memoryAt slot).uncalled ++ jobs := by
  rw [Memory.uncalled, Memory.uncalled, huntouched.running, huntouched.waiting]
  split <;> rfl

theorem Untouched.unfinished {jobs : List Job} (huntouched : Untouched slot state next jobs) :
    (next.memoryAt slot).unfinished = (state.memoryAt slot).unfinished ++ jobs := by
  rw [Memory.unfinished, Memory.unfinished, huntouched.running, huntouched.waiting,
    List.append_assoc]

/-- Nobody waits longer than until a wait is over. -/
theorem Moves.now_le_of_waits (hmove : Moves setting state jobs next) {more : List Job}
    (huntouched : Untouched slot state next more) {job : Job} {stage : Stage}
    (hrunning : (state.memoryAt slot).queue.running = some ⟨job, stage⟩)
    (hwaits : stage.waitsUntil? = some due) (hle : state.now ≤ due) : next.now ≤ due := by
  obtain ⟨ended, hended, hbefore⟩ : ∃ ended, state.dueAt? slot = some ended ∧ ended ≤ due := by
    cases stage with
    | calling => simp [Stage.waitsUntil?] at hwaits
    | resting | cooling =>
        obtain rfl := Option.some.inj hwaits
        rw [State.dueAt?, State.due?, hrunning]
        cases hstop : state.stop with
        | none => exact ⟨_, rfl, Int.le_refl _⟩
        | some stop => exact ⟨_, rfl, Int.min_le_right _ _⟩
  cases hmove with
  | goesOn due' slot' hnext =>
      obtain ⟨after, added, hframed, -⟩ := stepped_goOn setting hnext
      rw [hframed.now]
      exact Int.max_le.mpr ⟨hle, Int.le_trans (next?_least hnext hended).1 hbefore⟩
  | waits time _ hquiet =>
      exact Int.le_of_lt (Int.lt_of_lt_of_le (hquiet slot ended hended) hbefore)
  | queues | counts => exact hle

/-! ### What a step does to the jobs -/

theorem calledOn_singleton_of_ne {happening : Happening}
    (hne : ∀ call, happening ≠ .called call) : calledOn slot [(time, happening)] = [] := by
  apply calledOn_of_hasNoCall
  intro at_ call hmem
  rw [List.mem_singleton, Prod.mk.injEq] at hmem
  exact absurd hmem.2.symm (hne call)

/-- **A step calls the handler for the first job that waits, or not at all**, and skips it only if
the stop signal has come. -/
theorem Stepped.calledOn_uncalled
    (hstepped : Stepped setting state slot time memory after added stop) :
    calledOn slot (added.map (time, ·)) ++ after.uncalled = memory.uncalled ∨
      (∃ job due, memory.queue.running = some ⟨job, .resting due⟩ ∧
        Clock.reached state.stop time = true ∧ added = [.over job.number slot false] ∧
        memory.uncalled = job :: after.uncalled) := by
  have hnone (number : Nat) (succeeded : Bool) :
      calledOn slot [(time, Happening.over number slot succeeded)] = [] :=
    calledOn_singleton_of_ne (by simp)
  have hsettled (number : Nat) (failure : Option Thrown) (rest : History) :
      calledOn slot ((time, Happening.settled number slot failure) :: rest) =
        calledOn slot rest := by
    simp [calledOn, callsIn]
  cases hstepped with
  | rests job due hrunning hwaiting hactive hafter =>
      exact .inl (by simp [Memory.uncalled, hrunning, hafter, hwaiting, calledOn, callsIn])
  | calls call stop hfree hslot hafter =>
      left
      rw [List.map_singleton, ← hslot, calledOn_called]
      rcases hfree with ⟨hrunning, hwaiting, -⟩ | ⟨due, hrunning, hwaiting, -⟩
      · simp [Memory.uncalled, hrunning, hafter, hwaiting]
      · simp [Memory.uncalled, hrunning, hafter, hwaiting]
  | ends job due failure succeeded hrunning hdue hafter hwaiting =>
      left
      rw [List.map_cons, hsettled, List.map_singleton, hnone]
      simp [Memory.uncalled, hrunning, hafter, hwaiting]
  | fails job due error delay hrunning hdue hdelay hafter hwaiting =>
      left
      generalize time + (Clock.timer delay : Int) = ended at hafter
      rw [List.map_singleton, hsettled]
      simp [Memory.uncalled, hrunning, hafter, hwaiting, calledOn, callsIn]
  | cools job due hrunning hdue hgoing hafter hwaiting =>
      left
      rw [List.map_singleton, hnone]
      simp [Memory.uncalled, hrunning, hafter, hwaiting]
  | breaksOff job stage due hrunning hwaits hstopped hafter hwaiting =>
      cases stage with
      | calling => simp [Stage.waitsUntil?] at hwaits
      | resting due =>
          refine .inr ⟨job, due, hrunning, hstopped, rfl, ?_⟩
          simp [Memory.uncalled, hrunning, hafter, hwaiting]
      | cooling due =>
          left
          rw [List.map_singleton, hnone]
          simp [Memory.uncalled, hrunning, hafter, hwaiting]

theorem Stepped.calledOn_sublist
    (hstepped : Stepped setting state slot time memory after added stop) :
    (calledOn slot (added.map (time, ·)) ++ after.uncalled).Sublist memory.uncalled := by
  rcases hstepped.calledOn_uncalled with heq | ⟨job, due, -, -, rfl, huncalled⟩
  · exact heq ▸ List.Sublist.refl _
  · rw [huncalled, List.map_singleton, calledOn_singleton_of_ne (by simp)]
    exact List.sublist_cons_self job _

/-- A step is done with the job under way, or leaves it and all others. -/
theorem Stepped.oversOn_unfinished
    (hstepped : Stepped setting state slot time memory after added stop) :
    oversOn slot (added.map (time, ·)) ++ after.unfinished.map Job.number =
      memory.unfinished.map Job.number := by
  cases hstepped with
  | rests job due hrunning hwaiting hactive hafter =>
      simp [oversOn, Memory.unfinished, hrunning, hafter, hwaiting]
  | calls call stop hfree hslot hafter =>
      rcases hfree with ⟨hrunning, hwaiting, -⟩ | ⟨due, hrunning, hwaiting, -⟩
      · simp [oversOn, Memory.unfinished, hrunning, hafter, hwaiting]
      · simp [oversOn, Memory.unfinished, hrunning, hafter, hwaiting]
  | ends job due failure succeeded hrunning hdue hafter hwaiting =>
      simp [oversOn, Memory.unfinished, hrunning, hafter, hwaiting]
  | fails job due error delay hrunning hdue hdelay hafter hwaiting =>
      generalize time + (Clock.timer delay : Int) = ended at hafter
      simp [oversOn, Memory.unfinished, hrunning, hafter, hwaiting]
  | cools job due hrunning hdue hgoing hafter hwaiting =>
      simp [oversOn, Memory.unfinished, hrunning, hafter, hwaiting]
  | breaksOff job stage due hrunning hwaits hstopped hafter hwaiting =>
      simp [oversOn, Memory.unfinished, hrunning, hafter, hwaiting]

/-- A failure starts a delay, if there is one. -/
theorem isSome_activeUntil_failed {throttler : Throttler} {delays : List Number} {delay : Number}
    (hdelay : throttler.nextDelay? delays = some delay) (now : Time) :
    (throttler.failed delays now).activeUntil.isSome = true := by
  simp [Throttler.failed, hdelay]

/-! ### What is known between two moves -/

/-- What a run that has queued these jobs knows of them. -/
structure Books (setting : Setting) (jobs : List (Job × Nat)) (state : State) : Prop where
  isRemembered : state.registry.IsRemembered
  queued : state.queued = jobs.length
  numbered : jobs.map (·.1.number) = List.range jobs.length
  called (slot : Nat) :
    (calledOn slot state.trace ++ (state.memoryAt slot).uncalled).Sublist (jobsOn slot jobs)
  finished (slot : Nat) :
    oversOn slot state.trace ++ (state.memoryAt slot).unfinished.map Job.number =
      (jobsOn slot jobs).map Job.number
  /-- A wait is not yet over, and is one for the throttling of failures. -/
  waits (slot : Nat) (job : Job) (stage : Stage) (due : Time)
    (hrunning : (state.memoryAt slot).queue.running = some ⟨job, stage⟩)
    (hwaits : stage.waitsUntil? = some due) :
    state.now ≤ due ∧ (state.memoryAt slot).throttler.activeUntil.isSome = true
  calling (slot : Nat) (job : Job) (due : Option Time) (failure : Option Thrown)
    (hrunning : (state.memoryAt slot).queue.running = some ⟨job, .calling due failure⟩) :
    ∃ place time call, state.trace[place]? = some (time, .called call) ∧ call.job = job ∧
      call.slot = slot ∧ due = (behaviourAt setting state.trace place call).settlesAt? time
  past : ∀ entry ∈ state.trace, entry.1 ≤ state.now

/-- What is known of a slot, if it was left alone. -/
theorem Books.calling_append (hbooks : Books setting jobs state) {more : History} {job : Job}
    {due : Option Time} {failure : Option Thrown}
    (hrunning : (state.memoryAt slot).queue.running = some ⟨job, .calling due failure⟩) :
    ∃ place time call, (state.trace ++ more)[place]? = some (time, .called call) ∧ call.job = job ∧
      call.slot = slot ∧
      due = (behaviourAt setting (state.trace ++ more) place call).settlesAt? time := by
  obtain ⟨place, time, call, hplace, hjob, hslot, hdue⟩ :=
    hbooks.calling slot job due failure hrunning
  have hlt : place < state.trace.length := (List.getElem?_eq_some_iff.mp hplace).1
  refine ⟨place, time, call, ?_, hjob, hslot, ?_⟩
  · rw [List.getElem?_append_left hlt, hplace]
  · rw [behaviourAt_append (Nat.le_of_lt hlt), hdue]

theorem Moves.queued (hmove : Moves setting state more next) :
    next.queued = state.queued + more.length ∧
      more.map (·.1.number) = (List.range more.length).map (state.queued + ·) := by
  cases hmove with
  | goesOn due slot hnext =>
      obtain ⟨after, added, hframed, -⟩ := stepped_goOn setting hnext
      exact ⟨hframed.queued, rfl⟩
  | waits | counts | queues => exact ⟨rfl, rfl⟩

theorem Moves.past (hmove : Moves setting state more next)
    (hpast : ∀ entry ∈ state.trace, entry.1 ≤ state.now) :
    ∀ entry ∈ next.trace, entry.1 ≤ next.now := by
  have hnow := hmove.now_le
  have hearlier : ∀ entry ∈ state.trace, entry.1 ≤ next.now :=
    fun entry hentry => Int.le_trans (hpast entry hentry) hnow
  cases hmove with
  | goesOn due slot hnext =>
      obtain ⟨after, added, hframed, -⟩ := stepped_goOn setting hnext
      intro entry hentry
      rw [hframed.trace] at hentry
      rcases List.mem_append.mp hentry with hold | hnew
      · exact hearlier entry hold
      · obtain ⟨happening, -, rfl⟩ := List.mem_map.mp hnew
        exact Int.le_of_eq hframed.now.symm
  | waits | counts | queues => exact hearlier

theorem Books.step_called (hbooks : Books setting jobs state)
    (hnext : state.next? none = some (due, slot)) :
    (calledOn slot (state.goOn setting slot due).trace ++
      ((state.goOn setting slot due).memoryAt slot).uncalled).Sublist (jobsOn slot jobs) := by
  obtain ⟨after, added, hframed, hstepped⟩ := stepped_goOn setting hnext
  rw [hframed.memoryAt_self (getElem?_of_dueAt? (dueAt?_of_next? hnext)), hframed.trace,
    calledOn_append, List.append_assoc]
  exact (List.Sublist.append_left hstepped.calledOn_sublist _).trans (hbooks.called slot)

theorem Books.step_finished (hbooks : Books setting jobs state)
    (hnext : state.next? none = some (due, slot)) :
    oversOn slot (state.goOn setting slot due).trace ++
        ((state.goOn setting slot due).memoryAt slot).unfinished.map Job.number =
      (jobsOn slot jobs).map Job.number := by
  obtain ⟨after, added, hframed, hstepped⟩ := stepped_goOn setting hnext
  rw [hframed.memoryAt_self (getElem?_of_dueAt? (dueAt?_of_next? hnext)), hframed.trace,
    oversOn_append, List.append_assoc, hstepped.oversOn_unfinished]
  exact hbooks.finished slot

theorem Books.step_waits (hnext : state.next? none = some (due, slot)) {job : Job} {stage : Stage}
    {until_ : Time}
    (hrunning : ((state.goOn setting slot due).memoryAt slot).queue.running = some ⟨job, stage⟩)
    (hwaits : stage.waitsUntil? = some until_) :
    (state.goOn setting slot due).now ≤ until_ ∧
      ((state.goOn setting slot due).memoryAt slot).throttler.activeUntil.isSome = true := by
  obtain ⟨after, added, hframed, hstepped⟩ := stepped_goOn setting hnext
  rw [hframed.memoryAt_self (getElem?_of_dueAt? (dueAt?_of_next? hnext))] at hrunning ⊢
  rw [hframed.now]
  generalize (state.goOn setting slot due).stop = stop at hstepped
  cases hstepped with
  | rests job' due' hbefore hwaiting hactive hafter hlt hthrottler =>
      obtain ⟨rfl, rfl⟩ : job' = job ∧ Stage.resting due' = stage := by
        simpa [hafter] using hrunning
      obtain rfl := Option.some.inj hwaits
      exact ⟨Int.le_of_lt hlt, by rw [hthrottler, hactive]⟩
  | calls call stop hfree hslot hafter =>
      obtain ⟨-, rfl⟩ := Handling.mk.inj (Option.some.inj (hafter.symm.trans hrunning))
      simp [Stage.waitsUntil?] at hwaits
  | fails job' due' error delay hbefore hdue hdelay hafter hwaiting hthrottler =>
      obtain ⟨-, rfl⟩ := Handling.mk.inj (Option.some.inj (hafter.symm.trans hrunning))
      obtain rfl := Option.some.inj hwaits
      exact ⟨Int.le_of_lt (lt_add_timer _ delay), by
        rw [hthrottler, isSome_activeUntil_failed hdelay]⟩
  | ends _ _ _ _ _ _ hafter => simp [hafter] at hrunning
  | cools _ _ _ _ _ hafter => simp [hafter] at hrunning
  | breaksOff _ _ _ _ _ _ hafter => simp [hafter] at hrunning

theorem Books.step_calling (hnext : state.next? none = some (due, slot)) {job : Job}
    {ended : Option Time} {failure : Option Thrown}
    (hrunning : ((state.goOn setting slot due).memoryAt slot).queue.running =
      some ⟨job, .calling ended failure⟩) :
    ∃ place time call, (state.goOn setting slot due).trace[place]? = some (time, .called call) ∧
      call.job = job ∧ call.slot = slot ∧
      ended = (behaviourAt setting (state.goOn setting slot due).trace place call).settlesAt?
        time := by
  obtain ⟨after, added, hframed, hstepped⟩ := stepped_goOn setting hnext
  rw [hframed.memoryAt_self (getElem?_of_dueAt? (dueAt?_of_next? hnext))] at hrunning
  generalize (state.goOn setting slot due).stop = stop at hstepped
  cases hstepped with
  | calls call stop hfree hslot hafter =>
      obtain ⟨rfl, hstage⟩ := Handling.mk.inj (Option.some.inj (hafter.symm.trans hrunning))
      refine ⟨state.trace.length, max state.now due, call, by simp [hframed.trace], rfl, hslot, ?_⟩
      rw [hframed.trace, behaviourAt_append (Nat.le_refl _), behaviourAt, List.take_length]
      exact (Stage.calling.inj hstage).1.symm
  | rests _ _ _ _ _ hafter => simp [hafter] at hrunning
  | fails _ _ _ _ _ _ _ hafter => cases hafter.symm.trans hrunning
  | ends _ _ _ _ _ _ hafter => simp [hafter] at hrunning
  | cools _ _ _ _ _ hafter => simp [hafter] at hrunning
  | breaksOff _ _ _ _ _ _ hafter => simp [hafter] at hrunning

/-- **Each move keeps the books.** -/
theorem Books.moves (hbooks : Books setting jobs state) (hmove : Moves setting state more next) :
    Books setting (jobs ++ more) next where
  isRemembered := hmove.isRemembered hbooks.isRemembered
  queued := by rw [hmove.queued.1, hbooks.queued, List.length_append]
  numbered := by
    rw [List.map_append, hbooks.numbered, hmove.queued.2, hbooks.queued, List.length_append,
      List.range_add]
  called slot := by
    -- A move is a step on this slot, with a lemma for each field, or else leaves it alone.
    rcases hmove.goesOn_or_untouched slot with ⟨due, hnext, rfl, rfl⟩ | huntouched
    · rw [List.append_nil]
      exact hbooks.step_called hnext
    · rw [huntouched.calledOn_eq, huntouched.uncalled, jobsOn_append, ← List.append_assoc]
      exact (hbooks.called slot).append_right _
  finished slot := by
    rcases hmove.goesOn_or_untouched slot with ⟨due, hnext, rfl, rfl⟩ | huntouched
    · rw [List.append_nil]
      exact hbooks.step_finished hnext
    · rw [huntouched.oversOn_eq, huntouched.unfinished, jobsOn_append, List.map_append,
        List.map_append, ← List.append_assoc, hbooks.finished slot]
  waits slot job stage due hrunning hwaits := by
    rcases hmove.goesOn_or_untouched slot with ⟨due, hnext, rfl, rfl⟩ | huntouched
    · exact Books.step_waits hnext hrunning hwaits
    · rw [huntouched.running] at hrunning
      obtain ⟨hle, hactive⟩ := hbooks.waits slot job stage due hrunning hwaits
      rw [huntouched.throttler]
      exact ⟨hmove.now_le_of_waits huntouched hrunning hwaits hle, hactive⟩
  calling slot job due failure hrunning := by
    rcases hmove.goesOn_or_untouched slot with ⟨due, hnext, rfl, rfl⟩ | huntouched
    · exact Books.step_calling hnext hrunning
    · rw [huntouched.running] at hrunning
      obtain ⟨added, htrace, -⟩ := huntouched.trace
      rw [htrace]
      exact hbooks.calling_append hrunning
  past := hmove.past hbooks.past

theorem Passage.books (hpassage : Passage setting on state more last)
    (hbooks : Books setting jobs state) : Books setting (jobs ++ more) last := by
  induction hpassage generalizing jobs with
  | rests => rwa [List.append_nil]
  | moves hon hmove _ ih =>
      rw [← List.append_assoc]
      exact ih (hbooks.moves hmove)

theorem books_of_isIdle {registry : Registry} (setting : Setting) (hidle : registry.IsIdle)
    (now : Time) (stop : Option Time) : Books setting [] { now, stop, registry } := by
  have hempty (slot : Nat) :
      (State.memoryAt { now, stop, registry } slot).queue.running = none ∧
        (State.memoryAt { now, stop, registry } slot).queue.waiting = [] := by
    rw [State.memoryAt]
    cases hmemory : registry.memories[slot]? with
    | none => exact ⟨rfl, rfl⟩
    | some memory =>
        have hqueue := hidle.isIdle memory (List.mem_of_getElem? hmemory)
        simpa [Queue.isIdle] using hqueue
  refine ⟨hidle.isRemembered, rfl, rfl, fun slot => ?_, fun slot => ?_, ?_, ?_, by simp⟩
  · rw [Memory.uncalled, (hempty slot).1, (hempty slot).2]
    exact List.Sublist.refl _
  · rw [Memory.unfinished, (hempty slot).1, (hempty slot).2]
    rfl
  · intro slot job stage due hrunning
    simp [(hempty slot).1] at hrunning
  · intro slot job due failure hrunning
    simp [(hempty slot).1] at hrunning

end ResourceWatch.Processing
