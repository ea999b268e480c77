import ResourceWatch.Proofs.Reactor.Books

/-!
# Turns and waits on a slot

A slot that can go on takes its step before the handling comes to its end, and until then nothing is
done on it. So a job whose turn it is gets its call or its wait at that moment, and a wait that is
not over before the stop signal is broken off when this comes. Behind that the handler is never
called on the slot again: its jobs have their calls in their order, up to the first one whose wait
is cut short.
-/

namespace ResourceWatch.Processing

open Throttling

/-- A throttling wait is under way on a slot, for a job, and is over at a time. -/
def State.IsWaiting (state : State) (slot : Nat) (job : Job) (due : Time) : Prop :=
  ∃ stage : Stage, (state.memoryAt slot).queue.running = some ⟨job, stage⟩ ∧
    stage.waitsUntil? = some due

/-- It is the turn of a job on its slot. -/
def State.IsTurn (state : State) (slot : Nat) (job : Job) : Prop :=
  (state.memoryAt slot).queue.running = none ∧ (state.memoryAt slot).queue.waiting.head? = some job

/-- The stop signal has come, and the handler is not called any more on a slot. -/
structure State.IsBarred (state : State) (slot : Nat) : Prop where
  isStopped : state.isStopped = true
  isActive : (state.memoryAt slot).throttler.activeUntil.isSome = true
  running : ∀ job due failure,
    (state.memoryAt slot).queue.running ≠ some ⟨job, .calling due failure⟩

variable {setting : Setting} {start state next last : State} {slot : Nat} {time due : Time}
  {memory after : Memory} {added : List Happening} {jobs more : List (Job × Nat)} {job : Job}
  {stop : Option Time} {on : State → Prop} {stopAt : Time}

theorem Untouched.isWaiting {jobs : List Job} (huntouched : Untouched slot state next jobs)
    (hwaiting : state.IsWaiting slot job due) : next.IsWaiting slot job due := by
  obtain ⟨stage, hrunning, hwaits⟩ := hwaiting
  exact ⟨stage, huntouched.running.trans hrunning, hwaits⟩

theorem Untouched.isTurn {jobs : List Job} (huntouched : Untouched slot state next jobs)
    (hturn : state.IsTurn slot job) : next.IsTurn slot job := by
  obtain ⟨hrunning, hhead⟩ := hturn
  refine ⟨huntouched.running.trans hrunning, ?_⟩
  rw [huntouched.waiting]
  cases hwaiting : (state.memoryAt slot).queue.waiting with
  | nil => simp [hwaiting] at hhead
  | cons first rest => simpa [hwaiting] using hhead

theorem State.IsWaiting.dueAt?_eq (hwaiting : state.IsWaiting slot job due) :
    state.dueAt? slot = Clock.earlier state.stop (some due) := by
  obtain ⟨stage, hrunning, hwaits⟩ := hwaiting
  rw [State.dueAt?, State.due?, hrunning]
  cases stage with
  | calling => simp [Stage.waitsUntil?] at hwaits
  | resting | cooling =>
      obtain rfl := Option.some.inj hwaits
      rfl

theorem State.IsTurn.dueAt?_eq (hturn : state.IsTurn slot job) :
    state.dueAt? slot = some state.now := by
  obtain ⟨hrunning, hhead⟩ := hturn
  rw [State.dueAt?, State.due?, hrunning]
  cases hwaiting : (state.memoryAt slot).queue.waiting with
  | nil => simp [hwaiting] at hhead
  | cons first rest => simp

theorem State.IsWaiting.isSome_dueAt? (hwaiting : state.IsWaiting slot job due) :
    (state.dueAt? slot).isSome = true := by
  rw [hwaiting.dueAt?_eq]
  cases state.stop <;> rfl

theorem Untouched.isSome_dueAt? {jobs : List Job} (huntouched : Untouched slot state next jobs)
    (hdue : (state.dueAt? slot).isSome = true) : (next.dueAt? slot).isSome = true := by
  rw [State.dueAt?, State.due?] at hdue ⊢
  rw [huntouched.running, huntouched.waiting]
  rcases hrunning : (state.memoryAt slot).queue.running with _ | ⟨job, stage⟩
  · cases hwaiting : (state.memoryAt slot).queue.waiting with
    | nil => simp [hrunning, hwaiting] at hdue
    | cons first rest => simp
  · rw [hrunning] at hdue
    cases stage with
    | calling ended failure => exact hdue
    | resting due | cooling due => cases hstop : next.stop <;> rfl

theorem next?_eq_none (hlast : state.next? none = none) (slot : Nat) :
    state.dueAt? slot = none := by
  cases hdue : state.dueAt? slot with
  | none => rfl
  | some due =>
      have hlimit : (none : Option Time).any (fun limit => limit < due) = false := rfl
      obtain ⟨due', slot', hnext⟩ := exists_next? hdue hlimit
      simp [hlast] at hnext

/-- **A slot that can go on takes its step.** Until then nothing is done on it. -/
theorem Passage.exists_step {P : State → Prop} (hpassage : Passage setting on state jobs last)
    (hlast : last.next? none = none) (hdue : (state.dueAt? slot).isSome = true) (hstate : P state)
    (hkeeps : ∀ state next last' jobs more, P state → Moves setting state jobs next →
      Untouched slot state next (jobsOn slot jobs) → Passage setting on next more last' →
      last' = last → P next) :
    ∃ between due before behind, Passage setting on state before between ∧ P between ∧
      between.next? none = some (due, slot) ∧
      Passage setting on (between.goOn setting slot due) behind last ∧
      Untouched slot state between (jobsOn slot before) := by
  -- The first move that is not on another slot is the step: the slot stays due until then, and
  -- nothing is due at the end.
  induction hpassage with
  | rests state =>
      simp [next?_eq_none hlast slot] at hdue
  | @moves state between last jobs more hon hmove hrest ih =>
      rcases hmove.goesOn_or_untouched slot with ⟨due, hnext, rfl, rfl⟩ | huntouched
      · exact ⟨state, due, [], more, .rests state, hstate, hnext, hrest, .refl slot state⟩
      · have hbetween := hkeeps _ _ _ _ _ hstate hmove huntouched hrest rfl
        obtain ⟨found, due, before, behind, hbefore, hP, hnext, hbehind, huntouched'⟩ :=
          ih hlast (huntouched.isSome_dueAt? hdue) hbetween hkeeps
        refine ⟨found, due, jobs ++ before, behind, .moves hon hmove hbefore, hP, hnext, hbehind,
          ?_⟩
        rw [jobsOn_append]
        exact huntouched.trans huntouched'

/-! ### Slots on which no more calls are made -/

theorem Stepped.of_isBarred (hstepped : Stepped setting state slot time (state.memoryAt slot) after
    added stop) (hbarred : state.IsBarred slot) (hle : state.now ≤ time) :
    calledOn slot (added.map (time, ·)) = [] ∧ after.throttler.activeUntil.isSome = true ∧
      ∀ job due failure, after.queue.running ≠ some ⟨job, .calling due failure⟩ := by
  have hreached : Clock.reached state.stop time = true :=
    Clock.reached_of_le hle hbarred.isStopped
  cases hstepped with
  | rests job due hrunning hwaiting hactive hafter hlt hthrottler =>
      exact ⟨rfl, hthrottler ▸ hactive, by simp [hafter]⟩
  | calls call stop hfree =>
      rcases hfree with ⟨-, -, hnone⟩ | ⟨due, -, -, -, hgoing⟩
      · have hactive := hbarred.isActive
        simp [hnone] at hactive
      · simp [hreached] at hgoing
  | ends job due failure succeeded hrunning => exact absurd hrunning (hbarred.running _ _ _)
  | fails job due error delay hrunning => exact absurd hrunning (hbarred.running _ _ _)
  | cools job due hrunning hdue hgoing => simp [hreached] at hgoing
  | breaksOff job stage due hrunning hwaits hstopped hafter hwaiting hthrottler =>
      refine ⟨calledOn_singleton_of_ne (by simp), ?_, by simp [hafter]⟩
      rw [hthrottler]
      exact hbarred.isActive

/-- **A barred slot stays barred**, and the handler is not called on it. -/
theorem Moves.of_isBarred (hmove : Moves setting state jobs next) (hbarred : state.IsBarred slot) :
    next.IsBarred slot ∧ calledOn slot next.trace = calledOn slot state.trace := by
  have hstopped := hmove.isStopped hbarred.isStopped
  rcases hmove.goesOn_or_untouched slot with ⟨due, hnext, rfl, -⟩ | huntouched
  · obtain ⟨after, added, hframed, hstepped⟩ := stepped_goOn setting hnext
    obtain ⟨hcalled, hactive, hrunning⟩ := hstepped.of_isBarred hbarred (Int.le_max_left _ _)
    have hself := hframed.memoryAt_self (getElem?_of_dueAt? (dueAt?_of_next? hnext))
    refine ⟨⟨hstopped, by rw [hself]; exact hactive, by rw [hself]; exact hrunning⟩, ?_⟩
    rw [hframed.trace, calledOn_append, hcalled, List.append_nil]
  · refine ⟨⟨hstopped, ?_, ?_⟩, huntouched.calledOn_eq⟩
    · rw [huntouched.throttler]
      exact hbarred.isActive
    · rw [huntouched.running]
      exact hbarred.running

theorem Passage.calledOn_of_isBarred (hpassage : Passage setting on state jobs last)
    (hbarred : state.IsBarred slot) : calledOn slot last.trace = calledOn slot state.trace :=
  (hpassage.induction
    (P := fun next => next.IsBarred slot ∧ calledOn slot next.trace = calledOn slot state.trace)
    (fun _ _ _ _ hmove hstate =>
      ⟨(hmove.of_isBarred hstate.1).1, (hmove.of_isBarred hstate.1).2.trans hstate.2⟩)
    ⟨hbarred, rfl⟩).2

/-! ### Waits that the stop signal interrupts -/

theorem Stepped.of_reached (hstepped : Stepped setting state slot time (state.memoryAt slot) after
    added stop) (hwaiting : state.IsWaiting slot job due)
    (hreached : Clock.reached state.stop time = true) :
    added = [.over job.number slot false] ∧ stop = state.stop ∧ after.queue.running = none ∧
      after.throttler = (state.memoryAt slot).throttler := by
  obtain ⟨stage, hrunning, hwaits⟩ := hwaiting
  cases hstepped with
  | rests job due hnone => simp [hrunning] at hnone
  | calls call stop hfree =>
      rcases hfree with ⟨hnone, -⟩ | ⟨due, -, -, -, hgoing⟩
      · simp [hrunning] at hnone
      · simp [hreached] at hgoing
  | ends job due failure succeeded hcalling =>
      obtain ⟨-, rfl⟩ := Handling.mk.inj (Option.some.inj (hrunning.symm.trans hcalling))
      simp [Stage.waitsUntil?] at hwaits
  | fails job due error delay hcalling =>
      obtain ⟨-, rfl⟩ := Handling.mk.inj (Option.some.inj (hrunning.symm.trans hcalling))
      simp [Stage.waitsUntil?] at hwaits
  | cools job due hcooling hdue hgoing => simp [hreached] at hgoing
  | breaksOff job' stage' due' hrunning' hwaits' hstopped hafter hwaiting' hthrottler =>
      obtain ⟨rfl, -⟩ := Handling.mk.inj (Option.some.inj (hrunning.symm.trans hrunning'))
      exact ⟨rfl, rfl, hafter, hthrottler⟩

/-- The stop signal at a time comes before a wait is over. -/
def State.IsCutShort (state : State) (stopAt : Time) (slot : Nat) (job : Job) (due : Time) : Prop :=
  state.IsWaiting slot job due ∧ (stopAt < due ∨ Clock.reached state.stop due = true)

theorem Moves.isCutShort (hmove : Moves setting state jobs next) {more : List Job}
    (huntouched : Untouched slot state next more) (hcut : state.IsCutShort stopAt slot job due) :
    next.IsCutShort stopAt slot job due := by
  exact ⟨huntouched.isWaiting hcut.1, hcut.2.imp_right hmove.reached⟩

/-- Until a wait that is cut short is broken off no time passes beyond the stop signal. -/
theorem Moves.now_le_of_isCutShort (hmove : Moves setting state jobs next)
    (hpassage : Passage setting on next more last) (hlast : last.stop = some stopAt)
    (hwaiting : state.IsWaiting slot job due) {bound : Time} (hnow : state.now ≤ bound)
    (hbound : stopAt ≤ bound) (huntouched : Untouched slot state next (jobsOn slot jobs)) :
    next.now ≤ bound := by
  apply Int.not_lt.mp
  intro hlt
  have hstop := hmove.stop_eq_of_lt hpassage hlast (Int.lt_of_le_of_lt hbound hlt)
  have hdue := hwaiting.dueAt?_eq
  rw [hstop, Clock.earlier] at hdue
  have hle : min stopAt due ≤ bound := Int.le_trans (Int.min_le_left _ _) hbound
  cases hmove with
  | goesOn due' slot' hnext =>
      obtain ⟨after, added, hframed, -⟩ := stepped_goOn setting hnext
      rw [hframed.now] at hlt
      have hbefore := Int.le_trans (next?_least hnext hdue).1 hle
      exact absurd hlt (Int.not_lt.mpr (Int.max_le.mpr ⟨hnow, hbefore⟩))
  | waits time _ hquiet =>
      exact absurd (Int.lt_trans hlt (hquiet slot _ hdue)) (Int.not_lt.mpr hle)
  | queues | counts => exact absurd hlt (Int.not_lt.mpr hnow)

/-- A wait lasts until it is over at most. -/
theorem State.IsWaiting.max_le (hwaiting : state.IsWaiting slot job due) (hnow : state.now ≤ due)
    {due' : Time} (hnext : state.next? none = some (due', slot)) : max state.now due' ≤ due := by
  have hdue := dueAt?_of_next? hnext
  rw [hwaiting.dueAt?_eq] at hdue
  refine Int.max_le.mpr ⟨hnow, ?_⟩
  cases hstop : state.stop with
  | none => exact Int.le_of_eq (Option.some.inj (by rw [← hdue, hstop]; rfl))
  | some stop =>
      rw [hstop, Clock.earlier, Option.some.injEq] at hdue
      exact hdue ▸ Int.min_le_right _ _

theorem Books.of_isWaiting (hbooks : Books setting jobs state)
    (hwaiting : state.IsWaiting slot job due) :
    state.now ≤ due ∧ (state.memoryAt slot).throttler.activeUntil.isSome = true := by
  obtain ⟨stage, hrunning, hwaits⟩ := hwaiting
  exact hbooks.waits slot job stage due hrunning hwaits

/-- The step at the end of a wait that is cut short. -/
theorem reached_of_isCutShort (hcut : state.IsCutShort stopAt slot job due) (hnow : state.now ≤ due)
    {due' : Time} (hnext : state.next? none = some (due', slot))
    (hpassage : Passage setting on (state.goOn setting slot due') more last)
    (hlast : last.stop = some stopAt) :
    Clock.reached state.stop (max state.now due') = true ∧ max state.now due' ≤ due := by
  obtain ⟨hwaiting, hcut⟩ := hcut
  have hdue := dueAt?_of_next? hnext
  rw [hwaiting.dueAt?_eq] at hdue
  obtain ⟨after, added, hframed, -⟩ := stepped_goOn setting hnext
  refine ⟨?_, hwaiting.max_le hnow hnext⟩
  rw [← Bool.not_eq_false]
  intro hgoing
  -- Without the stop signal the wait would last until it is over, and so beyond the signal.
  have hended := le_of_earlier hdue (Int.le_max_right state.now due') hgoing
  rcases hcut with hlt | hreached
  · have hstop := (Moves.goesOn due' slot hnext).stop_eq_of_lt hpassage hlast
      (hframed.now ▸ Int.lt_of_lt_of_le hlt hended)
    rw [hstop, Clock.reached, decide_eq_false_iff_not] at hgoing
    exact hgoing (Int.le_of_lt (Int.lt_of_lt_of_le hlt hended))
  · rw [Clock.reached_of_le hended hreached] at hgoing
    simp at hgoing

theorem mem_trace_of_passage (hpassage : Passage setting on state jobs last)
    {entry : Time × Happening} (hmem : entry ∈ state.trace) : entry ∈ last.trace := by
  obtain ⟨added, hadded⟩ := hpassage.trace
  rw [hadded]
  exact List.mem_append_left _ hmem

theorem goOn_isBarred (hbooks : Books setting jobs state) (hwaiting : state.IsWaiting slot job due)
    {due' : Time} (hnext : state.next? none = some (due', slot))
    (hreached : Clock.reached state.stop (max state.now due') = true) :
    (state.goOn setting slot due').IsBarred slot ∧
      (state.goOn setting slot due').stop = state.stop ∧
      (state.goOn setting slot due').trace =
        state.trace ++ [(max state.now due', .over job.number slot false)] := by
  obtain ⟨after, added, hframed, hstepped⟩ := stepped_goOn setting hnext
  obtain ⟨rfl, hstop, hafter, hthrottler⟩ := hstepped.of_reached hwaiting hreached
  have hself := hframed.memoryAt_self (getElem?_of_dueAt? (dueAt?_of_next? hnext))
  refine ⟨⟨?_, ?_, by simp [hself, hafter]⟩, hstop, hframed.trace⟩
  · rw [State.isStopped, hstop, hframed.now]
    exact hreached
  · rw [hself, hthrottler]
    exact (hbooks.of_isWaiting hwaiting).2

/-- **A wait that is cut short is broken off when the stop signal comes**, or at once if it has
come already, and the handler is never called on the slot again. -/
theorem Passage.broken_off (hpassage : Passage setting on state more last)
    (hlast : last.next? none = none) (hstop : last.stop = some stopAt)
    (hbooks : Books setting jobs state) (hcut : state.IsCutShort stopAt slot job due) :
    (max state.now stopAt, .over job.number slot false) ∈ last.trace ∧
      calledOn slot last.trace = calledOn slot state.trace := by
  obtain ⟨between, due', before, behind, hbefore, ⟨⟨jobs', hbooks'⟩, hcut', hnow⟩, hnext, hbehind,
      huntouched⟩ :=
    hpassage.exists_step (P := fun next => (∃ jobs, Books setting jobs next) ∧
      next.IsCutShort stopAt slot job due ∧ next.now ≤ max state.now stopAt) hlast
      hcut.1.isSome_dueAt? ⟨⟨jobs, hbooks⟩, hcut, Int.le_max_left _ _⟩ <| by
        rintro found next _ moved rest ⟨⟨jobs', hbooks'⟩, hcut', hnow⟩ hmove huntouched hrest rfl
        refine ⟨⟨_, hbooks'.moves hmove⟩, hmove.isCutShort huntouched hcut', ?_⟩
        exact hmove.now_le_of_isCutShort hrest hstop hcut'.1 hnow (Int.le_max_right _ _) huntouched
  have hwait := (hbooks'.of_isWaiting hcut'.1).1
  obtain ⟨hreached, hended⟩ := reached_of_isCutShort hcut' hwait hnext hbehind hstop
  obtain ⟨hbarred, hsame, htrace⟩ := goOn_isBarred hbooks' hcut'.1 hnext hreached
  -- The stop signal is known by now, so the step is at its time or at once.
  have hknown : between.stop = some stopAt := by
    rw [← hsame, ← hbehind.stop_eq_of_isStopped hbarred.isStopped, hstop]
  have hdue : some due' = some (min stopAt due) := by
    rw [← dueAt?_of_next? hnext, hcut'.1.dueAt?_eq, hknown]
    rfl
  have htime : max between.now due' = max state.now stopAt := by
    rw [hknown, Clock.reached, decide_eq_true_eq] at hreached
    have hlater := hbefore.now_le
    rw [Option.some.injEq] at hdue
    simp only [Time] at *
    omega
  refine ⟨mem_trace_of_passage hbehind ?_, ?_⟩
  · rw [htrace, ← htime]
    exact List.mem_append_right _ List.mem_cons_self
  · rw [hbehind.calledOn_of_isBarred hbarred, htrace, calledOn_append,
      calledOn_singleton_of_ne (by simp), List.append_nil, huntouched.calledOn_eq]

/-! ### Turns -/

/-- **A job whose turn it is starts at that moment.** -/
theorem Passage.exists_turn (hpassage : Passage setting on state more last)
    (hlast : last.next? none = none) (hturn : state.IsTurn slot job) :
    ∃ between before behind, Passage setting on state before between ∧
      between.IsTurn slot job ∧ between.now = state.now ∧
      between.next? none = some (state.now, slot) ∧
      Passage setting on (between.goOn setting slot state.now) behind last ∧
      Untouched slot state between (jobsOn slot before) := by
  obtain ⟨between, due, before, behind, hbefore, ⟨hturn', hnow⟩, hnext, hbehind, huntouched⟩ :=
    hpassage.exists_step (P := fun next => next.IsTurn slot job ∧ next.now = state.now) hlast
      (by rw [hturn.dueAt?_eq]; rfl) ⟨hturn, rfl⟩ <| by
        rintro found next _ moved rest ⟨hturn', hnow⟩ hmove huntouched - rfl
        refine ⟨huntouched.isTurn hturn', ?_⟩
        have hdue := hturn'.dueAt?_eq
        cases hmove with
        | goesOn due' slot' hnext =>
            obtain ⟨after, added, hframed, -⟩ := stepped_goOn setting hnext
            rw [hframed.now, Int.max_eq_left (next?_least hnext hdue).1, hnow]
        | waits time hle hquiet => exact absurd (hquiet slot _ hdue) (Int.not_lt.mpr hle)
        | queues | counts => exact hnow
  obtain rfl : due = state.now := by
    have hdue := dueAt?_of_next? hnext
    rw [hturn'.dueAt?_eq, hnow] at hdue
    exact (Option.some.inj hdue).symm
  exact ⟨between, before, behind, hbefore, hturn', hnow, hnext, hbehind, huntouched⟩

theorem Passage.called_of_isTurn (hpassage : Passage setting on state more last)
    (hlast : last.next? none = none) (hturn : state.IsTurn slot job)
    (hfree : (state.memoryAt slot).throttler.activeUntil = none) :
    ∃ call, (state.now, .called call) ∈ last.trace ∧ call.job = job ∧ call.slot = slot := by
  obtain ⟨between, before, behind, -, ⟨hrunning, hhead⟩, hnow, hnext, hbehind, huntouched⟩ :=
    hpassage.exists_turn hlast hturn
  rw [← huntouched.throttler] at hfree
  obtain ⟨after, added, hframed, hstepped⟩ := stepped_goOn setting hnext
  have htrace := hframed.trace
  rw [hnow, Int.max_self] at htrace
  generalize (between.goOn setting slot state.now).stop = stop at hstepped
  cases hstepped with
  | calls call stop hcase hslot =>
      refine ⟨call, mem_trace_of_passage hbehind (by simp [htrace]), ?_, hslot⟩
      rcases hcase with ⟨-, hwaiting, -⟩ | ⟨due, hresting, -⟩
      · simpa [hwaiting] using hhead
      · simp [hrunning] at hresting
  | rests job due _ _ hactive => simp [hfree] at hactive
  | ends _ _ _ _ hcalling => simp [hrunning] at hcalling
  | fails _ _ _ _ hcalling => simp [hrunning] at hcalling
  | cools _ _ hcooling => simp [hrunning] at hcooling
  | breaksOff _ _ _ hwaiting => simp [hrunning] at hwaiting

theorem Books.not_mem_calledOn (hbooks : Books setting jobs state)
    (hmem : job ∈ (state.memoryAt slot).uncalled) : job ∉ calledOn slot state.trace := by
  intro hcalled
  have hordered := (pairwise_jobsOn hbooks.numbered slot).sublist (hbooks.called slot)
  exact absurd ((List.pairwise_append.mp hordered).2.2 job hcalled job hmem) (Nat.lt_irrefl _)

theorem State.IsTurn.mem_uncalled (hturn : state.IsTurn slot job) :
    job ∈ (state.memoryAt slot).uncalled := by
  obtain ⟨hrunning, hhead⟩ := hturn
  rw [Memory.uncalled, hrunning]
  exact List.mem_of_mem_head? hhead

/-- A job whose turn it is has to wait if its slot is throttled. -/
theorem State.IsTurn.isWaiting_goOn (setting : Setting) (hturn : state.IsTurn slot job)
    (hactive : (state.memoryAt slot).throttler.activeUntil.isSome = true)
    (hnext : state.next? none = some (due, slot)) :
    ∃ until_, (state.goOn setting slot due).IsWaiting slot job until_ := by
  obtain ⟨hrunning, hhead⟩ := hturn
  obtain ⟨after, added, hframed, hstepped⟩ := stepped_goOn setting hnext
  have hself := hframed.memoryAt_self (getElem?_of_dueAt? (dueAt?_of_next? hnext))
  generalize (state.goOn setting slot due).stop = stop at hstepped
  cases hstepped with
  | rests job' until_ _ hwaiting _ hafter =>
      rw [hwaiting, List.head?_cons, Option.some.injEq] at hhead
      subst hhead
      exact ⟨until_, .resting until_, by rw [hself, hafter], rfl⟩
  | calls call stop hcase =>
      rcases hcase with ⟨-, -, hnone⟩ | ⟨due, hresting, -⟩
      · simp [hnone] at hactive
      · simp [hrunning] at hresting
  | ends _ _ _ _ hcalling => simp [hrunning] at hcalling
  | fails _ _ _ _ hcalling => simp [hrunning] at hcalling
  | cools _ _ hcooling => simp [hrunning] at hcooling
  | breaksOff _ _ _ hwaiting => simp [hrunning] at hwaiting

theorem Passage.skipped_of_isTurn (hpassage : Passage setting on state more last)
    (hlast : last.next? none = none) (hstop : last.stop = some stopAt)
    (hbooks : Books setting jobs state) (hturn : state.IsTurn slot job)
    (hstopped : state.isStopped = true)
    (hactive : (state.memoryAt slot).throttler.activeUntil.isSome = true) :
    (state.now, .over job.number slot false) ∈ last.trace ∧ job ∉ calledOn slot last.trace := by
  obtain ⟨between, before, behind, hbefore, hturn', hnow, hnext, hbehind, huntouched⟩ :=
    hpassage.exists_turn hlast hturn
  have hbarred : state.IsBarred slot := ⟨hstopped, hactive, by simp [hturn.1]⟩
  refine ⟨?_, ?_⟩
  · -- The job begins to wait, and this wait is broken off at once.
    rw [← huntouched.throttler] at hactive
    obtain ⟨due, hwaiting⟩ := hturn'.isWaiting_goOn setting hactive hnext
    have hmove : Moves setting between [] (between.goOn setting slot state.now) := .goesOn _ _ hnext
    have hbooks' := (hbefore.books hbooks).moves hmove
    have hstopped' := hmove.isStopped (hbefore.isStopped hstopped)
    have hdue := (hbooks'.of_isWaiting hwaiting).1
    obtain ⟨hover, -⟩ := hbehind.broken_off hlast hstop hbooks'
      ⟨hwaiting, .inr (Clock.reached_of_le hdue hstopped')⟩
    obtain ⟨after, added, hframed, -⟩ := stepped_goOn setting hnext
    have hknown : state.stop = some stopAt := by
      rw [← hpassage.stop_eq_of_isStopped hstopped, hstop]
    rw [State.isStopped, hknown, Clock.reached, decide_eq_true_eq] at hstopped
    rwa [hframed.now, hnow, Int.max_self, Int.max_eq_left hstopped] at hover
  · rw [hpassage.calledOn_of_isBarred hbarred]
    exact hbooks.not_mem_calledOn hturn.mem_uncalled

/-! ### Calls that fail -/

theorem Stepped.eq_of_settled (hstepped : Stepped setting state slot time memory after added stop)
    {place number found : Nat} {failure : Option Thrown}
    (hsettled : added[place]? = some (.settled number found failure)) :
    place = 0 ∧ found = slot := by
  cases hstepped with
  | rests => simp at hsettled
  | calls | cools | breaksOff => cases place <;> simp at hsettled
  | fails =>
      cases place with
      | zero =>
          simp only [List.getElem?_cons_zero, Option.some.injEq,
            Happening.settled.injEq] at hsettled
          exact ⟨rfl, hsettled.2.1.symm⟩
      | succ place => simp at hsettled
  | ends =>
      rcases place with _ | _ | place
      · simp only [List.getElem?_cons_zero, Option.some.injEq, Happening.settled.injEq] at hsettled
        exact ⟨rfl, hsettled.2.1.symm⟩
      · simp at hsettled
      · simp at hsettled

/-- The step behind which a call has settled. -/
theorem Passage.exists_settled (hpassage : Passage setting on state more last)
    {before behind : History} {number : Nat} {failure : Option Thrown}
    (htrace : last.trace = before ++ (time, .settled number slot failure) :: behind)
    (hlength : state.trace.length ≤ before.length) :
    ∃ between due first rest, Passage setting on state first between ∧
      between.next? none = some (due, slot) ∧ between.trace = before ∧
      (∃ others, (between.goOn setting slot due).trace =
        before ++ (time, .settled number slot failure) :: others) ∧
      Passage setting on (between.goOn setting slot due) rest last := by
  induction hpassage with
  | rests =>
      have hlength' := congrArg List.length htrace
      simp only [List.length_append, List.length_cons] at hlength'
      omega
  | @moves state between last jobs more hon hmove hrest ih =>
      by_cases hlater : between.trace.length ≤ before.length
      · obtain ⟨found, due, first, rest, hfirst, hfound⟩ := ih htrace hlater
        exact ⟨found, due, jobs ++ first, rest, .moves hon hmove hfirst, hfound⟩
      · -- The call has settled with this move.
        obtain ⟨added, hadded⟩ := hrest.trace
        have hentry :
            between.trace[before.length]? = some (time, .settled number slot failure) := by
          have hat := congrArg (·[before.length]?) htrace
          rw [hadded] at hat
          simpa [List.getElem?_append_left (Nat.lt_of_not_le hlater)] using hat
        cases hmove with
        | goesOn due slot' hnext =>
            obtain ⟨after, happenings, hframed, hstepped⟩ := stepped_goOn setting hnext
            rw [hframed.trace, List.getElem?_append_right hlength, List.getElem?_map,
              Option.map_eq_some_iff] at hentry
            obtain ⟨happening, hhappening, heq⟩ := hentry
            obtain ⟨rfl, rfl⟩ := Prod.mk.inj heq
            obtain ⟨hplace, rfl⟩ := hstepped.eq_of_settled hhappening
            obtain rfl : state.trace = before := by
              have hprefix := congrArg (List.take before.length) htrace
              rw [hadded, hframed.trace, List.append_assoc, List.take_left] at hprefix
              rwa [List.take_append_of_le_length (by omega), List.take_of_length_le (by omega)]
                at hprefix
            rw [hplace, ← List.head?_eq_getElem?, List.head?_eq_some_iff] at hhappening
            obtain ⟨others, rfl⟩ := hhappening
            refine ⟨state, due, [], more, .rests state, hnext, rfl, ⟨_, hframed.trace⟩, hrest⟩
        | waits | queues | counts =>
            have hlt := (List.getElem?_eq_some_iff.mp hentry).1
            exact absurd hlt (Nat.not_lt.mpr hlength)

/-! ### What is left at the end -/

/-- Which jobs of a slot have had their calls: all but those that wait there, or all up to one whose
wait is cut short. -/
inductive Accounts (on : State → Prop) (slot : Nat) (jobs : List (Job × Nat)) (state : State) :
    Prop where
  | whole (hjobs : jobsOn slot jobs =
      calledOn slot state.trace ++ (state.memoryAt slot).uncalled) : Accounts on slot jobs state
  | cut (found : State) (job : Job) (due : Time) (rest : List Job) (hon : on found)
      (hwaiting : found.IsWaiting slot job due) (hreached : Clock.reached found.stop due = true)
      (hcalled : calledOn slot state.trace = calledOn slot found.trace)
      (hjobs : jobsOn slot jobs = calledOn slot state.trace ++ job :: rest)
      (hbarred : state.IsBarred slot) : Accounts on slot jobs state

theorem Moves.accounts (hmove : Moves setting state more next) (hon : on state)
    (hbooks : Books setting jobs state) (haccounts : Accounts on slot jobs state) :
    Accounts on slot (jobs ++ more) next := by
  cases haccounts with
  | cut found job due rest hfound hwaiting hreached hcalled hjobs hbarred =>
      obtain ⟨hbarred', hsame⟩ := hmove.of_isBarred hbarred
      refine .cut found job due (rest ++ jobsOn slot more) hfound hwaiting hreached
        (hsame.trans hcalled) ?_ hbarred'
      rw [jobsOn_append, hjobs, hsame, List.append_assoc, List.cons_append]
  | whole hjobs =>
      rcases hmove.goesOn_or_untouched slot with ⟨due, hnext, rfl, rfl⟩ | huntouched
      · rw [List.append_nil]
        obtain ⟨after, added, hframed, hstepped⟩ := stepped_goOn setting hnext
        have hafter := hframed.memoryAt_self (getElem?_of_dueAt? (dueAt?_of_next? hnext))
        rcases hstepped.calledOn_uncalled with
          heq | ⟨job, until_, hrunning, hreached, -, huncalled⟩
        · refine .whole ?_
          rw [hafter, hframed.trace, calledOn_append, List.append_assoc, heq, hjobs]
        · -- The wait that is broken off is the first that is, so all jobs in front had their calls.
          have hwaiting : state.IsWaiting slot job until_ := ⟨.resting until_, hrunning, rfl⟩
          have hle := hwaiting.max_le (hbooks.of_isWaiting hwaiting).1 hnext
          obtain ⟨hbarred, -, htrace⟩ := goOn_isBarred hbooks hwaiting hnext hreached
          have hsame : calledOn slot (state.goOn setting slot due).trace =
              calledOn slot state.trace := by
            rw [htrace, calledOn_append, calledOn_singleton_of_ne (by simp), List.append_nil]
          refine .cut state job until_ after.uncalled hon hwaiting
            (Clock.reached_of_le hle hreached) hsame ?_ hbarred
          rw [hsame, hjobs, huncalled]
      · refine .whole ?_
        rw [huntouched.calledOn_eq, huntouched.uncalled, jobsOn_append, hjobs, List.append_assoc]

/-- **A slot has its calls for all of its jobs**, up to one whose wait is cut short. -/
theorem Passage.accounts (hpassage : Passage setting on state more last)
    (hbooks : Books setting jobs state) (haccounts : Accounts on slot jobs state) :
    Accounts on slot (jobs ++ more) last := by
  induction hpassage generalizing jobs with
  | rests => rwa [List.append_nil]
  | moves hon hmove _ ih =>
      rw [← List.append_assoc]
      exact ih (hbooks.moves hmove) (hmove.accounts hon hbooks haccounts)

theorem Books.accounts_nil (hbooks : Books setting [] state) (slot : Nat) :
    Accounts on slot [] state :=
  .whole (List.sublist_nil.mp (hbooks.called slot)).symm

/-- The job under way is the last one that had its call. -/
theorem Books.getLast?_calledOn (hbooks : Books setting jobs state)
    (hjobs : jobsOn slot jobs = calledOn slot state.trace ++ (state.memoryAt slot).uncalled)
    {ended : Option Time} {failure : Option Thrown}
    (hrunning : (state.memoryAt slot).queue.running = some ⟨job, .calling ended failure⟩) :
    (calledOn slot state.trace).getLast? = some job := by
  have hordered := pairwise_jobsOn hbooks.numbered slot
  have hfinished := hbooks.finished slot
  have huncalled : (state.memoryAt slot).uncalled = (state.memoryAt slot).queue.waiting := by
    rw [Memory.uncalled, hrunning]
  -- The jobs in front of the one under way are done with, so that their calls are all but one.
  have hnumbers : (calledOn slot state.trace).map Job.number =
      oversOn slot state.trace ++ [job.number] := by
    rw [hjobs, huncalled, List.map_append, Memory.unfinished, hrunning] at hfinished
    have hsplit : (calledOn slot state.trace).map Job.number ++
        (state.memoryAt slot).queue.waiting.map Job.number =
          oversOn slot state.trace ++ [job.number] ++
            (state.memoryAt slot).queue.waiting.map Job.number := by
      rw [← hfinished, List.append_assoc]
      rfl
    exact List.append_cancel_right hsplit
  obtain ⟨front, back, hcalled, -, hback⟩ := List.map_eq_append_iff.mp hnumbers
  obtain ⟨last, rfl, hnumber⟩ := List.map_eq_singleton_iff.mp hback
  rw [hjobs, hcalled] at hordered
  obtain ⟨place, time, call, hplace, rfl, rfl, -⟩ :=
    hbooks.calling slot job ended failure hrunning
  have hmem := mem_calledOn (List.mem_of_getElem? hplace)
  rw [hcalled, List.mem_append, List.mem_singleton] at hmem
  rcases hmem with hfront | rfl
  · have hlt := (List.pairwise_append.mp (List.pairwise_append.mp hordered).1).2.2 _ hfront last
      List.mem_cons_self
    omega
  · rw [hcalled, List.getLast?_concat]

/-- A slot that does not go on has nothing left to do, or the call under way never settles. -/
theorem Books.isIdle_or_hangs (hbooks : Books setting jobs state) (hlast : state.next? none = none)
    (slot : Nat) :
    (state.memoryAt slot).queue.isIdle = true ∨
      ∃ place time call failure, state.trace[place]? = some (time, .called call) ∧
        call.slot = slot ∧ (behaviourAt setting state.trace place call).duration = none ∧
        (state.memoryAt slot).queue.running = some ⟨call.job, .calling none failure⟩ := by
  have hdue := next?_eq_none hlast slot
  rcases hrunning : (state.memoryAt slot).queue.running with _ | ⟨job, stage⟩
  · left
    rw [State.dueAt?, State.due?, hrunning] at hdue
    simpa [Queue.isIdle, hrunning] using hdue
  · right
    cases stage with
    | calling due failure =>
        obtain ⟨place, time, call, hplace, rfl, hslot, hsettles⟩ :=
          hbooks.calling slot job due failure hrunning
        obtain rfl : due = none := by rwa [State.dueAt?, State.due?, hrunning] at hdue
        refine ⟨place, time, call, failure, hplace, hslot, ?_, rfl⟩
        rw [Behaviour.settlesAt?, eq_comm, Option.map_eq_none_iff] at hsettles
        exact hsettles
    | resting due =>
        have hsome := State.IsWaiting.isSome_dueAt? ⟨.resting due, hrunning, rfl⟩
        simp [hdue] at hsome
    | cooling due =>
        have hsome := State.IsWaiting.isSome_dueAt? ⟨.cooling due, hrunning, rfl⟩
        simp [hdue] at hsome

theorem isIdle_iff : state.isIdle = true ↔ ∀ slot, (state.memoryAt slot).queue.isIdle = true := by
  rw [State.isIdle, List.all_eq_true]
  constructor
  · intro hall slot
    rw [State.memoryAt]
    cases hmemory : state.registry.memories[slot]? with
    | none => rfl
    | some memory => exact hall memory (List.mem_of_getElem? hmemory)
  · intro hall memory hmemory
    obtain ⟨slot, hslot⟩ := List.mem_iff_getElem?.mp hmemory
    have hidle := hall slot
    rwa [State.memoryAt, hslot] at hidle

theorem eq_nil_of_isIdle (hidle : memory.queue.isIdle = true) :
    memory.uncalled = [] ∧ memory.unfinished = [] := by
  obtain ⟨hrunning, hwaiting⟩ : memory.queue.running = none ∧ memory.queue.waiting = [] := by
    simpa [Queue.isIdle] using hidle
  simp [Memory.uncalled, Memory.unfinished, hrunning, hwaiting]

/-- All jobs of a slot that is idle are done with, in their order. -/
theorem Books.oversOn_eq (hbooks : Books setting jobs state)
    (hidle : (state.memoryAt slot).queue.isIdle = true) :
    oversOn slot state.trace = (jobsOn slot jobs).map Job.number := by
  have hfinished := hbooks.finished slot
  rwa [(eq_nil_of_isIdle hidle).2, List.map_nil, List.append_nil] at hfinished

end ResourceWatch.Processing
