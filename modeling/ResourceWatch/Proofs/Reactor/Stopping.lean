import ResourceWatch.Proofs.Reactor.Turns

/-!
# Runs that are stopped

The stop signal ends the taking of events and the waits of throttling, but not the handling: what is
queued still has its turn. A slot whose throttling was interrupted stays throttled, and its events
are skipped; on every other slot all of them are handled.
-/

namespace ResourceWatch.Processing

open Throttling

/-- What becomes of a run whose stop signal comes at a time. -/
structure StopsAt (setting : Setting) (start : State) (deliveries : List Delivery) (stopAt : Time)
    (final : State) : Prop where
  /-- An event that comes later is not dispatched, nor is any behind it: no slot is made or
  forgotten, and nothing is queued. -/
  late (taken : List Event) (state : State) (delay : Nat) (event : Event) (rest : List Delivery)
    (hstands : Stands setting start deliveries taken state (.event delay event :: rest))
    (hlate : stopAt < state.now + delay) :
    start.accepted setting deliveries = taken ∧ final.registry.SameSlots state.registry ∧
      final.queued = state.queued
  /-- A wait that would last longer ends with the stop signal, or at once if this has come already,
  and the events that are behind it are skipped. -/
  waits (state : State) (slot : Nat) (job : Job) (due : Time)
    (hcomes : ComesBy setting start deliveries state)
    (hcut : state.IsCutShort stopAt slot job due) :
    (max state.now stopAt, .over job.number slot false) ∈ final.trace ∧
      calledOn slot final.trace = calledOn slot state.trace
  /-- A job whose turn it is has its call at that moment if its slot is not throttled. -/
  calls (state : State) (slot : Nat) (job : Job) (hcomes : ComesBy setting start deliveries state)
    (hturn : state.IsTurn slot job)
    (hfree : (state.memoryAt slot).throttler.activeUntil = none) :
    ∃ call, (state.now, .called call) ∈ final.trace ∧ call.job = job ∧ call.slot = slot
  /-- Behind the stop signal it is skipped, at that moment and for good, if its slot is
  throttled. -/
  skips (state : State) (slot : Nat) (job : Job) (hcomes : ComesBy setting start deliveries state)
    (hstopped : state.isStopped = true) (hturn : state.IsTurn slot job)
    (hactive : (state.memoryAt slot).throttler.activeUntil.isSome = true) :
    (state.now, .over job.number slot false) ∈ final.trace ∧ job ∉ calledOn slot final.trace
  /-- Behind a call that fails with or behind the stop signal there are no more calls on its slot,
  if there are delays and no memory has come to the end of another list of delays. -/
  fails (hdelays : setting.delays ≠ [])
    (hknown : ∀ memory ∈ start.registry.memories,
      memory.throttler.nextDelay? setting.delays ≠ none)
    (before behind : History) (time : Time) (number slot : Nat) (error : Thrown)
    (htrace : final.trace = before ++ (time, .settled number slot (some error)) :: behind)
    (hstopped : stopAt ≤ time) : calledOn slot behind = []
  /-- On a slot on which no wait is cut short all jobs have their calls, once each and in order. -/
  handles (slot : Nat)
    (hwhole : ∀ state job due, ComesBy setting start deliveries state →
      ¬state.IsCutShort stopAt slot job due) :
    calledOn slot final.trace = jobsOn slot (start.jobs setting deliveries)
  /-- No two jobs are the same: they are counted as they come. -/
  counts : (start.jobs setting deliveries).map (·.1.number) =
    List.range (start.jobs setting deliveries).length
  /-- All jobs are done with, in their order on each slot. -/
  ends : final.isIdle = true ∧ ∀ slot,
    oversOn slot final.trace = (jobsOn slot (start.jobs setting deliveries)).map Job.number

variable {setting : Setting} {start state next last : State} {slot : Nat} {time due : Time}
  {memory after : Memory} {added : List Happening} {jobs more : List (Job × Nat)} {job : Job}
  {stop : Option Time} {on : State → Prop} {stopAt : Time} {registry : Registry}
  {deliveries : List Delivery} {delays : List Number} {throttler : Throttler}

/-! ### Delays do not run out -/

theorem nextDelay?_succeeded (throttler : Throttler) (hdelays : delays ≠ []) :
    throttler.succeeded.nextDelay? delays ≠ none := by
  cases delays with
  | nil => exact absurd rfl hdelays
  | cons delay rest => simp [Throttler.succeeded, Throttler.nextDelay?, Throttler.pending]

theorem nextDelay?_failed {delay : Number} (hdelay : throttler.nextDelay? delays = some delay)
    (now : Time) : (throttler.failed delays now).nextDelay? delays ≠ none := by
  have hfailed : (throttler.failed delays now).lastUsedDelayMs = some delay := by
    simp [Throttler.failed, hdelay]
  rw [Throttler.nextDelay?, hfailed]
  simp

theorem Stepped.nextDelay? (hstepped : Stepped setting state slot time memory after added stop)
    (hdelays : setting.delays ≠ [])
    (hdelay : memory.throttler.nextDelay? setting.delays ≠ none) :
    after.throttler.nextDelay? setting.delays ≠ none := by
  cases hstepped with
  | rests _ _ _ _ _ _ _ hthrottler => rwa [hthrottler]
  | calls _ _ _ _ _ hthrottler => rwa [hthrottler]
  | ends _ _ _ _ _ _ _ _ hthrottler =>
      rcases hthrottler with ⟨-, hsucceeded⟩ | hnone
      · rw [hsucceeded]
        exact nextDelay?_succeeded _ hdelays
      · exact absurd hnone hdelay
  | fails _ _ _ _ _ _ hsome _ _ hthrottler =>
      rw [hthrottler]
      exact nextDelay?_failed hsome time
  | cools _ _ _ _ _ _ _ hthrottler => rwa [hthrottler]
  | breaksOff _ _ _ _ _ _ _ _ hthrottler => rwa [hthrottler]

theorem Moves.nextDelay? (hmove : Moves setting state jobs next) (hdelays : setting.delays ≠ [])
    (hstate : ∀ slot, (state.memoryAt slot).throttler.nextDelay? setting.delays ≠ none)
    (slot : Nat) : (next.memoryAt slot).throttler.nextDelay? setting.delays ≠ none := by
  rcases hmove.goesOn_or_untouched slot with ⟨due, hnext, rfl, rfl⟩ | huntouched
  · obtain ⟨after, added, hframed, hstepped⟩ := stepped_goOn setting hnext
    rw [hframed.memoryAt_self (getElem?_of_dueAt? (dueAt?_of_next? hnext))]
    exact hstepped.nextDelay? hdelays (hstate slot)
  · rw [huntouched.throttler]
    exact hstate slot

theorem nextDelay?_memoryAt (hdelays : setting.delays ≠ [])
    (hknown : ∀ memory ∈ state.registry.memories,
      memory.throttler.nextDelay? setting.delays ≠ none) (slot : Nat) :
    (state.memoryAt slot).throttler.nextDelay? setting.delays ≠ none := by
  rw [State.memoryAt]
  cases hmemory : state.registry.memories[slot]? with
  | none => exact nextDelay?_succeeded {} hdelays
  | some memory => exact hknown memory (List.mem_of_getElem? hmemory)

/-! ### A call that fails behind the stop signal -/

/-- A call that fails leads to a wait, if there is a delay for it. -/
theorem isWaiting_of_settled (hnext : state.next? none = some (due, slot))
    (hdelay : (state.memoryAt slot).throttler.nextDelay? setting.delays ≠ none) {number : Nat}
    {error : Thrown} {rest : History}
    (htrace : (state.goOn setting slot due).trace =
      state.trace ++ (time, .settled number slot (some error)) :: rest) :
    rest = [] ∧
      ∃ job due', (state.goOn setting slot due).IsWaiting slot job due' ∧ time < due' := by
  obtain ⟨after, added, hframed, hstepped⟩ := stepped_goOn setting hnext
  have hself := hframed.memoryAt_self (getElem?_of_dueAt? (dueAt?_of_next? hnext))
  rw [hframed.trace, List.append_cancel_left_eq] at htrace
  generalize (state.goOn setting slot due).stop = stop at hstepped
  cases hstepped with
  | rests | calls | cools | breaksOff => simp at htrace
  | ends job due failure succeeded hrunning hdue hafter hwaiting hthrottler =>
      obtain rfl : failure = some error := by simp_all
      exact absurd (hthrottler.resolve_left (by simp)) hdelay
  | fails job due' error' delay hrunning hdue hsome hafter =>
      obtain ⟨⟨rfl, -⟩, rfl⟩ : (max state.now due = time ∧ _) ∧ rest = [] := by simpa using htrace
      exact ⟨rfl, job, _, ⟨.cooling _, by rw [hself, hafter], rfl⟩, lt_add_timer _ delay⟩

theorem Passage.calledOn_of_fails (hpassage : Passage setting on state more last)
    (hlast : last.next? none = none) (hstop : last.stop = some stopAt)
    (hbooks : Books setting jobs state) (hempty : state.trace = [])
    (hdelays : setting.delays ≠ [])
    (hknown : ∀ slot, (state.memoryAt slot).throttler.nextDelay? setting.delays ≠ none)
    {before behind : History} {number : Nat} {error : Thrown}
    (htrace : last.trace = before ++ (time, .settled number slot (some error)) :: behind)
    (hstopped : stopAt ≤ time) : calledOn slot behind = [] := by
  obtain ⟨between, due, first, rest, hfirst, hnext, rfl, ⟨others, hothers⟩, hrest⟩ :=
    hpassage.exists_settled htrace (by simp [hempty])
  have hdelay := hfirst.induction
    (P := fun state => ∀ slot, (state.memoryAt slot).throttler.nextDelay? setting.delays ≠ none)
    (fun _ _ _ _ hmove hstate => hmove.nextDelay? hdelays hstate) hknown slot
  obtain ⟨rfl, job, due', hwaiting, hlt⟩ := isWaiting_of_settled hnext hdelay hothers
  have hmove : Moves setting between [] (between.goOn setting slot due) := .goesOn _ _ hnext
  have hbooks' := (hfirst.books hbooks).moves hmove
  obtain ⟨-, hcalled⟩ := hrest.broken_off hlast hstop hbooks'
    ⟨hwaiting, .inl (Int.lt_of_le_of_lt hstopped hlt)⟩
  -- The wait that follows the failure is the last that is done on the slot.
  rw [htrace, hothers, calledOn_append, calledOn_append, List.append_cancel_left_eq,
    ← List.singleton_append, calledOn_append] at hcalled
  exact List.append_right_eq_self.mp hcalled

/-! ### Stopped runs -/

theorem ComesBy.late (hpassage : Passage setting (ComesBy setting start deliveries)
      (state.wait setting time) more last)
    (hlast : last.stop = some stopAt) (hlate : stopAt < time) :
    (state.wait setting time).isStopped = true := by
  rw [State.isStopped, hpassage.stop_eq_of_lt hlast hlate, now_wait, Clock.reached,
    decide_eq_true_eq]
  exact Int.le_of_lt hlate

theorem Passage.handles
    (hpassage : Passage setting (ComesBy setting start deliveries) start jobs last)
    (hbooks : Books setting [] start) (hidle : (last.memoryAt slot).queue.isIdle = true)
    (hwhole : ∀ state job due, ComesBy setting start deliveries state →
      ¬state.IsCutShort stopAt slot job due) :
    calledOn slot last.trace = jobsOn slot jobs := by
  have haccounts := hpassage.accounts hbooks (hbooks.accounts_nil slot)
  rw [List.nil_append] at haccounts
  cases haccounts with
  | whole hjobs => rw [hjobs, (eq_nil_of_isIdle hidle).1, List.append_nil]
  | cut found job due rest hcomes hwaiting hreached =>
      exact absurd ⟨hwaiting, .inr hreached⟩ (hwhole found job due hcomes)

theorem ending_stopsAt (setting : Setting) (hidle : registry.IsIdle) (now : Time)
    (stop : Option Time) (deliveries : List Delivery)
    (hstop : (State.ending setting { now, stop, registry } deliveries).stop = some stopAt)
    (hsettles : ∀ place time call,
      (State.ending setting { now, stop, registry } deliveries).trace[place]? =
        some (time, .called call) →
      (behaviourAt setting (State.ending setting { now, stop, registry } deliveries).trace place
        call).duration.isSome = true) :
    StopsAt setting { now, stop, registry } deliveries stopAt
      (State.ending setting { now, stop, registry } deliveries) := by
  have hbooks := books_of_isIdle setting hidle now stop
  have hempty : (State.mk now stop registry 0 0 [] []).trace = [] := rfl
  generalize hstart : ({ now, stop, registry } : State) = start at *
  have hremembered := hbooks.isRemembered
  have hrun := passage_run setting deliveries hremembered
  have hlast := next?_ending setting start deliveries
  have hidle (slot : Nat) :
      ((start.ending setting deliveries).memoryAt slot).queue.isIdle = true := by
    rcases (hrun.books hbooks).isIdle_or_hangs hlast slot with
      hidle | ⟨_, _, _, _, hplace, -, hnever, -⟩
    · exact hidle
    · have hsome := hsettles _ _ _ hplace
      simp [hnever] at hsome
  exact {
    late := fun taken state delay event rest hstands hlate => by
      obtain ⟨_, _, -, hrest, -⟩ := (ComesBy.waited hstands).passage hremembered
      have hstopped := ComesBy.late hrest hstop hlate
      obtain ⟨haccepted, hreceived⟩ := hstands.of_isStopped hstopped
      obtain ⟨hsame, hqueued⟩ := sameSlots_ending setting start deliveries
      rw [hreceived] at hsame hqueued
      exact ⟨haccepted, hsame.trans (sameSlots_wait setting _ _),
        hqueued.trans (queued_advanceBy setting _ _ _)⟩
    waits := fun state slot job due hcomes hcut => by
      obtain ⟨_, _, hfirst, hrest, -⟩ := hcomes.passage hremembered
      exact hrest.broken_off hlast hstop (hfirst.books hbooks) hcut
    calls := fun state slot job hcomes hturn hfree => by
      obtain ⟨_, _, -, hrest, -⟩ := hcomes.passage hremembered
      exact hrest.called_of_isTurn hlast hturn hfree
    skips := fun state slot job hcomes hstopped hturn hactive => by
      obtain ⟨_, _, hfirst, hrest, -⟩ := hcomes.passage hremembered
      exact hrest.skipped_of_isTurn hlast hstop (hfirst.books hbooks) hturn hstopped hactive
    fails := fun hdelays hknown before behind time number slot error htrace hstopped =>
      hrun.calledOn_of_fails hlast hstop hbooks (hstart ▸ hempty) hdelays
        (nextDelay?_memoryAt hdelays hknown) htrace hstopped
    handles := fun slot hwhole => hrun.handles hbooks (hidle slot) hwhole
    counts := (hrun.books hbooks).numbered
    ends := ⟨isIdle_iff.mpr hidle, fun slot => (hrun.books hbooks).oversOn_eq (hidle slot)⟩ }

/-- **What the stop signal does.** No event that comes later is dispatched. Each wait ends with it
and keeps its slot throttled for good; all jobs still have their turn, and are skipped on slots that
are throttled and handled on all others. -/
theorem run_stopsAt (setting : Setting) (hidle : registry.IsIdle) (now : Time) (stop : Option Time)
    (deliveries : List Delivery)
    (hstop : (run setting { now, stop, registry } deliveries).state.stop = some stopAt)
    (hsettles : ∀ place time call,
      (run setting { now, stop, registry } deliveries).state.trace[place]? =
        some (time, .called call) →
      (behaviourAt setting (run setting { now, stop, registry } deliveries).state.trace place
        call).duration.isSome = true) :
    StopsAt setting { now, stop, registry } deliveries stopAt
      (run setting { now, stop, registry } deliveries).state := by
  obtain ⟨log, hstate, -⟩ :=
    exists_finish setting (State.receive setting { now, stop, registry } 0 deliveries)
  rw [run, hstate] at hstop hsettles ⊢
  obtain ⟨hlate, hwaits, hcalls, hskips, hfails, hhandles, hcounts, hends⟩ :=
    ending_stopsAt setting hidle now stop deliveries hstop hsettles
  exact ⟨hlate, hwaits, hcalls, hskips, hfails, hhandles, hcounts, hends⟩

/-- Two resources, and a third one when it is too late. -/
def interrupted : List Delivery :=
  [.event 1 ⟨some .modified, identified "a"⟩, .event 1 ⟨some .modified, identified "a"⟩,
    .event 1 ⟨some .modified, identified "b"⟩, .event 20 ⟨some .added, identified "c"⟩]

theorem run_stopsAt_interrupted :
    Registry.IsIdle {} ∧
      (run clumsy { now := 0, stop := some 7 } interrupted).state.stop = some 7 ∧
      (∀ place time call,
        (run clumsy { now := 0, stop := some 7 } interrupted).state.trace[place]? =
          some (time, .called call) →
        (behaviourAt clumsy (run clumsy { now := 0, stop := some 7 } interrupted).state.trace place
          call).duration.isSome = true) ∧
      StopsAt clumsy { now := 0, stop := some 7 } interrupted 7
        (run clumsy { now := 0, stop := some 7 } interrupted).state := by
  have hstop : (run clumsy { now := 0, stop := some 7 } interrupted).state.stop = some 7 := by
    decide +kernel
  have hsettles (history : History) (place : Nat) (call : Call) :
      (behaviourAt clumsy history place call).duration.isSome = true := by
    simp only [behaviourAt, clumsy]
    split <;> rfl
  exact ⟨Registry.isIdle_empty, hstop, fun _ _ _ _ => hsettles _ _ _,
    run_stopsAt clumsy Registry.isIdle_empty 0 (some 7) interrupted hstop
      fun _ _ _ _ => hsettles _ _ _⟩

/-- The call for the first resource fails at 6, and what is left of its wait is cut off at 7, so
that its second event is skipped; the one for the other resource is made all the same. -/
example :
    (run clumsy { now := 0, stop := some 7 } interrupted).state.calls.map
      (fun (time, call) => (time, call.job.number)) = [(1, 0), (3, 2)] := by
  decide +kernel

end ResourceWatch.Processing
