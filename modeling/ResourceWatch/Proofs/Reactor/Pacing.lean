import ResourceWatch.Proofs.Number.Delays
import ResourceWatch.Proofs.Reactor.Stopping

/-!
# Waits behind failures

A call that fails on a slot takes one of the delays, and until the timer for it has fired the handler
is not called on the slot again, whether or not the run is stopped. Then it is called at once for the
next job that waits, unless the stop signal has come.
-/

namespace ResourceWatch

open Throttling

namespace Throttler

/-- The delays that are left and the one that was used last are some of these, and there is always a
next one. -/
structure DrawsFrom (throttler : Throttler) (delays : List Number) : Prop where
  pending : ∀ delay ∈ throttler.pending delays, delay ∈ delays
  lastUsed : ∀ delay ∈ throttler.lastUsedDelayMs, delay ∈ delays
  goesOn : throttler.nextDelay? delays ≠ none

variable {throttler : Throttler} {delays : List Number} {delay : Number}

theorem drawsFrom_succeeded (throttler : Throttler) (hdelays : delays ≠ []) :
    throttler.succeeded.DrawsFrom delays where
  pending := fun _ hdelay => hdelay
  lastUsed := by simp [succeeded]
  goesOn := Processing.nextDelay?_succeeded throttler hdelays

theorem DrawsFrom.mem_of_nextDelay? (hdraws : throttler.DrawsFrom delays)
    (hdelay : throttler.nextDelay? delays = some delay) : delay ∈ delays := by
  rw [nextDelay?, Option.or_eq_some_iff] at hdelay
  rcases hdelay with hhead | ⟨-, hlast⟩
  · exact hdraws.pending delay (List.mem_of_mem_head? hhead)
  · exact hdraws.lastUsed delay hlast

theorem DrawsFrom.rested (hdraws : throttler.DrawsFrom delays) : throttler.rested.DrawsFrom delays :=
  ⟨hdraws.pending, hdraws.lastUsed, hdraws.goesOn⟩

theorem DrawsFrom.failed (hdraws : throttler.DrawsFrom delays)
    (hdelay : throttler.nextDelay? delays = some delay) (now : Time) :
    (throttler.failed delays now).DrawsFrom delays where
  pending other hother := by
    have hpending : (throttler.failed delays now).pending delays =
        (throttler.pending delays).tail := by
      simp [Throttler.failed, hdelay, Throttler.pending]
    rw [hpending] at hother
    exact hdraws.pending other (List.mem_of_mem_tail hother)
  lastUsed other hother := by
    rw [Throttler.failed, hdelay] at hother
    obtain rfl : delay = other := Option.some.inj hother
    exact hdraws.mem_of_nextDelay? hdelay
  goesOn := Processing.nextDelay?_failed hdelay now

end Throttler

namespace Processing

variable {setting : Setting} {start state next last : State} {slot : Nat} {time due : Time}
  {memory after : Memory} {added : List Happening} {jobs more : List (Job × Nat)} {job : Job}
  {stop : Option Time} {on : State → Prop} {before behind history : History} {bound : Time}
  {number : Nat} {delay : Number} {deliveries : List Delivery}

/-! ### The delays that are taken -/

theorem Stepped.drawsFrom (hstepped : Stepped setting state slot time memory after added stop)
    (hdraws : memory.throttler.DrawsFrom setting.delays) (hdelays : setting.delays ≠ []) :
    after.throttler.DrawsFrom setting.delays := by
  cases hstepped with
  | rests _ _ _ _ _ _ _ hthrottler => rwa [hthrottler]
  | calls _ _ _ _ _ hthrottler => exact hthrottler ▸ hdraws.rested
  | ends _ _ _ _ _ _ _ _ hthrottler =>
      rcases hthrottler with ⟨-, hsucceeded⟩ | hnone
      · exact hsucceeded ▸ Throttler.drawsFrom_succeeded _ hdelays
      · exact absurd hnone hdraws.goesOn
  | fails _ _ _ _ _ _ hdelay _ _ hthrottler => exact hthrottler ▸ hdraws.failed hdelay time
  | cools _ _ _ _ _ _ _ hthrottler => exact hthrottler ▸ hdraws.rested
  | breaksOff _ _ _ _ _ _ _ _ hthrottler => rwa [hthrottler]

theorem Moves.drawsFrom (hmove : Moves setting state jobs next) (hdelays : setting.delays ≠ [])
    (hstate : ∀ slot, (state.memoryAt slot).throttler.DrawsFrom setting.delays) (slot : Nat) :
    (next.memoryAt slot).throttler.DrawsFrom setting.delays := by
  rcases hmove.goesOn_or_untouched slot with ⟨due, hnext, rfl, rfl⟩ | huntouched
  · obtain ⟨after, added, hframed, hstepped⟩ := stepped_goOn setting hnext
    rw [hframed.memoryAt_self (getElem?_of_dueAt? (dueAt?_of_next? hnext))]
    exact hstepped.drawsFrom (hstate slot) hdelays
  · rw [huntouched.throttler]
    exact hstate slot

theorem drawsFrom_memoryAt (hdelays : setting.delays ≠ [])
    (hknown : ∀ memory ∈ state.registry.memories, memory.throttler.DrawsFrom setting.delays)
    (slot : Nat) : (state.memoryAt slot).throttler.DrawsFrom setting.delays := by
  rw [State.memoryAt]
  cases hmemory : state.registry.memories[slot]? with
  | none => exact Throttler.drawsFrom_succeeded {} hdelays
  | some memory => exact hknown memory (List.mem_of_getElem? hmemory)

/-! ### The call under way -/

theorem throttler_proceeded {step : Step} {call : Call}
    (hmem : .called call ∈ (proceeded setting state slot memory job step).2) :
    call.memory.throttler = (proceeded setting state slot memory job step).1.throttler := by
  rw [proceeded] at hmem ⊢
  cases hnext : step.next with
  | wait stage => simp [hnext] at hmem
  | «over» succeeded => simp [hnext] at hmem
  | call =>
      simp only [hnext, List.mem_singleton, Happening.called.injEq] at hmem ⊢
      rw [hmem]

theorem not_called_of_plan {throttling : Throttling.Setting} {plan : Plan} {call : Call}
    (hplan : plan? throttling stop time slot memory = some plan) :
    .called call ∉ plan.settled := by
  rw [plan?] at hplan
  split at hplan
  · obtain ⟨_, -, rfl⟩ := Option.map_eq_some_iff.mp hplan
    simp
  · obtain rfl := Option.some.inj hplan
    simp only
    split <;> simp

/-- A call is told the throttling that is left with its memory. -/
theorem throttler_of_called (hnext : state.next? none = some (due, slot)) {more : History}
    (htrace : (state.goOn setting slot due).trace = state.trace ++ more) {call : Call}
    (hmem : (time, .called call) ∈ more) :
    call.memory.throttler = ((state.goOn setting slot due).memoryAt slot).throttler := by
  have hdue := dueAt?_of_next? hnext
  have hmemory := getElem?_of_dueAt? hdue
  obtain ⟨plan, hplan⟩ :=
    exists_plan setting.throttling state.stop (max state.now due) slot hdue
  have hframed := framed_fire setting hmemory hplan
  have hself := hframed.memoryAt_self hmemory
  have hadded := hframed.trace
  rw [State.goOn] at htrace ⊢
  rw [htrace, List.append_cancel_left_eq] at hadded
  rw [hadded] at hmem
  obtain ⟨happening, hhappening, heq⟩ := List.mem_map.mp hmem
  obtain ⟨-, rfl⟩ := Prod.mk.inj heq
  rcases List.mem_append.mp hhappening with hsettled | hcalled
  · exact absurd hsettled (not_called_of_plan hplan)
  · rw [hself]
    exact throttler_proceeded hcalled

/-- Each call under way was told the throttling that its memory still has. -/
def State.IsTold (state : State) : Prop :=
  ∀ slot job due failure,
    (state.memoryAt slot).queue.running = some ⟨job, .calling due failure⟩ →
    ∃ time call, (time, .called call) ∈ state.trace ∧ call.job = job ∧ call.slot = slot ∧
      call.memory.throttler = (state.memoryAt slot).throttler

theorem isTold_goOn (hnext : state.next? none = some (due, slot)) {job : Job} {ended : Option Time}
    {failure : Option Thrown}
    (hrunning : ((state.goOn setting slot due).memoryAt slot).queue.running =
      some ⟨job, .calling ended failure⟩) :
    ∃ time call, (time, .called call) ∈ (state.goOn setting slot due).trace ∧ call.job = job ∧
      call.slot = slot ∧
      call.memory.throttler = ((state.goOn setting slot due).memoryAt slot).throttler := by
  obtain ⟨after, added, hframed, hstepped⟩ := stepped_goOn setting hnext
  have hself := hframed.memoryAt_self (getElem?_of_dueAt? (dueAt?_of_next? hnext))
  have htold (call : Call)
      (hmem : (max state.now due, .called call) ∈ added.map (max state.now due, ·)) :=
    throttler_of_called hnext hframed.trace hmem
  rw [hself] at hrunning
  generalize (state.goOn setting slot due).stop = stop at hstepped
  cases hstepped with
  | calls call stop hfree hslot hafter =>
      obtain ⟨rfl, -⟩ := Handling.mk.inj (Option.some.inj (hafter.symm.trans hrunning))
      refine ⟨max state.now due, call, ?_, rfl, hslot, htold call (by simp)⟩
      rw [hframed.trace]
      exact List.mem_append_right _ List.mem_cons_self
  | rests _ _ _ _ _ hafter => simp [hafter] at hrunning
  | fails _ _ _ _ _ _ _ hafter => cases hafter.symm.trans hrunning
  | ends _ _ _ _ _ _ hafter => simp [hafter] at hrunning
  | cools _ _ _ _ _ hafter => simp [hafter] at hrunning
  | breaksOff _ _ _ _ _ _ hafter => simp [hafter] at hrunning

theorem Moves.isTold (hmove : Moves setting state jobs next) (htold : state.IsTold) :
    next.IsTold := by
  intro slot job due failure hrunning
  -- A call comes under way with the step that makes it, and its memory is left alone meanwhile.
  rcases hmove.goesOn_or_untouched slot with ⟨due, hnext, rfl, rfl⟩ | huntouched
  · exact isTold_goOn hnext hrunning
  · rw [huntouched.running] at hrunning
    obtain ⟨time, call, hcalled, hjob, hslot, hthrottler⟩ := htold slot job due failure hrunning
    refine ⟨time, call, ?_, hjob, hslot, hthrottler.trans huntouched.throttler.symm⟩
    exact mem_trace_of_passage hmove.passage hcalled

theorem Books.number_lt (hbooks : Books setting jobs state) {first second : Nat}
    (hlt : first < second) {time later : Time} {call other : Call}
    (hfirst : state.trace[first]? = some (time, .called call))
    (hsecond : state.trace[second]? = some (later, .called other)) (hslot : call.slot = other.slot) :
    call.job.number < other.job.number := by
  obtain ⟨hlength, hentry⟩ := List.getElem?_eq_some_iff.mp hsecond
  have hcut : state.trace = state.trace.take second ++ (later, .called other) ::
      state.trace.drop (second + 1) := by
    rw [← hentry, ← List.drop_eq_getElem_cons hlength, List.take_append_drop]
  have hearlier : (time, .called call) ∈ state.trace.take second := by
    refine List.mem_of_getElem? (i := first) ?_
    rw [List.getElem?_take, if_pos hlt, hfirst]
  have hordered := (pairwise_jobsOn hbooks.numbered call.slot).sublist
    ((List.sublist_append_left _ _).trans (hbooks.called call.slot))
  -- The jobs that were called on a slot are in the order of their numbers.
  rw [hcut, calledOn_append] at hordered
  have hsecond : other.job ∈ calledOn call.slot
      ((later, .called other) :: state.trace.drop (second + 1)) := by
    rw [hslot]
    exact mem_calledOn List.mem_cons_self
  exact (List.pairwise_append.mp hordered).2.2 _ (mem_calledOn hearlier) _ hsecond

theorem Books.call_eq (hbooks : Books setting jobs state) {call other : Call} {later : Time}
    (hcall : (time, .called call) ∈ state.trace) (hother : (later, .called other) ∈ state.trace)
    (hslot : call.slot = other.slot) (hnumber : call.job.number = other.job.number) :
    call = other := by
  obtain ⟨first, hfirst⟩ := List.mem_iff_getElem?.mp hcall
  obtain ⟨second, hsecond⟩ := List.mem_iff_getElem?.mp hother
  rcases Nat.lt_trichotomy first second with hlt | rfl | hlt
  · have hbelow := hbooks.number_lt hlt hfirst hsecond hslot
    omega
  · rw [hfirst, Option.some.injEq, Prod.mk.injEq, Happening.called.injEq] at hsecond
    exact hsecond.2
  · have hbelow := hbooks.number_lt hlt hsecond hfirst hslot.symm
    omega

/-! ### The wait that follows a failure -/

theorem running_of_settled (hnext : state.next? none = some (due, slot)) {failure : Option Thrown}
    {rest : History}
    (htrace : (state.goOn setting slot due).trace =
      state.trace ++ (time, .settled number slot failure) :: rest) :
    ∃ job due, (state.memoryAt slot).queue.running = some ⟨job, .calling (some due) failure⟩ ∧
      job.number = number := by
  obtain ⟨after, added, hframed, hstepped⟩ := stepped_goOn setting hnext
  rw [hframed.trace, List.append_cancel_left_eq] at htrace
  generalize (state.goOn setting slot due).stop = stop at hstepped
  cases hstepped with
  | rests | calls | cools | breaksOff => simp at htrace
  | ends job due' found succeeded hrunning =>
      obtain ⟨⟨-, rfl, rfl⟩, -⟩ : (_ ∧ job.number = number ∧ found = failure) ∧ _ := by
        simpa using htrace
      exact ⟨job, due', hrunning, rfl⟩
  | fails job due' error delay hrunning =>
      obtain ⟨⟨-, rfl, rfl⟩, -⟩ : (_ ∧ job.number = number ∧ some error = failure) ∧ _ := by
        simpa using htrace
      exact ⟨job, due', hrunning, rfl⟩

/-- A failure for which there is a delay leads to a wait for it. -/
theorem cooling_of_settled (hnext : state.next? none = some (due, slot)) {error : Thrown}
    {rest : History} (hdelay : (state.memoryAt slot).throttler.nextDelay? setting.delays = some delay)
    (htrace : (state.goOn setting slot due).trace =
      state.trace ++ (time, .settled number slot (some error)) :: rest) :
    rest = [] ∧ (state.goOn setting slot due).now = time ∧
      ∃ job, ((state.goOn setting slot due).memoryAt slot).queue.running =
        some ⟨job, .cooling (time + Clock.timer delay)⟩ := by
  obtain ⟨after, added, hframed, hstepped⟩ := stepped_goOn setting hnext
  have hself := hframed.memoryAt_self (getElem?_of_dueAt? (dueAt?_of_next? hnext))
  rw [hframed.trace, List.append_cancel_left_eq] at htrace
  generalize (state.goOn setting slot due).stop = stop at hstepped
  cases hstepped with
  | rests | calls | cools | breaksOff => simp at htrace
  | ends job due' failure succeeded _ _ _ _ hthrottler =>
      obtain rfl : failure = some error := by simp_all
      rw [hdelay] at hthrottler
      exact absurd (hthrottler.resolve_left (by simp)) (by simp)
  | fails job due' error' found _ _ hfound hafter =>
      obtain ⟨⟨htime, -⟩, rfl⟩ : (max state.now due = time ∧ _) ∧ rest = [] := by
        simpa using htrace
      obtain rfl : found = delay := Option.some.inj (hfound.symm.trans hdelay)
      exact ⟨rfl, hframed.now.trans htime, job, by rw [hself, hafter, htime]⟩

/-! ### Until the wait is over -/

/-- The handler is not called on a slot before a time: a wait up to it is under way, or the stop
signal has come while the slot was throttled, or the time has come. -/
inductive State.IsQuietUntil (state : State) (slot : Nat) (bound : Time) : Prop where
  | cooling (job : Job)
      (hrunning : (state.memoryAt slot).queue.running = some ⟨job, .cooling bound⟩) :
      IsQuietUntil state slot bound
  | barred (hbarred : state.IsBarred slot) : IsQuietUntil state slot bound
  | elapsed (hle : bound ≤ state.now) : IsQuietUntil state slot bound

/-- All calls on a slot are made from a time on. -/
def CallsFrom (slot : Nat) (bound : Time) (history : History) : Prop :=
  ∀ time call, (time, .called call) ∈ history → call.slot = slot → bound ≤ time

theorem CallsFrom.append {more : History} (hfirst : CallsFrom slot bound history)
    (hsecond : CallsFrom slot bound more) : CallsFrom slot bound (history ++ more) := by
  intro time call hmem hslot
  rcases List.mem_append.mp hmem with hmem | hmem
  · exact hfirst time call hmem hslot
  · exact hsecond time call hmem hslot

theorem callsFrom_of_calledOn (hcalled : calledOn slot history = []) :
    CallsFrom slot bound history := by
  intro time call hmem hslot
  have hjob := mem_calledOn hmem
  rw [hslot, hcalled] at hjob
  cases hjob

theorem callsFrom_of_foreign (hforeign : ∀ entry ∈ history, entry.2.slot ≠ slot) :
    CallsFrom slot bound history :=
  fun _ _ hmem hslot => absurd hslot (hforeign _ hmem)

theorem Moves.exists_later (hmove : Moves setting state jobs next) :
    ∃ added, next.trace = state.trace ++ added ∧ ∀ entry ∈ added, state.now ≤ entry.1 := by
  cases hmove with
  | goesOn due slot hnext =>
      obtain ⟨after, added, hframed, -⟩ := stepped_goOn setting hnext
      refine ⟨_, hframed.trace, fun entry hentry => ?_⟩
      obtain ⟨happening, -, rfl⟩ := List.mem_map.mp hentry
      exact Int.le_max_left _ _
  | waits | queues | counts => exact ⟨[], by simp⟩

theorem Stepped.of_cooling (hstepped : Stepped setting state slot time memory after added stop)
    (hrunning : memory.queue.running = some ⟨job, .cooling bound⟩)
    (hgoing : Clock.reached state.stop time = false) :
    bound ≤ time ∧ added = [.over job.number slot false] ∧ after.queue.running = none ∧
      after.queue.waiting = memory.queue.waiting ∧ after.throttler = memory.throttler.rested := by
  cases hstepped with
  | cools job' due hcooling hdue _ hafter hwaiting hthrottler =>
      obtain ⟨rfl, hstage⟩ := Handling.mk.inj (Option.some.inj (hrunning.symm.trans hcooling))
      obtain rfl := Stage.cooling.inj hstage
      exact ⟨hdue, rfl, hafter, hwaiting, hthrottler⟩
  | breaksOff _ _ _ _ _ hstopped => simp [hgoing] at hstopped
  | rests _ _ hnone => simp [hrunning] at hnone
  | calls _ _ hfree =>
      rcases hfree with ⟨hnone, -⟩ | ⟨_, hresting, -⟩
      · simp [hrunning] at hnone
      · simp [hrunning] at hresting
  | ends _ _ _ _ hcalling => simp [hrunning] at hcalling
  | fails _ _ _ _ hcalling => simp [hrunning] at hcalling

/-- The step at the end of a wait: it is broken off, or over. -/
theorem goOn_of_cooling (hbooks : Books setting jobs state)
    (hrunning : (state.memoryAt slot).queue.running = some ⟨job, .cooling bound⟩)
    (hnext : state.next? none = some (due, slot)) :
    (state.goOn setting slot due).IsQuietUntil slot bound ∧
      (state.goOn setting slot due).trace =
        state.trace ++ [(max state.now due, .over job.number slot false)] := by
  cases hreached : Clock.reached state.stop (max state.now due) with
  | true =>
      obtain ⟨hbarred, -, htrace⟩ :=
        goOn_isBarred hbooks ⟨.cooling bound, hrunning, rfl⟩ hnext hreached
      exact ⟨.barred hbarred, htrace⟩
  | false =>
      obtain ⟨after, added, hframed, hstepped⟩ := stepped_goOn setting hnext
      obtain ⟨hle, rfl, -⟩ := hstepped.of_cooling hrunning hreached
      exact ⟨.elapsed (hframed.now ▸ hle), hframed.trace⟩

/-- **A slot that is quiet stays so**, and a call on it is made from that time on. -/
theorem Moves.isQuietUntil (hmove : Moves setting state jobs next)
    (hbooks : Books setting more state) (hquiet : state.IsQuietUntil slot bound) :
    next.IsQuietUntil slot bound ∧
      ∃ added, next.trace = state.trace ++ added ∧ CallsFrom slot bound added := by
  cases hquiet with
  | elapsed hle =>
      obtain ⟨added, htrace, hlater⟩ := hmove.exists_later
      refine ⟨.elapsed (Int.le_trans hle hmove.now_le), added, htrace, fun time call hmem _ => ?_⟩
      exact Int.le_trans hle (hlater _ hmem)
  | barred hbarred =>
      obtain ⟨hbarred', hcalled⟩ := hmove.of_isBarred hbarred
      obtain ⟨added, htrace⟩ := hmove.trace
      rw [htrace, calledOn_append] at hcalled
      exact ⟨.barred hbarred', added, htrace,
        callsFrom_of_calledOn (List.append_right_eq_self.mp hcalled)⟩
  | cooling job hrunning =>
      rcases hmove.goesOn_or_untouched slot with ⟨due, hnext, rfl, rfl⟩ | huntouched
      · obtain ⟨hquiet, htrace⟩ := goOn_of_cooling hbooks hrunning hnext
        exact ⟨hquiet, _, htrace, callsFrom_of_calledOn (calledOn_singleton_of_ne (by simp))⟩
      · obtain ⟨added, htrace, hforeign⟩ := huntouched.trace
        exact ⟨.cooling job (huntouched.running.trans hrunning), added, htrace,
          callsFrom_of_foreign hforeign⟩

theorem Passage.callsFrom (hpassage : Passage setting on state more last)
    (hbooks : Books setting jobs state) (hquiet : state.IsQuietUntil slot bound) :
    ∃ added, last.trace = state.trace ++ added ∧ CallsFrom slot bound added := by
  obtain ⟨-, -, hlast⟩ := hpassage.induction
    (P := fun next => (∃ jobs, Books setting jobs next) ∧ next.IsQuietUntil slot bound ∧
      ∃ added, next.trace = state.trace ++ added ∧ CallsFrom slot bound added)
    (fun between _ next _ hmove ⟨⟨jobs, hbooks⟩, hquiet, added, htrace, hadded⟩ => by
      obtain ⟨hquiet', more, htrace', hmore⟩ := hmove.isQuietUntil hbooks hquiet
      refine ⟨⟨_, hbooks.moves hmove⟩, hquiet', added ++ more, ?_, hadded.append hmore⟩
      rw [htrace', htrace, List.append_assoc])
    ⟨⟨jobs, hbooks⟩, hquiet, [], by simp, by simp [CallsFrom]⟩
  exact hlast

/-- **Behind the wait the next job is called at once**, unless the stop signal comes by then. -/
theorem Passage.called_of_cooling (hpassage : Passage setting on state more last)
    (hlast : last.next? none = none) (hbooks : Books setting jobs state)
    (hrunning : (state.memoryAt slot).queue.running = some ⟨job, .cooling bound⟩) {waiting : Job}
    (hhead : (state.memoryAt slot).queue.waiting.head? = some waiting)
    (hgoing : Clock.reached last.stop bound = false) :
    ∃ call, (bound, .called call) ∈ last.trace ∧ call.job = waiting ∧ call.slot = slot := by
  have hwaiting : state.IsWaiting slot job bound := ⟨.cooling bound, hrunning, rfl⟩
  obtain ⟨between, due, first, rest, hfirst, -, hnext, hrest, huntouched⟩ :=
    hpassage.exists_step (P := fun _ => True) hlast hwaiting.isSome_dueAt? trivial
      (fun _ _ _ _ _ _ _ _ _ _ => trivial)
  have hwaiting' := huntouched.isWaiting hwaiting
  have hrunning' := huntouched.running.trans hrunning
  have hnow := ((hfirst.books hbooks).of_isWaiting hwaiting').1
  have hmax := hwaiting'.max_le hnow hnext
  obtain ⟨after, added, hframed, hstepped⟩ := stepped_goOn setting hnext
  have hself := hframed.memoryAt_self (getElem?_of_dueAt? (dueAt?_of_next? hnext))
  -- The stop signal has not come by the end of the wait, so that it is waited out.
  have hgoing' : Clock.reached between.stop (max between.now due) = false := by
    rw [Bool.eq_false_iff]
    intro hreached
    have hmove : Moves setting between [] (between.goOn setting slot due) := .goesOn due slot hnext
    have hstop := hmove.reached (Clock.reached_of_le hmax hreached)
    rw [hrest.reached hstop] at hgoing
    exact absurd hgoing (by simp)
  obtain ⟨hle, -, hnone, hqueue, hthrottler⟩ := hstepped.of_cooling hrunning' hgoing'
  have hbound : (between.goOn setting slot due).now = bound :=
    hframed.now.trans (Int.le_antisymm hmax hle)
  have hturn : (between.goOn setting slot due).IsTurn slot waiting := by
    rw [State.IsTurn, hself, hnone, hqueue, huntouched.waiting]
    refine ⟨rfl, ?_⟩
    cases hjobs : (state.memoryAt slot).queue.waiting with
    | nil => simp [hjobs] at hhead
    | cons head others => simpa [hjobs] using hhead
  have hfree : ((between.goOn setting slot due).memoryAt slot).throttler.activeUntil = none := by
    rw [hself, hthrottler]
    rfl
  have hcalled := hrest.called_of_isTurn hlast hturn hfree
  rwa [hbound] at hcalled

/-! ### Failures in a run -/

/-- A call on a slot fails at this place of a history, and takes a delay. -/
def FailsAt (delays : List Number) (history : History) (place slot : Nat) (time : Time)
    (delay : Number) : Prop :=
  ∃ called calledAt call error, called < place ∧
    history[called]? = some (calledAt, .called call) ∧ call.slot = slot ∧
    history[place]? = some (time, .settled call.job.number slot (some error)) ∧
    call.memory.throttler.nextDelay? delays = some delay

/-- The step behind which a call has settled, and the call that has. -/
theorem Passage.exists_told (hpassage : Passage setting on state more last) (htold : state.IsTold)
    (hempty : state.trace = []) {place : Nat} {failure : Option Thrown}
    (hsettled : last.trace[place]? = some (time, .settled number slot failure)) :
    ∃ between due first rest others calledAt call, Passage setting on state first between ∧
      between.next? none = some (due, slot) ∧ between.trace = last.trace.take place ∧
      (between.goOn setting slot due).trace =
        between.trace ++ (time, .settled number slot failure) :: others ∧
      Passage setting on (between.goOn setting slot due) rest last ∧
      (calledAt, .called call) ∈ between.trace ∧ call.job.number = number ∧ call.slot = slot ∧
      call.memory.throttler = (between.memoryAt slot).throttler := by
  obtain ⟨hlength, hentry⟩ := List.getElem?_eq_some_iff.mp hsettled
  have hcut : last.trace = last.trace.take place ++
      (time, .settled number slot failure) :: last.trace.drop (place + 1) := by
    rw [← hentry, ← List.drop_eq_getElem_cons hlength, List.take_append_drop]
  obtain ⟨between, due, first, rest, hfirst, hnext, hbefore, ⟨others, hothers⟩, hrest⟩ :=
    hpassage.exists_settled hcut (by simp [hempty])
  rw [← hbefore] at hothers
  obtain ⟨job, settlesAt, hrunning, hnumber⟩ := running_of_settled hnext hothers
  have htold' := hfirst.induction (P := State.IsTold)
    (fun _ _ _ _ hmove hstate => hmove.isTold hstate) htold
  obtain ⟨calledAt, call, hcalled, hjob, hslot, hthrottler⟩ := htold' _ _ _ _ hrunning
  exact ⟨between, due, first, rest, others, calledAt, call, hfirst, hnext, hbefore, hothers, hrest,
    hcalled, hjob ▸ hnumber, hslot, hthrottler⟩

theorem Passage.exists_failsAt (hpassage : Passage setting on state more last)
    (htold : state.IsTold) (hempty : state.trace = []) (hdelays : setting.delays ≠ [])
    (hdraws : ∀ slot, (state.memoryAt slot).throttler.DrawsFrom setting.delays) {place : Nat}
    {error : Thrown}
    (hsettled : last.trace[place]? = some (time, .settled number slot (some error))) :
    ∃ delay, FailsAt setting.delays last.trace place slot time delay := by
  obtain ⟨between, due, first, rest, others, calledAt, call, hfirst, -, hbefore, -, -, hcalled, rfl,
    rfl, hthrottler⟩ := hpassage.exists_told htold hempty hsettled
  have hdraws' := hfirst.induction
    (P := fun state => ∀ slot, (state.memoryAt slot).throttler.DrawsFrom setting.delays)
    (fun _ _ _ _ hmove hstate => hmove.drawsFrom hdelays hstate) hdraws call.slot
  rw [← hthrottler] at hdraws'
  obtain ⟨delay, hdelay⟩ := Option.ne_none_iff_exists'.mp hdraws'.goesOn
  rw [hbefore] at hcalled
  obtain ⟨called, hplace⟩ := List.mem_iff_getElem?.mp hcalled
  rw [List.getElem?_take] at hplace
  split at hplace
  · rename_i hlt
    exact ⟨delay, called, calledAt, call, error, hlt, hplace, rfl, hsettled, hdelay⟩
  · cases hplace

theorem Passage.exists_failed (hpassage : Passage setting on state more last)
    (hbooks : Books setting jobs state) (htold : state.IsTold) (hempty : state.trace = [])
    {place : Nat} (hfails : FailsAt setting.delays last.trace place slot time delay) :
    ∃ between due first rest job, Passage setting on state first between ∧
      (between.memoryAt slot).throttler.nextDelay? setting.delays = some delay ∧
      Books setting (jobs ++ first) (between.goOn setting slot due) ∧
      (between.goOn setting slot due).trace = last.trace.take (place + 1) ∧
      ((between.goOn setting slot due).memoryAt slot).queue.running =
        some ⟨job, .cooling (time + Clock.timer delay)⟩ ∧
      Passage setting on (between.goOn setting slot due) rest last := by
  obtain ⟨called, calledAt, call, error, hlt, hcalled, rfl, hsettled, hdelay⟩ := hfails
  obtain ⟨between, due, first, rest, others, toldAt, told, hfirst, hnext, hbefore, hothers, hrest,
    htold, hnumber, hslot, hthrottler⟩ := hpassage.exists_told htold hempty hsettled
  have hearlier : (calledAt, .called call) ∈ between.trace := by
    rw [hbefore]
    refine List.mem_of_getElem? (i := called) ?_
    rw [List.getElem?_take, if_pos hlt, hcalled]
  -- The call that was told its throttling is the one that has failed.
  obtain rfl := (hfirst.books hbooks).call_eq htold hearlier hslot hnumber
  rw [hthrottler] at hdelay
  obtain ⟨rfl, -, job, hcooling⟩ := cooling_of_settled hnext hdelay hothers
  have hbooks' := (hfirst.books hbooks).moves (.goesOn due _ hnext)
  rw [List.append_nil] at hbooks'
  refine ⟨between, due, first, rest, job, hfirst, hdelay, hbooks', ?_, hcooling, hrest⟩
  rw [hothers, hbefore, List.take_add_one, hsettled]
  rfl

/-- How the failures of a run hold up the calls on their slots. -/
structure Paces (setting : Setting) (start : State) (deliveries : List Delivery) (final : State) :
    Prop where
  /-- Each failure takes a delay. -/
  fails : ∀ place number slot time error,
    final.trace[place]? = some (time, .settled number slot (some error)) →
    ∃ delay, FailsAt setting.delays final.trace place slot time delay
  /-- The delay is one of those of the run, and no call is made on the slot before the timer for it
  has fired. -/
  waits : ∀ place slot time delay, FailsAt setting.delays final.trace place slot time delay →
    delay ∈ setting.delays ∧ ∀ later calledAt call, place < later →
      final.trace[later]? = some (calledAt, .called call) → call.slot = slot →
      time + Clock.timer delay ≤ calledAt
  /-- A job that waits behind the failure has its call when the timer fires, unless the stop signal
  comes by then. -/
  resumes : ∀ place slot time delay, FailsAt setting.delays final.trace place slot time delay →
    ∃ state, ComesBy setting start deliveries state ∧
      state.trace = final.trace.take (place + 1) ∧
      ∀ job, (state.memoryAt slot).queue.waiting.head? = some job →
        Clock.reached final.stop (time + Clock.timer delay) = false →
        ∃ call, (time + Clock.timer delay, .called call) ∈ final.trace ∧ call.job = job ∧
          call.slot = slot

theorem Passage.on_of_last (hpassage : Passage setting on state more last) (hlast : on last) :
    on state := by
  cases hpassage with
  | rests => exact hlast
  | moves hon => exact hon

theorem isTold_of_isIdle {registry : Registry} (hidle : registry.IsIdle) (now : Time)
    (stop : Option Time) : State.IsTold { now, stop, registry } := by
  intro slot job due failure hrunning
  rw [State.memoryAt] at hrunning
  cases hmemory : registry.memories[slot]? with
  | none => simp [hmemory] at hrunning
  | some memory =>
      have hqueue := hidle.isIdle memory (List.mem_of_getElem? hmemory)
      simp_all [Queue.isIdle]

theorem paces_ending {registry : Registry} (hidle : registry.IsIdle) (now : Time)
    (stop : Option Time) (deliveries : List Delivery) (hdelays : setting.delays ≠ [])
    (hdraws : ∀ memory ∈ registry.memories, memory.throttler.DrawsFrom setting.delays) :
    Paces setting { now, stop, registry } deliveries
      (State.ending setting { now, stop, registry } deliveries) := by
  have hbooks := books_of_isIdle setting hidle now stop
  have htold := isTold_of_isIdle hidle now stop
  have hrun := passage_run setting deliveries hbooks.isRemembered
  have hlast := next?_ending setting { now, stop, registry } deliveries
  constructor
  · intro place number slot time error hsettled
    exact hrun.exists_failsAt htold rfl hdelays (drawsFrom_memoryAt hdelays hdraws) hsettled
  · intro place slot time delay hfails
    obtain ⟨between, due, first, rest, job, hfirst, hdelay, hbooks', htrace, hcooling, hrest⟩ :=
      hrun.exists_failed hbooks htold rfl hfails
    have hdraws' := hfirst.induction
      (P := fun state => ∀ slot, (state.memoryAt slot).throttler.DrawsFrom setting.delays)
      (fun _ _ _ _ hmove hstate => hmove.drawsFrom hdelays hstate)
      (drawsFrom_memoryAt hdelays hdraws) slot
    obtain ⟨added, hadded, hfrom⟩ := hrest.callsFrom hbooks' (.cooling job hcooling)
    refine ⟨hdraws'.mem_of_nextDelay? hdelay, fun later calledAt call hlt hcalled hslot => ?_⟩
    rw [htrace] at hadded
    rw [hadded, List.getElem?_append_right (by rw [List.length_take]; omega)] at hcalled
    exact hfrom calledAt call (List.mem_of_getElem? hcalled) hslot
  · intro place slot time delay hfails
    obtain ⟨between, due, first, rest, job, -, -, hbooks', htrace, hcooling, hrest⟩ :=
      hrun.exists_failed hbooks htold rfl hfails
    refine ⟨_, hrest.on_of_last (.closes _), htrace, fun waiting hhead hgoing => ?_⟩
    exact hrest.called_of_cooling hlast hbooks' hcooling hhead hgoing

/-- **A run waits out what the timers take of its delays**, and no more than that. -/
theorem paces_run {registry : Registry} (hidle : registry.IsIdle) (now : Time)
    (stop : Option Time) (deliveries : List Delivery) (hdelays : setting.delays ≠ [])
    (hdraws : ∀ memory ∈ registry.memories, memory.throttler.DrawsFrom setting.delays) :
    Paces setting { now, stop, registry } deliveries
      (run setting { now, stop, registry } deliveries).state := by
  obtain ⟨log, hstate, -⟩ :=
    exists_finish setting (State.receive setting { now, stop, registry } 0 deliveries)
  obtain ⟨hfails, hwaits, hresumes⟩ := paces_ending hidle now stop deliveries hdelays hdraws
  rw [run, hstate]
  exact ⟨hfails, hwaits, hresumes⟩

/-- Behind a failure that takes this delay no call is made on the slot before it has passed. -/
def WaitsOut (delays : List Number) (history : History) (delay : Number) : Prop :=
  ∀ place slot time, FailsAt delays history place slot time delay →
    ∀ later calledAt call, place < later → history[later]? = some (calledAt, .called call) →
      call.slot = slot → Clock.Spans (calledAt - time) delay

theorem Paces.waitsOut (hpaces : Paces setting start deliveries last)
    (hspans : Clock.Spans (Clock.timer delay) delay) :
    WaitsOut setting.delays last.trace delay := by
  intro place slot time hfails later calledAt call hlt hcalled hslot
  have hle := (hpaces.waits place slot time delay hfails).2 later calledAt call hlt hcalled hslot
  exact hspans.mono (Int.le_sub_left_of_add_le hle)

end Processing

end ResourceWatch
