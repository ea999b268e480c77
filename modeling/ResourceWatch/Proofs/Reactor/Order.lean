import ResourceWatch.Proofs.Reactor.Steps

/-!
# The order of calls

On one memory the handler is called for one job after another, in the order in which they were
queued. Each call comes behind the end of the one before it and behind the wait that this one led
to. What is known of each memory between two steps carries this from step to step.
-/

namespace ResourceWatch

/-- All resources that are remembered have a memory. -/
def Registry.IsRemembered (registry : Registry) : Prop :=
  ∀ pair ∈ registry.slots, pair.2 < registry.memories.length

namespace Processing

open Throttling

abbrev History := List (Time × Happening)

/-- The calls in a history. -/
def callsIn (history : History) : List (Time × Call) :=
  history.filterMap fun (time, happening) =>
    match happening with
    | .called call => some (time, call)
    | _ => none

/-- The jobs for which the handler was called on a slot. -/
def calledOn (slot : Nat) (history : History) : List Job :=
  ((callsIn history).filter fun (_, call) => call.slot = slot).map fun (_, call) => call.job

/-- The jobs that were queued on a slot. -/
def jobsOn (slot : Nat) (jobs : List (Job × Nat)) : List Job :=
  (jobs.filter (·.2 = slot)).map Prod.fst

/-- What the handler does at the call at this place of a history. -/
def behaviourAt (setting : Setting) (history : History) (place : Nat) (call : Call) : Behaviour :=
  setting.handler call.job.uid
    ((callsIn (history.take place)).filter fun (_, other) => other.job.uid = call.job.uid).length

/-- The call at this place takes its time and settles before a limit of places, and the wait that it
leads to is over by a time. -/
def IsOver (setting : Setting) (history : History) (place : Nat) (time : Time) (call : Call)
    (limit : Nat) (bound : Time) : Prop :=
  ∃ settled settledAt duration, place < settled ∧ settled < limit ∧
    history[settled]? = some (settledAt, .settled call.job.number call.slot
      (behaviourAt setting history place call).failure) ∧
    (behaviourAt setting history place call).duration = some duration ∧ time + duration ≤ settledAt ∧
    settledAt + call.memory.throttler.pauseAfter setting.delays
      (behaviourAt setting history place call).failure ≤ bound

/-- Of two calls on a slot the first is for an earlier job and is over before the second begins. -/
def Apart (setting : Setting) (history : History) : Prop :=
  ∀ first second time later call next, first < second →
    history[first]? = some (time, .called call) → history[second]? = some (later, .called next) →
    call.slot = next.slot →
      call.job.number < next.job.number ∧ IsOver setting history first time call second later

/-- All calls on a slot are over, and the waits that they lead to are over by a time. -/
def Quiet (setting : Setting) (history : History) (slot : Nat) (bound : Time) : Prop :=
  ∀ place time call, history[place]? = some (time, .called call) → call.slot = slot →
    IsOver setting history place time call history.length bound

/-- What a memory tells of the calls on its slot. -/
inductive Held (setting : Setting) (history : History) (slot : Nat) (now : Time) (memory : Memory) :
    Prop where
  | quiet (bound : Time) (hbound : memory.quietUntil? now = some bound)
      (hquiet : Quiet setting history slot bound)
  /-- All calls but the one under way are over. -/
  | calling (place : Nat) (time : Time) (call : Call)
      (hrunning : memory.queue.running = some ⟨call.job, .calling
        ((behaviourAt setting history place call).settlesAt? time)
        (behaviourAt setting history place call).failure⟩)
      (hplace : history[place]? = some (time, .called call)) (hslot : call.slot = slot)
      (hthrottler : call.memory.throttler = memory.throttler)
      (hothers : ∀ other otherTime otherCall,
        history[other]? = some (otherTime, .called otherCall) → otherCall.slot = slot →
        other ≠ place → IsOver setting history other otherTime otherCall history.length now)

variable {setting : Setting} {state next : State} {slot : Nat} {now time : Time}
  {memory after : Memory} {added : List Happening} {history more : History} {jobs : List (Job × Nat)}

/-! ### A history that grows -/

theorem behaviourAt_append {place : Nat} (hplace : place ≤ history.length) (more : History)
    (call : Call) :
    behaviourAt setting (history ++ more) place call = behaviourAt setting history place call := by
  rw [behaviourAt, List.take_append_of_le_length hplace, behaviourAt]

theorem IsOver.append {place limit : Nat} {call : Call} {bound : Time}
    (hover : IsOver setting history place time call limit bound) (more : History) :
    IsOver setting (history ++ more) place time call limit bound := by
  obtain ⟨settled, settledAt, duration, hplace, hlimit, hsettled, hduration⟩ := hover
  have hlt : settled < history.length := (List.getElem?_eq_some_iff.mp hsettled).1
  refine ⟨settled, settledAt, duration, hplace, hlimit, ?_, ?_⟩
  · rw [behaviourAt_append (by omega), List.getElem?_append_left hlt, hsettled]
  · rw [behaviourAt_append (by omega)]
    exact hduration

theorem IsOver.mono {place limit limit' : Nat} {call : Call} {bound bound' : Time}
    (hover : IsOver setting history place time call limit bound) (hlimit : limit ≤ limit')
    (hbound : bound ≤ bound') : IsOver setting history place time call limit' bound' := by
  obtain ⟨settled, settledAt, duration, hplace, hlt, hsettled, hduration, hsettles, hpause⟩ := hover
  exact ⟨settled, settledAt, duration, hplace, Nat.lt_of_lt_of_le hlt hlimit, hsettled, hduration,
    hsettles, Int.le_trans hpause hbound⟩

/-- Nothing in a history is a call on a slot. -/
def HasNoCall (slot : Nat) (history : History) : Prop :=
  ∀ time call, (time, Happening.called call) ∈ history → call.slot ≠ slot

theorem of_append_of_hasNoCall (hmore : HasNoCall slot more) {place : Nat} {call : Call}
    (hplace : (history ++ more)[place]? = some (time, .called call)) (hslot : call.slot = slot) :
    history[place]? = some (time, .called call) := by
  rw [List.getElem?_append] at hplace
  split at hplace
  · exact hplace
  · exact absurd hslot (hmore time call (List.mem_of_getElem? hplace))

theorem Quiet.append {bound bound' : Time} (hquiet : Quiet setting history slot bound)
    (hbound : bound ≤ bound') (hmore : HasNoCall slot more) :
    Quiet setting (history ++ more) slot bound' := by
  intro place time call hplace hslot
  have hover := hquiet place time call (of_append_of_hasNoCall hmore hplace hslot) hslot
  exact (hover.append more).mono (by simp) hbound

theorem Apart.append (hapart : Apart setting history) (hmore : ∀ slot, HasNoCall slot more) :
    Apart setting (history ++ more) := by
  intro first second time later call next hlt hfirst hsecond hslot
  obtain ⟨hnumber, hover⟩ := hapart first second time later call next hlt
    (of_append_of_hasNoCall (hmore _) hfirst rfl) (of_append_of_hasNoCall (hmore _) hsecond rfl)
    hslot
  exact ⟨hnumber, hover.append more⟩

theorem Held.append {later : Time} (hheld : Held setting history slot now memory) (hnow : now ≤ later)
    (hmore : HasNoCall slot more) : Held setting (history ++ more) slot later memory := by
  cases hheld with
  | quiet bound hbound hquiet =>
      rw [Memory.quietUntil?] at hbound
      split at hbound
      · simp at hbound
      · rename_i hrunning
        exact .quiet bound (by rw [Memory.quietUntil?, hrunning]; exact hbound)
          (hquiet.append (Int.le_refl _) hmore)
      · rename_i hcalling hcooling
        rw [Option.some.injEq] at hbound
        refine .quiet later ?_ (hquiet.append (hbound ▸ hnow) hmore)
        rw [Memory.quietUntil?]
        split
        · rename_i hrunning
          exact absurd hrunning (hcalling _ _ _)
        · rename_i hrunning
          exact absurd hrunning (hcooling _ _)
        · rfl
  | calling place time call hrunning hplace hslot hthrottler hothers =>
      have hlt : place < history.length := (List.getElem?_eq_some_iff.mp hplace).1
      refine .calling place time call ?_ ?_ hslot hthrottler ?_
      · rw [behaviourAt_append (by omega)]
        exact hrunning
      · rw [List.getElem?_append_left hlt, hplace]
      · intro other otherTime otherCall hother hsame hne
        have hover := hothers other otherTime otherCall (of_append_of_hasNoCall hmore hother hsame)
          hsame hne
        exact (hover.append more).mono (by simp) hnow

/-- While the handler is not called, all calls on the slot are over. -/
theorem Held.quiet_of (hheld : Held setting history slot now memory) {bound : Time}
    (hbound : memory.quietUntil? now = some bound) : Quiet setting history slot bound := by
  cases hheld with
  | quiet found hfound hquiet =>
      rw [hbound, Option.some.injEq] at hfound
      exact hfound ▸ hquiet
  | calling _ _ _ hrunning => simp [Memory.quietUntil?, hrunning] at hbound

/-! ### Jobs on a slot -/

theorem calledOn_append (slot : Nat) (history more : History) :
    calledOn slot (history ++ more) = calledOn slot history ++ calledOn slot more := by
  simp [calledOn, callsIn, List.filterMap_append]

theorem calledOn_called (time : Time) (call : Call) :
    calledOn call.slot [(time, .called call)] = [call.job] := by
  simp [calledOn, callsIn]

theorem mem_calledOn {call : Call} (hmem : (time, Happening.called call) ∈ history) :
    call.job ∈ calledOn call.slot history := by
  refine List.mem_map.mpr ⟨(time, call), List.mem_filter.mpr ⟨?_, by simp⟩, rfl⟩
  exact List.mem_filterMap.mpr ⟨_, hmem, rfl⟩

theorem of_mem_calledOn {job : Job} (hmem : job ∈ calledOn slot history) :
    ∃ time call, (time, Happening.called call) ∈ history ∧ call.job = job ∧ call.slot = slot := by
  obtain ⟨⟨time, call⟩, hfound, rfl⟩ := List.mem_map.mp hmem
  obtain ⟨hcall, hslot⟩ := List.mem_filter.mp hfound
  obtain ⟨⟨at_, happening⟩, hentry, hcalled⟩ := List.mem_filterMap.mp hcall
  rcases happening with found | _ | _
  · simp only [Option.some.injEq, Prod.mk.injEq] at hcalled
    obtain ⟨rfl, rfl⟩ := hcalled
    exact ⟨at_, found, hentry, rfl, by simpa using hslot⟩
  · simp at hcalled
  · simp at hcalled

theorem calledOn_of_hasNoCall (hmore : HasNoCall slot more) : calledOn slot more = [] := by
  apply List.eq_nil_iff_forall_not_mem.mpr
  intro job hjob
  obtain ⟨time, call, hcall, -, hslot⟩ := of_mem_calledOn hjob
  exact hmore time call hcall hslot

theorem mem_jobsOn {job : Job} : job ∈ jobsOn slot jobs ↔ (job, slot) ∈ jobs := by
  simp [jobsOn]

theorem pairwise_jobsOn (hnumbered : jobs.map (·.1.number) = List.range jobs.length) (slot : Nat) :
    (jobsOn slot jobs).Pairwise fun first second => first.number < second.number := by
  have hjobs : jobs.Pairwise fun first second => first.1.number < second.1.number := by
    rw [← List.pairwise_map (R := (· < ·)), hnumbered]
    exact List.pairwise_lt_range
  exact List.pairwise_map.mpr (hjobs.filter _)

/-! ### What is known between two steps -/

namespace State

/-- The memory in a slot, or an empty one. -/
def memoryAt (state : State) (slot : Nat) : Memory :=
  state.registry.memories[slot]?.getD {}

end State

/-- These jobs were queued, on these slots, and the handling has kept to their order so far. -/
structure Tracks (setting : Setting) (jobs : List (Job × Nat)) (state : State) : Prop where
  remembered : state.registry.IsRemembered
  queued : state.queued = jobs.length
  numbered : jobs.map (·.1.number) = List.range jobs.length
  uncalled : ∀ slot, calledOn slot state.trace ++ (state.memoryAt slot).uncalled = jobsOn slot jobs
  held : ∀ slot, Held setting state.trace slot state.now (state.memoryAt slot)
  apart : Apart setting state.trace

theorem Framed.memoryAt_self (hmemory : state.registry.memories[slot]? = some memory)
    (hframed : Framed state slot time after added next) : next.memoryAt slot = after := by
  have hlt : slot < state.registry.memories.length := (List.getElem?_eq_some_iff.mp hmemory).1
  simp [State.memoryAt, hframed.memories, hlt]

theorem Framed.memoryAt_of_ne (hframed : Framed state slot time after added next) {other : Nat}
    (hne : other ≠ slot) : next.memoryAt other = state.memoryAt other := by
  simp [State.memoryAt, hframed.memories, List.getElem?_set_ne (Ne.symm hne)]

theorem hasNoCall_of_over (hadded : ∀ happening ∈ added, ∃ number succeeded,
    happening = .over number slot succeeded) (other : Nat) :
    HasNoCall other (added.map (time, ·)) := by
  intro at_ call hmem
  obtain ⟨happening, hhappening, heq⟩ := List.mem_map.mp hmem
  obtain ⟨number, succeeded, rfl⟩ := hadded happening hhappening
  simp at heq

theorem hasNoCall_of_settled (hadded : ∀ happening ∈ added, ∃ number succeeded,
    happening = .over number slot succeeded) (number : Nat) (failure : Option Thrown)
    (other : Nat) :
    HasNoCall other ((Happening.settled number slot failure :: added).map (time, ·)) := by
  intro at_ call hmem
  rw [List.map_cons, List.mem_cons] at hmem
  rcases hmem with hfirst | hrest
  · simp at hfirst
  · exact hasNoCall_of_over hadded other at_ call hrest

/-- **A step calls the handler for the job whose turn it is, or not at all.** -/
theorem Advance.calledOn_uncalled (hadvance : Advance setting state slot time memory after added)
    (hstopped : Clock.reached state.stop time = false) :
    calledOn slot (added.map (time, ·)) ++ after.uncalled = memory.uncalled := by
  cases hadvance with
  | waits _ bound hquiet hbound hafter huncalled hadded =>
      rw [calledOn_of_hasNoCall (hasNoCall_of_over hadded slot), List.nil_append, huncalled]
  | calls call bound hquiet hbound hslot huncalled =>
      rw [← hslot, List.map_singleton, calledOn_called, huncalled]
      rfl
  | settles job due failure rest hrunning hdue hafter huncalled hadded =>
      rw [calledOn_of_hasNoCall (hasNoCall_of_settled hadded job.number failure slot),
        List.nil_append, huncalled]
  | stopped _ hreached => simp [hstopped] at hreached

theorem Advance.hasNoCall (hadvance : Advance setting state slot time memory after added)
    (hstopped : Clock.reached state.stop time = false) {other : Nat} (hne : other ≠ slot) :
    HasNoCall other (added.map (time, ·)) := by
  cases hadvance with
  | waits _ bound hquiet hbound hafter huncalled hadded => exact hasNoCall_of_over hadded other
  | calls call bound hquiet hbound hslot =>
      intro at_ found hmem
      simp only [List.map_cons, List.map_nil, List.mem_singleton, Prod.mk.injEq,
        Happening.called.injEq] at hmem
      rw [hmem.2, hslot]
      exact Ne.symm hne
  | settles job due failure rest hrunning hdue hafter huncalled hadded =>
      exact hasNoCall_of_settled hadded job.number failure other
  | stopped _ hreached => simp [hstopped] at hreached

/-- A step leaves the jobs on every slot as they are: those with a call and those without one. -/
theorem Fired.jobs_eq (hfired : Fired setting state slot time memory after added next)
    (hmemory : state.registry.memories[slot]? = some memory)
    (hstopped : Clock.reached state.stop time = false) (other : Nat) :
    calledOn other next.trace ++ (next.memoryAt other).uncalled =
      calledOn other state.trace ++ (state.memoryAt other).uncalled := by
  rw [hfired.trace, calledOn_append]
  by_cases hne : other = slot
  · subst hne
    have hself : state.memoryAt other = memory := by simp [State.memoryAt, hmemory]
    rw [hfired.memoryAt_self hmemory, List.append_assoc,
      hfired.advance.calledOn_uncalled hstopped, hself]
  · rw [hfired.memoryAt_of_ne hne, calledOn_of_hasNoCall (hfired.advance.hasNoCall hstopped hne),
      List.append_nil]

/-- **What a memory tells is carried through each of its steps.** -/
theorem Held.advance (hheld : Held setting state.trace slot state.now memory)
    (hadvance : Advance setting state slot time memory after added) (hnow : state.now ≤ time)
    (hstopped : Clock.reached state.stop time = false) :
    Held setting (state.trace ++ added.map (time, ·)) slot time after := by
  cases hadvance with
  | waits _ bound hquiet hbound hafter huncalled hadded =>
      exact .quiet time hafter
        ((hheld.quiet_of hquiet).append hbound (hasNoCall_of_over hadded slot))
  | calls call bound hquiet hbound hslot huncalled hrunning hthrottler =>
      have hbehaviour : behaviourAt setting (state.trace ++ [(time, .called call)])
          state.trace.length call =
            setting.handler call.job.uid (state.callCount call.job.uid) := by
        rw [behaviourAt_append (Nat.le_refl _), behaviourAt, List.take_length]
        rfl
      refine .calling state.trace.length time call ?_ (by simp) hslot hthrottler ?_
      · rw [List.map_singleton, hbehaviour]
        exact hrunning
      · intro other otherTime otherCall hother hsame hne
        have hlt : other < state.trace.length := by
          have hlength := (List.getElem?_eq_some_iff.mp hother).1
          simp only [List.map_singleton, List.length_append, List.length_singleton] at hlength
          omega
        rw [List.getElem?_append_left hlt] at hother
        have hover := hheld.quiet_of hquiet other otherTime otherCall hother hsame
        exact (hover.append _).mono (by simp) hbound
  | settles job due failure rest hrunning hdue hafter huncalled hadded =>
      cases hheld with
      | quiet _ hbound => simp [Memory.quietUntil?, hrunning] at hbound
      | calling place called call hcalling hplace hslot hthrottler hothers =>
          rw [hrunning, Option.some.injEq, Handling.mk.injEq, Stage.calling.injEq] at hcalling
          obtain ⟨rfl, hsettles, rfl⟩ := hcalling
          obtain ⟨duration, hduration, rfl⟩ := Option.map_eq_some_iff.mp hsettles.symm
          have hlt : place < state.trace.length := (List.getElem?_eq_some_iff.mp hplace).1
          have hmore : HasNoCall slot ((.settled call.job.number slot
              (behaviourAt setting state.trace place call).failure :: rest).map (time, ·)) :=
            hasNoCall_of_settled hadded call.job.number _ slot
          refine .quiet _ hafter fun other otherTime otherCall hother hsame => ?_
          have hbefore := of_append_of_hasNoCall hmore hother hsame
          by_cases hne : other = place
          · -- The call that settles now.
            rw [hne, hplace, Option.some.injEq, Prod.mk.injEq, Happening.called.injEq] at hbefore
            obtain ⟨rfl, rfl⟩ := hbefore
            refine ⟨state.trace.length, time, duration, by omega, by simp, ?_⟩
            rw [hne, behaviourAt_append (Nat.le_of_lt hlt), hthrottler, hslot]
            exact ⟨by simp, hduration, hdue, Int.le_refl _⟩
          · have hle : state.now ≤ time + memory.throttler.pauseAfter setting.delays
                (behaviourAt setting state.trace place call).failure := by
              simp only [Time] at *
              omega
            have hover := hothers other otherTime otherCall hbefore hsame hne
            exact (hover.append _).mono (by simp) hle
  | stopped _ hreached => simp [hstopped] at hreached

/-- **Calls stay apart.** A step that has a call has it for the next job, and behind all others. -/
theorem Apart.advance (hapart : Apart setting state.trace)
    (hheld : Held setting state.trace slot state.now memory)
    (hadvance : Advance setting state slot time memory after added)
    (hstopped : Clock.reached state.stop time = false)
    (hordered : (calledOn slot state.trace ++ memory.uncalled).Pairwise fun first second =>
      first.number < second.number) :
    Apart setting (state.trace ++ added.map (time, ·)) := by
  cases hadvance with
  | waits _ bound hquiet hbound hafter huncalled hadded =>
      exact hapart.append (hasNoCall_of_over hadded)
  | calls call bound hquiet hbound hslot huncalled =>
      intro first second earlier later before next hlt hfirst hsecond hsame
      rw [List.map_singleton] at hfirst hsecond ⊢
      have hlength := (List.getElem?_eq_some_iff.mp hsecond).1
      rw [List.length_append, List.length_singleton] at hlength
      rw [List.getElem?_append_left (by omega)] at hfirst
      by_cases hlast : second = state.trace.length
      · subst hlast
        rw [List.getElem?_concat_length, Option.some.injEq, Prod.mk.injEq,
          Happening.called.injEq] at hsecond
        obtain ⟨rfl, rfl⟩ := hsecond
        have hon : before.slot = slot := hsame.trans hslot
        refine ⟨?_, ?_⟩
        · rw [huncalled, List.pairwise_append] at hordered
          have hmem := mem_calledOn (List.mem_of_getElem? hfirst)
          exact hordered.2.2 _ (hon ▸ hmem) _ List.mem_cons_self
        · exact ((hheld.quiet_of hquiet first earlier before hfirst hon).append _).mono
            (Nat.le_refl _) hbound
      · rw [List.getElem?_append_left (by omega)] at hsecond
        obtain ⟨hnumber, hover⟩ := hapart first second earlier later before next hlt hfirst hsecond
          hsame
        exact ⟨hnumber, hover.append _⟩
  | settles job due failure rest hrunning hdue hafter huncalled hadded =>
      exact hapart.append (hasNoCall_of_settled hadded job.number failure)
  | stopped _ hreached => simp [hstopped] at hreached

/-- **Each step keeps to the order**, unless the stop signal comes. -/
theorem Tracks.fired (htracks : Tracks setting jobs state)
    (hmemory : state.registry.memories[slot]? = some memory) (hnow : state.now ≤ time)
    (hfired : Fired setting state slot time memory after added next)
    (hnext : next.isStopped = false) : Tracks setting jobs next := by
  obtain ⟨-, hstopped⟩ := hfired.stop_eq hnext
  have hself : state.memoryAt slot = memory := by simp [State.memoryAt, hmemory]
  have hheld : Held setting state.trace slot state.now memory := hself ▸ htracks.held slot
  have hslot := htracks.uncalled slot
  rw [hself] at hslot
  refine ⟨?_, hfired.queued.trans htracks.queued, htracks.numbered, fun other =>
    (hfired.jobs_eq hmemory hstopped other).trans (htracks.uncalled other), fun other => ?_, ?_⟩
  · rw [Registry.IsRemembered, hfired.slots, hfired.memories, List.length_set]
    exact htracks.remembered
  · rw [hfired.trace, hfired.now]
    by_cases hne : other = slot
    · subst hne
      rw [hfired.memoryAt_self hmemory]
      exact hheld.advance hfired.advance hnow hstopped
    · rw [hfired.memoryAt_of_ne hne]
      exact (htracks.held other).append hnow (hfired.advance.hasNoCall hstopped hne)
  · rw [hfired.trace]
    refine htracks.apart.advance hheld hfired.advance hstopped ?_
    rw [hslot]
    exact pairwise_jobsOn htracks.numbered slot

end Processing

end ResourceWatch
