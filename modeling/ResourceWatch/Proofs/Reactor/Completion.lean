import ResourceWatch.Outcome
import ResourceWatch.Proofs.Reactor.Turns

/-!
# How a run is over

A run is over when its source is left and each job that it queued is done with. It fails for what
its source fails with, for an event without an identity and for a template that cannot be copied,
and for nothing that the handler does. A call that fails holds up what comes behind it on its slot;
only the stop signal makes of this that it is never handled.
-/

namespace ResourceWatch.Processing

open Throttling

/-- When and how a run is over. -/
def Run.outcome (run : Run) : Outcome Unit :=
  if run.state.isIdle then
    some (run.state.now,
      match run.failure with
      | some failure => .failed failure
      | none => .value ())
  else none

/-- What is given next fails, as it is given or as it is dispatched. -/
inductive FailsWith (setting : Setting) (state : State) : Delivery → Failure → Prop where
  | source (delay : Nat) (error : Thrown) :
      FailsWith setting state (.failure delay error) (.external error)
  | unidentified (delay : Nat) (event : Event)
      (hstopped : (state.wait setting (state.now + delay)).isStopped = false)
      (hevent : event.type ≠ some .bookmark) (huid : event.object.uid? = none) :
      FailsWith setting state (.event delay event) .missingIdentity
  | uncopied (delay : Nat) (event : Event) (uid : Text) (template : Template) (failure : Failure)
      (hstopped : (state.wait setting (state.now + delay)).isStopped = false)
      (hevent : event.type ≠ some .bookmark) (huid : event.object.uid? = some uid)
      (hunknown : state.registry.slots.lookup uid = none)
      (htemplate : setting.template = some template)
      (hcopy : template.duplicate setting.cells = .error failure) :
      FailsWith setting state (.event delay event) failure

/-- What the end of a run comes to. -/
structure Completes (setting : Setting) (start : State) (deliveries : List Delivery) (run : Run) :
    Prop where
  /-- It is over only when all jobs that were queued are done with. -/
  settles (time : Time) (ended : Ended Unit) (hover : run.outcome = some (time, ended)) (job : Job)
    (slot : Nat) (hjob : (job, slot) ∈ start.jobs setting deliveries) :
    ∃ settledAt succeeded, settledAt ≤ time ∧
      (settledAt, .over job.number slot succeeded) ∈ run.state.trace
  /-- It is never over only if some call never settles. -/
  hangs (hover : run.outcome = none) :
    ∃ place time call, run.state.trace[place]? = some (time, .called call) ∧
      (behaviourAt setting run.state.trace place call).duration = none
  /-- It fails with what something that its source gives fails with, and with nothing else. -/
  fails (time : Time) (ended : Ended Unit) (hover : run.outcome = some (time, ended))
    (failure : Failure) :
    ended = .failed failure ↔ ∃ taken state delivery rest,
      Stands setting start deliveries taken state (delivery :: rest) ∧
        FailsWith setting state delivery failure
  /-- Nothing is dispatched behind a failure. -/
  closes (taken : List Event) (state : State) (delivery : Delivery) (rest : List Delivery)
    (failure : Failure) (hstands : Stands setting start deliveries taken state (delivery :: rest))
    (hfails : FailsWith setting state delivery failure) :
    start.accepted setting deliveries = taken ∧
      run.state.registry.SameSlots state.registry ∧ run.state.queued = state.queued
  /-- The handler is called for the jobs of a slot in their order, whatever calls fail. Some are
  left only behind a call that never settles, or if the stop signal cuts short the wait for
  throttling in front of the first of them. -/
  handles (slot : Nat) :
    ∃ rest, jobsOn slot (start.jobs setting deliveries) = calledOn slot run.state.trace ++ rest ∧
      (rest = [] ∨
        (∃ place time call, run.state.trace[place]? = some (time, .called call) ∧
          call.slot = slot ∧ (behaviourAt setting run.state.trace place call).duration = none ∧
          (calledOn slot run.state.trace).getLast? = some call.job) ∨
        ∃ state job due, ComesBy setting start deliveries state ∧ state.IsWaiting slot job due ∧
          Clock.reached state.stop due = true ∧ rest.head? = some job ∧
          calledOn slot run.state.trace = calledOn slot state.trace)

variable {setting : Setting} {start state next : State} {deliveries rest left : List Delivery}
  {taken : List Event} {event : Event} {delivery : Delivery} {delay : Nat} {time : Time}
  {failure : Failure} {registry : Registry}

/-! ### What fails -/

theorem dispatch_eq_some_iff :
    (state.dispatch setting event).2 = some failure ↔ event.type ≠ some .bookmark ∧
      (event.object.uid? = none ∧ failure = .missingIdentity ∨
        ∃ uid template, event.object.uid? = some uid ∧ state.registry.slots.lookup uid = none ∧
          setting.template = some template ∧
          template.duplicate setting.cells = .error failure) := by
  by_cases hevent : event.type = some .bookmark
  · simp [State.dispatch, hevent]
  · rw [State.dispatch, if_neg hevent]
    simp only [Registry.recalled, Object.identity, ne_eq, hevent, not_false_eq_true, true_and]
    cases huid : event.object.uid? with
    | none =>
        simp only [reduceCtorEq, false_and, exists_const, exists_false, or_false, true_and,
          Option.some.injEq]
        exact eq_comm
    | some uid =>
        simp only [Registry.recalledUid, reduceCtorEq, false_and, Option.some.injEq, false_or,
          exists_and_left, exists_eq_left']
        cases hlookup : state.registry.slots.lookup uid with
        | some slot => simp
        | none =>
            cases htemplate : setting.template with
            | none => simp [Registry.keep]
            | some template =>
                cases hcopy : template.duplicate setting.cells with
                | ok memo => simp [hcopy, Registry.keep]
                | error found => simp [hcopy]

theorem lookup_wait (setting : Setting) (state : State) (time : Time) (uid : Text) :
    (state.wait setting time).registry.slots.lookup uid = state.registry.slots.lookup uid := by
  rw [(sameSlots_wait setting state time).slots]

theorem failsWith_event_iff :
    FailsWith setting state (.event delay event) failure ↔
      (state.wait setting (state.now + delay)).isStopped = false ∧
        ((state.wait setting (state.now + delay)).dispatch setting event).2 = some failure := by
  rw [dispatch_eq_some_iff]
  simp only [lookup_wait]
  constructor
  · rintro (_ | ⟨_, _, hstopped, hevent, huid⟩ | ⟨_, _, uid, template, _, hstopped, hevent, hcopy⟩)
    · exact ⟨hstopped, hevent, .inl ⟨huid, rfl⟩⟩
    · exact ⟨hstopped, hevent, .inr ⟨uid, template, hcopy, ‹_›, ‹_›, ‹_›⟩⟩
  · rintro ⟨hstopped, hevent, ⟨huid, rfl⟩ | ⟨uid, template, huid, hunknown, htemplate, hcopy⟩⟩
    · exact .unidentified delay event hstopped hevent huid
    · exact .uncopied delay event uid template failure hstopped hevent huid hunknown htemplate hcopy

/-- Where something fails is the end of the events. -/
theorem FailsWith.receive_eq (hfails : FailsWith setting state delivery failure) (delivered : Nat)
    (rest : List Delivery) :
    (state.receive setting delivered (delivery :: rest)).failure = some failure ∧
      state.accepted setting (delivery :: rest) = [] ∧
      (state.receive setting delivered (delivery :: rest)).state.registry.SameSlots
        state.registry ∧
      (state.receive setting delivered (delivery :: rest)).state.queued = state.queued := by
  have hwait (state : State) (time : Time) :
      (state.wait setting time).registry.SameSlots state.registry ∧
        (state.wait setting time).queued = state.queued :=
    ⟨sameSlots_wait setting state time, queued_advanceBy setting (some time) _ _⟩
  cases delivery with
  | failure delay error =>
      cases hfails
      exact ⟨rfl, rfl, hwait _ _⟩
  | event delay event =>
      obtain ⟨hstopped, hdispatch⟩ := failsWith_event_iff.mp hfails
      have htake := take_eq hstopped event
      rw [hdispatch] at htake
      rw [State.receive, State.accepted, htake]
      refine ⟨rfl, rfl, ?_⟩
      obtain ⟨hsame, hqueued⟩ := hwait state (state.now + delay)
      generalize state.wait setting (state.now + delay) = waited at *
      obtain ⟨hsame', hqueued'⟩ := hwait (waited.dispatch setting event).1 (state.now + delay)
      have hdispatched := dispatched_dispatch setting waited event
      generalize waited.dispatch setting event = result at *
      cases hdispatched with
      | bookmark | queued => simp at hdispatch
      | failed found duplications => exact ⟨hsame'.trans hsame, hqueued'.trans hqueued⟩

/-- If a run fails, something that is given next does. -/
theorem Stands.exists_failsWith (hstands : Stands setting start deliveries taken state left)
    (hfailure : (state.receive setting taken.length left).failure = some failure) :
    ∃ taken' state' delivery rest,
      Stands setting start deliveries taken' state' (delivery :: rest) ∧
        FailsWith setting state' delivery failure := by
  -- What is taken does not fail, so the failure is that of the first delivery that is not.
  induction left generalizing taken state with
  | nil => simp [State.receive] at hfailure
  | cons delivery rest ih =>
      cases delivery with
      | failure delay error =>
          obtain rfl : Failure.external error = failure := Option.some.inj hfailure
          exact ⟨taken, state, _, rest, hstands, .source delay error⟩
      | event delay event =>
          rcases take_cases setting state (state.now + delay) event with
            ⟨-, htake⟩ | ⟨hstopped, ⟨-, htake⟩ | ⟨found, hdispatch, htake⟩⟩
          · simp [State.receive, htake] at hfailure
          · rw [State.receive, htake] at hfailure
            have hnext := hstands.takes htake
            refine ih hnext ?_
            rwa [List.length_append, List.length_singleton]
          · rw [State.receive, htake] at hfailure
            obtain rfl : found = failure := Option.some.inj hfailure
            exact ⟨taken, state, _, rest, hstands, failsWith_event_iff.mpr ⟨hstopped, hdispatch⟩⟩

theorem failure_eq_some_iff :
    (start.receive setting 0 deliveries).failure = some failure ↔
      ∃ taken state delivery rest, Stands setting start deliveries taken state (delivery :: rest) ∧
        FailsWith setting state delivery failure := by
  constructor
  · exact fun hfailure => Stands.starts.exists_failsWith hfailure
  · rintro ⟨taken, state, delivery, rest, hstands, hfails⟩
    rw [hstands.receive_eq]
    exact (hfails.receive_eq taken.length rest).1

/-! ### The end of a run -/

theorem outcome_eq_some_iff {run : Run} {ended : Ended Unit} :
    run.outcome = some (time, ended) ↔ run.state.isIdle = true ∧ run.state.now = time ∧
      ended = match run.failure with
        | some failure => .failed failure
        | none => .value () := by
  rw [Run.outcome]
  split
  · rename_i hidle
    simp [hidle, eq_comm]
  · rename_i hidle
    simp [hidle]

theorem Books.exists_over {jobs : List (Job × Nat)} (hbooks : Books setting jobs state)
    (hidle : state.isIdle = true) {job : Job} {slot : Nat} (hjob : (job, slot) ∈ jobs) :
    ∃ settledAt succeeded, settledAt ≤ state.now ∧
      (settledAt, .over job.number slot succeeded) ∈ state.trace := by
  have hmem : job.number ∈ oversOn slot state.trace := by
    rw [hbooks.oversOn_eq (isIdle_iff.mp hidle slot)]
    exact List.mem_map_of_mem (mem_jobsOn.mpr hjob)
  obtain ⟨settledAt, succeeded, hover⟩ := of_mem_oversOn hmem
  exact ⟨settledAt, succeeded, hbooks.past _ hover, hover⟩

theorem Books.exists_hangs {jobs : List (Job × Nat)} (hbooks : Books setting jobs state)
    (hlast : state.next? none = none) (hidle : state.isIdle ≠ true) :
    ∃ place time call, state.trace[place]? = some (time, .called call) ∧
      (behaviourAt setting state.trace place call).duration = none := by
  rw [Ne, isIdle_iff, Classical.not_forall] at hidle
  obtain ⟨slot, hslot⟩ := hidle
  obtain ⟨place, time, call, -, hplace, -, hnever, -⟩ :=
    (hbooks.isIdle_or_hangs hlast slot).resolve_left hslot
  exact ⟨place, time, call, hplace, hnever⟩

theorem handles_ending (hbooks : Books setting [] start) (slot : Nat) :
    ∃ rest, jobsOn slot (start.jobs setting deliveries) =
        calledOn slot (start.ending setting deliveries).trace ++ rest ∧
      (rest = [] ∨
        (∃ place time call,
          (start.ending setting deliveries).trace[place]? = some (time, .called call) ∧
          call.slot = slot ∧
          (behaviourAt setting (start.ending setting deliveries).trace place call).duration = none ∧
          (calledOn slot (start.ending setting deliveries).trace).getLast? = some call.job) ∨
        ∃ state job due, ComesBy setting start deliveries state ∧ state.IsWaiting slot job due ∧
          Clock.reached state.stop due = true ∧ rest.head? = some job ∧
          calledOn slot (start.ending setting deliveries).trace = calledOn slot state.trace) := by
  have hrun := passage_run setting deliveries hbooks.isRemembered
  have hkept := hrun.books hbooks
  have haccounts := hrun.accounts hbooks (hbooks.accounts_nil slot)
  rw [List.nil_append] at hkept haccounts
  cases haccounts with
  | whole hjobs =>
      refine ⟨_, hjobs, ?_⟩
      rcases hkept.isIdle_or_hangs (next?_ending setting start deliveries) slot with
        hidle | ⟨place, time, call, failure, hplace, hslot, hnever, hrunning⟩
      · exact .inl (eq_nil_of_isIdle hidle).1
      · exact .inr (.inl ⟨place, time, call, hplace, hslot, hnever,
          hkept.getLast?_calledOn hjobs hrunning⟩)
  | cut found job due rest hcomes hwaiting hreached hcalled hjobs =>
      exact ⟨job :: rest, hjobs, .inr (.inr ⟨found, job, due, hcomes, hwaiting, hreached, rfl,
        hcalled⟩)⟩

theorem FailsWith.closes (hfails : FailsWith setting state delivery failure)
    (hstands : Stands setting start deliveries taken state (delivery :: rest)) :
    start.accepted setting deliveries = taken ∧
      (start.ending setting deliveries).registry.SameSlots state.registry ∧
      (start.ending setting deliveries).queued = state.queued := by
  obtain ⟨-, haccepted, hsame, hqueued⟩ := hfails.receive_eq taken.length rest
  obtain ⟨hsame', hqueued'⟩ := sameSlots_ending setting start deliveries
  rw [State.received, hstands.receive_eq] at hsame' hqueued'
  refine ⟨?_, hsame'.trans hsame, hqueued'.trans hqueued⟩
  rw [hstands.accepted_eq, haccepted, List.append_nil]

/-- **How a run is over.** It waits for all of its jobs, and fails for what its source gives only.
No call that fails keeps what comes later from being handled, unless the stop signal comes while its
slot is throttled. -/
theorem run_completes (setting : Setting) (hidle : registry.IsIdle) (now : Time)
    (stop : Option Time) (deliveries : List Delivery) :
    Completes setting { now, stop, registry } deliveries
      (run setting { now, stop, registry } deliveries) := by
  have hbooks := books_of_isIdle setting hidle now stop
  generalize ({ now, stop, registry } : State) = start at *
  have hkept := (passage_run setting deliveries hbooks.isRemembered).books hbooks
  rw [List.nil_append] at hkept
  have hlast := next?_ending setting start deliveries
  obtain ⟨log, hstate, hfailure⟩ := exists_finish setting (start.receive setting 0 deliveries)
  change (run setting start deliveries).state =
    { start.ending setting deliveries with log } at hstate
  change (run setting start deliveries).failure = _ at hfailure
  exact {
    settles := fun time ended hover job slot hjob => by
      obtain ⟨hidle, hnow, -⟩ := outcome_eq_some_iff.mp hover
      rw [hstate] at hidle hnow ⊢
      rw [← hnow]
      exact hkept.exists_over hidle hjob
    hangs := fun hover => by
      have hidle : (run setting start deliveries).state.isIdle ≠ true := by
        intro hidle
        simp [Run.outcome, hidle] at hover
      rw [hstate] at hidle ⊢
      exact hkept.exists_hangs hlast hidle
    fails := fun time ended hover failure => by
      obtain ⟨-, -, rfl⟩ := outcome_eq_some_iff.mp hover
      rw [hfailure, ← failure_eq_some_iff]
      cases (start.receive setting 0 deliveries).failure <;> simp
    closes := fun taken state delivery rest failure hstands hfails => by
      rw [hstate]
      exact hfails.closes hstands
    handles := fun slot => by
      rw [hstate]
      exact handles_ending hbooks slot }

/-- A resource that is modified twice, then an event of none, and one more that is never taken. -/
def anonymous : List Delivery :=
  [.event 1 ⟨some .modified, identified "a"⟩, .event 1 ⟨some .modified, identified "a"⟩,
    .event 1 ⟨some .modified, []⟩, .event 1 ⟨some .modified, identified "b"⟩]

theorem run_completes_anonymous :
    Registry.IsIdle {} ∧ Completes clumsy { now := 0, stop := none } anonymous
      (run clumsy { now := 0, stop := none } anonymous) :=
  ⟨Registry.isIdle_empty, run_completes clumsy Registry.isIdle_empty 0 none anonymous⟩

/-- The same calls, none of which fails. -/
def steady : Setting :=
  { clumsy with handler := fun uid number => { clumsy.handler uid number with failure := none } }

/-- A resource that is modified twice. -/
def modifiedTwice : List Delivery :=
  [.event 1 ⟨some .modified, identified "a"⟩, .event 1 ⟨some .modified, identified "a"⟩]

/-- **A call that fails can keep the next event from being handled.** The stop signal comes while
the handler is called for the first of two events. Both are handled if this call succeeds, and only
the first is if it fails. -/
theorem unhandled_of_failure :
    (run clumsy { now := 0, stop := some 4 } modifiedTwice).outcome.time? = some 6 ∧
      (jobsOn 0 (State.jobs clumsy { now := 0, stop := some 4 } modifiedTwice)).map Job.number =
        [0, 1] ∧
      (calledOn 0 (run clumsy { now := 0, stop := some 4 } modifiedTwice).state.trace).map
        Job.number = [0] ∧
      (calledOn 0 (run steady { now := 0, stop := some 4 } modifiedTwice).state.trace).map
        Job.number = [0, 1] := by
  refine ⟨?_, ?_, ?_, ?_⟩ <;> decide +kernel

end ResourceWatch.Processing
