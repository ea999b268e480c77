import ResourceWatch.Proofs.Reactor.Moves

/-!
# The states that a run comes by

A run stands between two events of its source, waits for the next one, queues it and waits for what
follows at once; at its end it waits for the handler. From its start to each state that it comes by,
and from there to its end, it gets by moves through such states, and the jobs that these queue are
those of the events that were taken.
-/

namespace ResourceWatch

theorem Registry.sameSlots_update (registry : Registry) (slot : Nat) (change : Memory → Memory) :
    registry.SameSlots (registry.update slot change) :=
  ⟨rfl, by simp [update]⟩

namespace Processing

/-- The events that are taken: those up to the end of the source, up to the stop signal, or up to
one that fails. -/
def State.accepted (setting : Setting) (state : State) : List Delivery → List Event
  | .event delay event :: rest =>
    match state.take setting (state.now + delay) event with
    | (next, .goesOn) => event :: next.accepted setting rest
    | _ => []
  | _ => []

def Delivery.delay : Delivery → Nat
  | .event delay _ | .failure delay _ => delay

/-- Where a run stands behind some events that it took, and what is left of its source. -/
inductive Stands (setting : Setting) (start : State) (deliveries : List Delivery) :
    List Event → State → List Delivery → Prop where
  | starts : Stands setting start deliveries [] start deliveries
  | takes {taken : List Event} {state next : State} {delay : Nat} {event : Event}
      {rest : List Delivery}
      (hstands : Stands setting start deliveries taken state (.event delay event :: rest))
      (htake : state.take setting (state.now + delay) event = (next, .goesOn)) :
      Stands setting start deliveries (taken ++ [event]) next rest

/-- The state in which no more events are taken. -/
def State.received (setting : Setting) (start : State) (deliveries : List Delivery) : State :=
  (start.receive setting 0 deliveries).state

/-- A run comes by a state: as it waits for what its source gives next, behind the queueing of an
event, or as it waits for the handler at its end. -/
inductive ComesBy (setting : Setting) (start : State) (deliveries : List Delivery) :
    State → Prop where
  | waits {taken : List Event} {state : State} {delivery : Delivery} {rest : List Delivery}
      (hstands : Stands setting start deliveries taken state (delivery :: rest)) (steps : Nat) :
      ComesBy setting start deliveries
        (State.advanceBy setting (some (state.now + delivery.delay)) steps state)
  | waited {taken : List Event} {state : State} {delivery : Delivery} {rest : List Delivery}
      (hstands : Stands setting start deliveries taken state (delivery :: rest)) :
      ComesBy setting start deliveries (state.wait setting (state.now + delivery.delay))
  | takes {taken : List Event} {state : State} {delay : Nat} {event : Event} {rest : List Delivery}
      (hstands : Stands setting start deliveries taken state (.event delay event :: rest))
      (hstopped : (state.wait setting (state.now + delay)).isStopped = false) (steps : Nat) :
      ComesBy setting start deliveries
        (State.advanceBy setting (some (state.now + delay)) steps
          ((state.wait setting (state.now + delay)).dispatch setting event).1)
  | closes (steps : Nat) :
      ComesBy setting start deliveries
        (State.advanceBy setting none steps (start.received setting deliveries))

/-- The jobs of the events that are taken. -/
def State.jobs (setting : Setting) (state : State) (deliveries : List Delivery) :
    List (Job × Nat) :=
  jobsOf setting state.registry state.queued (state.accepted setting deliveries)

/-- The state at the end of a run. -/
def State.ending (setting : Setting) (start : State) (deliveries : List Delivery) : State :=
  (start.received setting deliveries).finish setting

variable {setting : Setting} {start state next : State} {deliveries rest left : List Delivery}
  {taken : List Event} {event : Event} {delivery : Delivery} {delay : Nat} {limit : Option Time}
  {time : Time} {slot : Nat} {on : State → Prop}

/-! ### Steps up to a limit -/

theorem next?_advanceBy_eq_none {steps : Nat} (hsteps : state.work ≤ steps) :
    (State.advanceBy setting limit steps state).next? limit = none := by
  -- Each step leaves less work, so that none is left when the steps run out.
  induction steps generalizing state with
  | zero =>
      cases hnext : state.next? limit with
      | none => exact hnext
      | some found =>
          have hlt := goOn_work_lt setting hnext
          omega
  | succ steps ih =>
      cases hnext : state.next? limit with
      | none => rw [advanceBy_of_next?_eq_none hnext, hnext]
      | some found =>
          have hlt := goOn_work_lt setting hnext
          rw [advanceBy_succ hnext]
          exact ih (by omega)

theorem advanceBy_add (setting : Setting) (limit : Option Time) (steps more : Nat) (state : State) :
    State.advanceBy setting limit (steps + more) state =
      State.advanceBy setting limit more (State.advanceBy setting limit steps state) := by
  induction steps generalizing state with
  | zero => rw [Nat.zero_add, State.advanceBy]
  | succ steps ih =>
      cases hnext : state.next? limit with
      | none => simp only [advanceBy_of_next?_eq_none hnext]
      | some found => rw [Nat.add_right_comm, advanceBy_succ hnext, advanceBy_succ hnext, ih]

theorem advanceBy_of_work_le {steps : Nat} (hsteps : state.work ≤ steps) :
    State.advanceBy setting limit steps state = State.advanceBy setting limit state.work state := by
  obtain ⟨more, rfl⟩ := Nat.exists_eq_add_of_le hsteps
  rw [advanceBy_add, advanceBy_of_next?_eq_none (next?_advanceBy_eq_none (Nat.le_refl _))]

theorem next?_of_limit {found : Time × Nat} (hnext : state.next? limit = some found) :
    state.next? none = some found := by
  rw [State.next?, Option.filter_eq_some_iff] at hnext
  simp [State.next?, hnext.1]

theorem passage_advanceBy (hon : ∀ steps, on (State.advanceBy setting limit steps state))
    (steps : Nat) : Passage setting on state [] (State.advanceBy setting limit steps state) := by
  induction steps generalizing state with
  | zero => exact .rests state
  | succ steps ih =>
      cases hnext : state.next? limit with
      | none =>
          rw [advanceBy_of_next?_eq_none hnext]
          exact .rests state
      | some found =>
          rw [advanceBy_succ hnext]
          have hmove : Moves setting state [] (state.goOn setting found.2 found.1) :=
            .goesOn _ _ (next?_of_limit hnext)
          refine (Passage.single (hon 0) hmove).trans (ih fun more => ?_)
          rw [← advanceBy_succ hnext]
          exact hon (more + 1)

/-- Some of the steps are followed by the rest of them. -/
theorem passage_advanceBy_rest (hon : ∀ steps, on (State.advanceBy setting limit steps state))
    (steps : Nat) :
    Passage setting on (State.advanceBy setting limit steps state) []
      (State.advanceBy setting limit state.work state) := by
  rw [← advanceBy_of_work_le (Nat.le_add_left state.work steps), advanceBy_add]
  refine passage_advanceBy (fun more => ?_) state.work
  rw [← advanceBy_add]
  exact hon (steps + more)

theorem lt_of_next?_eq_none (hnext : state.next? (some time) = none) {due : Time}
    (hdue : state.dueAt? slot = some due) : time < due := by
  apply Int.not_le.mp
  intro hle
  have hlimit : (some time).any (fun limit => limit < due) = false := by simpa using hle
  obtain ⟨due', slot', hfound⟩ := exists_next? hdue hlimit
  rw [hnext] at hfound
  simp at hfound

theorem moves_wait (hnow : state.now ≤ time) :
    Moves setting (State.advanceBy setting (some time) state.work state) []
      (state.wait setting time) :=
  .waits time (now_advanceBy setting hnow state.work) fun _ _ =>
    lt_of_next?_eq_none (next?_advanceBy_eq_none (Nat.le_refl _))

theorem passage_wait_rest (hon : ∀ steps, on (State.advanceBy setting (some time) steps state))
    (hnow : state.now ≤ time) (steps : Nat) :
    Passage setting on (State.advanceBy setting (some time) steps state) []
      (state.wait setting time) :=
  (passage_advanceBy_rest hon steps).trans (.single (hon state.work) (moves_wait hnow))

theorem jobsOf_wait (setting : Setting) (state : State) (time : Time) (events : List Event) :
    jobsOf setting (state.wait setting time).registry (state.wait setting time).queued events =
      jobsOf setting state.registry state.queued events := by
  have hqueued : (state.wait setting time).queued = state.queued :=
    queued_advanceBy setting (some time) state.work state
  rw [hqueued]
  exact jobsOf_congr (sameSlots_wait setting state time) _ _

/-- The job of an event that is queued is the first of those for it and all that comes later. -/
theorem passage_dispatch (hon : on state) (hstopped : state.isStopped = false)
    (hremembered : state.registry.IsRemembered) (event : Event) :
    ∃ jobs, Passage setting on state jobs (state.dispatch setting event).1 ∧
      ((state.dispatch setting event).2 = none → ∀ rest,
        jobsOf setting state.registry state.queued (event :: rest) =
          jobs ++ jobsOf setting (state.dispatch setting event).1.registry
            (state.dispatch setting event).1.queued rest) ∧
      ((state.dispatch setting event).2 ≠ none → jobs = []) := by
  have hdispatched := dispatched_dispatch setting state event
  generalize state.dispatch setting event = result at hdispatched
  cases hdispatched with
  | bookmark hbookmark hjobs =>
      exact ⟨[], .rests state, fun _ rest => hjobs _ rest, fun _ => rfl⟩
  | failed failure duplications hjobs =>
      exact ⟨[], .single hon (.counts duplications), fun hnone => by simp at hnone, fun _ => rfl⟩
  | queued uid slot registry duplications hevent hkeeps hjobs =>
      refine ⟨_, .single hon (.queues uid event slot registry duplications hstopped
        (hkeeps hremembered)), fun _ rest => ?_, fun hsome => absurd rfl hsome⟩
      rw [hjobs]
      exact congrArg (List.cons _) (jobsOf_congr (Registry.sameSlots_update registry slot _) _ rest)

/-! ### Between two events -/

theorem Stands.receive_eq (hstands : Stands setting start deliveries taken state left) :
    start.receive setting 0 deliveries = state.receive setting taken.length left := by
  induction hstands with
  | starts => rfl
  | takes _ htake ih =>
      rw [ih, State.receive, htake, List.length_append, List.length_singleton]

theorem Stands.accepted_eq (hstands : Stands setting start deliveries taken state left) :
    start.accepted setting deliveries = taken ++ state.accepted setting left := by
  induction hstands with
  | starts => rfl
  | takes _ htake ih =>
      rw [ih, State.accepted, htake, List.append_assoc]
      rfl

theorem now_wait (setting : Setting) (state : State) (time : Time) :
    (state.wait setting time).now = time := rfl

/-- What there is to tell of an event: it comes behind the stop signal, or it is dispatched and
then fails or not. -/
theorem take_cases (setting : Setting) (state : State) (time : Time) (event : Event) :
    (state.wait setting time).isStopped = true ∧
        state.take setting time event = (state.wait setting time, .leaves) ∨
      (state.wait setting time).isStopped = false ∧
        ((((state.wait setting time).dispatch setting event).2 = none ∧
            state.take setting time event =
              (((state.wait setting time).dispatch setting event).1.wait setting time, .goesOn)) ∨
          ∃ failure, ((state.wait setting time).dispatch setting event).2 = some failure ∧
            state.take setting time event =
              (((state.wait setting time).dispatch setting event).1.wait setting time,
                .fails failure)) := by
  cases hstopped : (state.wait setting time).isStopped with
  | true => exact .inl ⟨rfl, by rw [State.take, if_pos hstopped]⟩
  | false =>
      refine .inr ⟨rfl, ?_⟩
      rw [take_eq hstopped]
      cases hdispatch : ((state.wait setting time).dispatch setting event).2 with
      | none => exact .inl ⟨rfl, rfl⟩
      | some failure => exact .inr ⟨failure, rfl, rfl⟩

/-- The state of a run as it waits for what its source gives next, behind some steps. -/
theorem Stands.passage_to_waited
    (hstands : Stands setting start deliveries taken state (delivery :: rest)) (steps : Nat) :
    Passage setting (ComesBy setting start deliveries)
      (State.advanceBy setting (some (state.now + delivery.delay)) steps state) []
      (state.wait setting (state.now + delivery.delay)) :=
  passage_wait_rest (.waits hstands) (now_le_delayed state delivery.delay) steps

theorem Stands.passage_to_taken
    (hstands : Stands setting start deliveries taken state (.event delay event :: rest))
    (hstopped : (state.wait setting (state.now + delay)).isStopped = false) (steps : Nat) :
    Passage setting (ComesBy setting start deliveries)
      (State.advanceBy setting (some (state.now + delay)) steps
        ((state.wait setting (state.now + delay)).dispatch setting event).1) []
      (((state.wait setting (state.now + delay)).dispatch setting event).1.wait setting
        (state.now + delay)) := by
  refine passage_wait_rest (.takes hstands hstopped) ?_ steps
  exact Int.le_of_eq (by rw [now_dispatch, now_wait])

theorem passage_to_ending (setting : Setting) (start : State) (deliveries : List Delivery)
    (steps : Nat) :
    Passage setting (ComesBy setting start deliveries)
      (State.advanceBy setting none steps (start.received setting deliveries)) []
      (start.ending setting deliveries) :=
  passage_advanceBy_rest .closes steps

theorem isRemembered_wait (setting : Setting) (hremembered : state.registry.IsRemembered)
    (time : Time) :
    (state.wait setting time).registry.IsRemembered := by
  have hsame := sameSlots_wait setting state time
  rw [Registry.IsRemembered, hsame.slots, hsame.length]
  exact hremembered

theorem Stands.comesBy_waited
    (hstands : Stands setting start deliveries taken state (.event delay event :: rest)) :
    ComesBy setting start deliveries (state.wait setting (state.now + delay)) :=
  .waited hstands

/-- From where an event is dispatched a run gets on if it does so from where it stands next. -/
theorem Stands.passage_of_dispatched
    (hstands : Stands setting start deliveries taken state (.event delay event :: rest))
    (hremembered : state.registry.IsRemembered)
    (hstopped : (state.wait setting (state.now + delay)).isStopped = false)
    (hrest : ∀ taken next, Stands setting start deliveries taken next rest →
      next.registry.IsRemembered → Passage setting (ComesBy setting start deliveries) next
        (next.jobs setting rest) (start.received setting deliveries)) :
    ∃ jobs more,
      Passage setting (ComesBy setting start deliveries)
        (state.wait setting (state.now + delay)) jobs
        ((state.wait setting (state.now + delay)).dispatch setting event).1 ∧
      Passage setting (ComesBy setting start deliveries)
        (((state.wait setting (state.now + delay)).dispatch setting event).1.wait setting
          (state.now + delay)) more (start.received setting deliveries) ∧
      jobs ++ more = state.jobs setting (.event delay event :: rest) := by
  have hwaited := isRemembered_wait setting hremembered (state.now + delay)
  obtain ⟨jobs, hpassage, hjobs, hnone⟩ :=
    passage_dispatch hstands.comesBy_waited hstopped hwaited event
  rcases take_cases setting state (state.now + delay) event with
    ⟨hreached, -⟩ | ⟨-, ⟨hdispatch, htake⟩ | ⟨failure, hdispatch, htake⟩⟩
  · simp [hstopped] at hreached
  · refine ⟨jobs, _, hpassage, hrest _ _ (hstands.takes htake)
      (isRemembered_wait setting (hpassage.isRemembered hwaited) _), ?_⟩
    rw [State.jobs, State.jobs, State.accepted, htake, jobsOf_wait,
      ← jobsOf_wait setting state (state.now + delay)]
    exact (hjobs hdispatch _).symm
  · refine ⟨jobs, [], hpassage, ?_, ?_⟩
    · rw [State.received, hstands.receive_eq, State.receive, htake]
      exact .rests _
    · rw [hnone (by simp [hdispatch]), State.jobs, State.accepted, htake]
      rfl

theorem Stands.passage_of_waited
    (hstands : Stands setting start deliveries taken state (delivery :: rest))
    (hremembered : state.registry.IsRemembered)
    (hrest : ∀ taken next, Stands setting start deliveries taken next rest →
      next.registry.IsRemembered → Passage setting (ComesBy setting start deliveries) next
        (next.jobs setting rest) (start.received setting deliveries)) :
    Passage setting (ComesBy setting start deliveries)
      (state.wait setting (state.now + delivery.delay)) (state.jobs setting (delivery :: rest))
      (start.received setting deliveries) := by
  cases delivery with
  | failure delay error =>
      rw [State.received, hstands.receive_eq, State.receive]
      exact .rests _
  | event delay event =>
      cases hstopped : (state.wait setting (state.now + delay)).isStopped with
      | true =>
          have htake : state.take setting (state.now + delay) event =
              (state.wait setting (state.now + delay), .leaves) := by
            rw [State.take, if_pos hstopped]
          rw [State.jobs, State.accepted, State.received, hstands.receive_eq, State.receive, htake]
          exact .rests _
      | false =>
          obtain ⟨jobs, more, hdispatched, htaken, hjobs⟩ :=
            hstands.passage_of_dispatched hremembered hstopped hrest
          rw [← hjobs]
          exact hdispatched.trans ((hstands.passage_to_taken hstopped 0).trans htaken)

/-- **From where it stands a run gets to where its source is left**, and on its way it queues the
jobs of the events that are still taken. -/
theorem Stands.passage (hstands : Stands setting start deliveries taken state left)
    (hremembered : state.registry.IsRemembered) :
    Passage setting (ComesBy setting start deliveries) state (state.jobs setting left)
      (start.received setting deliveries) := by
  induction left generalizing taken state with
  | nil =>
      rw [State.received, hstands.receive_eq]
      exact .rests state
  | cons delivery rest ih =>
      have hwaited := hstands.passage_of_waited hremembered fun _ _ => ih
      exact (hstands.passage_to_waited 0).trans hwaited

theorem Stands.passage_takes
    (hstands : Stands setting start deliveries taken state (.event delay event :: rest))
    (hremembered : state.registry.IsRemembered)
    (htake : state.take setting (state.now + delay) event = (next, .goesOn)) :
    ∃ jobs, Passage setting (ComesBy setting start deliveries) state jobs next ∧
      jobs ++ next.jobs setting rest = state.jobs setting (.event delay event :: rest) := by
  rcases take_cases setting state (state.now + delay) event with
    ⟨-, hleaves⟩ | ⟨hstopped, ⟨hdispatch, hgoes⟩ | ⟨failure, -, hfails⟩⟩
  · simp [htake] at hleaves
  · obtain rfl := (Prod.mk.inj (htake.symm.trans hgoes)).1
    have hwaited := isRemembered_wait setting hremembered (state.now + delay)
    obtain ⟨jobs, hpassage, hjobs, -⟩ :=
      passage_dispatch hstands.comesBy_waited hstopped hwaited event
    refine ⟨jobs, ?_, ?_⟩
    · exact (hstands.passage_to_waited 0).trans
        (hpassage.trans_nil (hstands.passage_to_taken hstopped 0))
    · rw [State.jobs, State.jobs, State.accepted, htake, jobsOf_wait,
        ← jobsOf_wait setting state (state.now + delay)]
      exact (hjobs hdispatch _).symm
  · simp [htake] at hfails

theorem Stands.passage_from_start (hstands : Stands setting start deliveries taken state left)
    (hremembered : start.registry.IsRemembered) :
    ∃ jobs, Passage setting (ComesBy setting start deliveries) start jobs state ∧
      jobs ++ state.jobs setting left = start.jobs setting deliveries := by
  induction hstands with
  | starts => exact ⟨[], .rests start, rfl⟩
  | takes hstands htake ih =>
      obtain ⟨jobs, hpassage, hjobs⟩ := ih
      obtain ⟨more, htaken, hmore⟩ :=
        hstands.passage_takes (hpassage.isRemembered hremembered) htake
      exact ⟨jobs ++ more, hpassage.trans htaken, by rw [List.append_assoc, hmore, hjobs]⟩

theorem passage_to_received (setting : Setting) (deliveries : List Delivery)
    (hremembered : start.registry.IsRemembered) :
    Passage setting (ComesBy setting start deliveries) start (start.jobs setting deliveries)
      (start.received setting deliveries) :=
  Stands.starts.passage hremembered

theorem passage_run (setting : Setting) (deliveries : List Delivery)
    (hremembered : start.registry.IsRemembered) :
    Passage setting (ComesBy setting start deliveries) start (start.jobs setting deliveries)
      (start.ending setting deliveries) :=
  (passage_to_received setting deliveries hremembered).trans_nil
    (passage_to_ending setting start deliveries 0)

/-- **A run gets to each state that it comes by, and from there to its end.** All jobs that are
queued before and behind are those of the events that are taken. -/
theorem ComesBy.passage (hcomes : ComesBy setting start deliveries state)
    (hremembered : start.registry.IsRemembered) :
    ∃ jobs more, Passage setting (ComesBy setting start deliveries) start jobs state ∧
      Passage setting (ComesBy setting start deliveries) state more
        (start.ending setting deliveries) ∧
      jobs ++ more = start.jobs setting deliveries := by
  -- In each case the state is cut out of one of the waits, whose steps before and behind it join.
  have hending := passage_to_ending setting start deliveries
  have hends {taken next left} (hstands : Stands setting start deliveries taken next left)
      (hremembered : next.registry.IsRemembered) := hstands.passage hremembered
  cases hcomes with
  | waits hstands steps =>
      obtain ⟨jobs, hpassage, hjobs⟩ := hstands.passage_from_start hremembered
      have hwaited := hstands.passage_of_waited (hpassage.isRemembered hremembered) fun _ _ => hends
      exact ⟨jobs, _, hpassage.trans_nil (passage_advanceBy (.waits hstands) steps),
        (hstands.passage_to_waited steps).trans (hwaited.trans_nil (hending 0)), hjobs⟩
  | waited hstands =>
      obtain ⟨jobs, hpassage, hjobs⟩ := hstands.passage_from_start hremembered
      have hwaited := hstands.passage_of_waited (hpassage.isRemembered hremembered) fun _ _ => hends
      exact ⟨jobs, _, hpassage.trans_nil (hstands.passage_to_waited 0),
        hwaited.trans_nil (hending 0), hjobs⟩
  | takes hstands hstopped steps =>
      obtain ⟨jobs, hpassage, hjobs⟩ := hstands.passage_from_start hremembered
      obtain ⟨first, more, hdispatched, htaken, hmore⟩ := hstands.passage_of_dispatched
        (hpassage.isRemembered hremembered) hstopped fun _ _ => hends
      have hwaited := (hstands.passage_to_waited 0).trans hdispatched
      refine ⟨jobs ++ first, more, ?_, (hstands.passage_to_taken hstopped steps).trans
        (htaken.trans_nil (hending 0)), ?_⟩
      · exact (hpassage.trans hwaited).trans_nil
          (passage_advanceBy (.takes hstands hstopped) steps)
      · rw [List.append_assoc, hmore, hjobs]
  | closes steps =>
      have hreceived := passage_to_received setting deliveries hremembered
      exact ⟨_, [], hreceived.trans_nil (passage_advanceBy .closes steps), hending steps,
        List.append_nil _⟩

/-! ### Where the events are left -/

theorem next?_ending (setting : Setting) (start : State) (deliveries : List Delivery) :
    (start.ending setting deliveries).next? none = none :=
  next?_advanceBy_eq_none (Nat.le_refl _)

/-- Behind the last event nothing is recalled, and nothing is queued. -/
theorem sameSlots_ending (setting : Setting) (start : State) (deliveries : List Delivery) :
    (start.ending setting deliveries).registry.SameSlots
        (start.received setting deliveries).registry ∧
      (start.ending setting deliveries).queued = (start.received setting deliveries).queued :=
  ⟨sameSlots_advanceBy setting none _ _, queued_advanceBy setting none _ _⟩

/-- An event that comes behind the stop signal is the end of them. -/
theorem Stands.of_isStopped
    (hstands : Stands setting start deliveries taken state (.event delay event :: rest))
    (hstopped : (state.wait setting (state.now + delay)).isStopped = true) :
    start.accepted setting deliveries = taken ∧
      start.received setting deliveries = state.wait setting (state.now + delay) := by
  have htake : state.take setting (state.now + delay) event =
      (state.wait setting (state.now + delay), .leaves) := by
    rw [State.take, if_pos hstopped]
  refine ⟨?_, ?_⟩
  · rw [hstands.accepted_eq, State.accepted, htake, List.append_nil]
  · rw [State.received, hstands.receive_eq, State.receive, htake]

end Processing

end ResourceWatch
