import ResourceWatch.Proofs.Reactor.Abreast

/-!
# Resources are handled independently of each other

Two runs over the same events, in which the handler does the same for one resource and anything at
all for the others, do the same for that resource at the same times. The runs are followed side by
side, from event to event.
-/

namespace ResourceWatch.Processing

open Throttling

variable {setting other : Setting} {state first second : State} {own : Nat → Bool} {uid : Text}
  {slot : Nat} {time : Time} {memory : Memory}

/-! ### Events -/

/-- The jobs for some events belong on the slots that are looked at if they are for the resource. -/
def WillSort (own : Nat → Bool) (uid : Text) (setting : Setting) (state : State)
    (events : List Event) : Prop :=
  ∀ entry ∈ jobsOf setting state.registry state.queued events,
    own entry.2 = true ↔ entry.1.uid = uid

theorem jobsOf_agree (hagree : Setting.Agree uid setting other) (registry : Registry) (number : Nat)
    (events : List Event) :
    jobsOf setting registry number events = jobsOf other registry number events := by
  induction events generalizing registry number with
  | nil => rfl
  | cons event rest ih => simp only [jobsOf, ih, hagree.cells, hagree.template]

theorem WillSort.of_alike {events : List Event} (hwill : WillSort own uid setting first events)
    (hagree : Setting.Agree uid setting other) (halike : Alike own first second) :
    WillSort own uid other second events := by
  unfold WillSort
  rw [← halike.queued, ← jobsOf_congr halike.registry, ← jobsOf_agree hagree]
  exact hwill

/-- An event that is queued is queued on its slot, and the others are still to come. -/
theorem sorted_dispatch {event : Event} {rest : List Event} (hsorted : IsSorted own uid state)
    (hremembered : state.registry.IsRemembered)
    (hwill : WillSort own uid setting state (event :: rest)) :
    IsSorted own uid (state.dispatch setting event).1 ∧
      (state.dispatch setting event).1.registry.IsRemembered ∧
      ((state.dispatch setting event).2 = none →
        WillSort own uid setting (state.dispatch setting event).1 rest) := by
  have hdispatched := dispatched_dispatch setting state event
  generalize state.dispatch setting event = result at hdispatched ⊢
  cases hdispatched with
  | bookmark hbookmark hjobs =>
      refine ⟨hsorted, hremembered, fun _ => ?_⟩
      rwa [WillSort, hjobs] at hwill
  | failed failure duplications hjobs => exact ⟨hsorted, hremembered, fun hnone => by simp at hnone⟩
  | queued found slot registry duplications hevent hkeeps hjobs =>
      have hkeeps := hkeeps hremembered
      rw [WillSort, hjobs, List.forall_mem_cons] at hwill
      obtain ⟨hjob, hrest⟩ := hwill
      refine ⟨fun place job hmem => ?_, ?_, fun _ => ?_⟩
      · obtain ⟨hqueue, -⟩ := hkeeps.memory_eq place
        have hbefore := hsorted place job
        rw [State.memoryAt, Memory.uncalled, ← hqueue, ← Memory.uncalled] at hbefore
        rw [State.memoryAt, Registry.memory_update hkeeps.slot_lt] at hmem
        split at hmem
        · rename_i hsame
          rw [uncalled_push, ← List.append_assoc, List.mem_append, List.mem_singleton] at hmem
          rcases hmem with hold | rfl
          · exact hbefore hold
          · exact hsame ▸ hjob
        · exact hbefore hmem
      · simpa [Registry.IsRemembered, Registry.update] using hkeeps.isRemembered
      · have hsame : (registry.update slot fun memory =>
            { memory with queue := memory.queue.push ⟨state.queued, found, event⟩ }).SameSlots
            registry := ⟨rfl, by simp [Registry.update]⟩
        rw [WillSort, jobsOf_congr hsame]
        exact hrest

/-- A job more on a slot, and perhaps memories that are new, the same in both states. -/
theorem Alike.push (halike : Alike own first second) {registry registry' : Registry}
    (hregistry : registry.SameSlots registry') {made : List Memory}
    (hmade : registry.memories = first.registry.memories ++ made)
    (hmade' : registry'.memories = second.registry.memories ++ made)
    (hslot : slot < registry.memories.length) (job : Job) (queued duplications duplications' : Nat) :
    Alike own
      { first with
        registry := registry.update slot fun memory =>
          { memory with queue := memory.queue.push job }
        queued
        duplications }
      { second with
        registry := registry'.update slot fun memory =>
          { memory with queue := memory.queue.push job }
        queued
        duplications := duplications' } where
  stop := halike.stop
  registry := ⟨hregistry.slots, by simp [Registry.update, hregistry.length]⟩
  queued := rfl
  memory place hown := by
    have hsame : registry.memories[place]?.getD {} = registry'.memories[place]?.getD {} := by
      have hbefore := halike.memory place hown
      have hlength := halike.registry.length
      rw [State.memoryAt, State.memoryAt] at hbefore
      rw [hmade, hmade', List.getElem?_append, List.getElem?_append, hlength]
      split
      · exact hbefore
      · rfl
    rw [State.memoryAt, State.memoryAt, Registry.memory_update hslot,
      Registry.memory_update (hregistry.length ▸ hslot), hsame]
  history := halike.history

/-- **An event is queued alike in both states**, or fails in both. -/
theorem Alike.dispatch (hagree : Setting.Agree uid setting other) (halike : Alike own first second)
    (hremembered : first.registry.IsRemembered) (event : Event) :
    Alike own (first.dispatch setting event).1 (second.dispatch other event).1 ∧
      (first.dispatch setting event).2 = (second.dispatch other event).2 := by
  by_cases hevent : event.type = some .bookmark
  · rw [State.dispatch, State.dispatch, if_pos hevent, if_pos hevent]
    exact ⟨halike, rfl⟩
  obtain ⟨hslot, hregistry⟩ := halike.registry.recalled setting.cells event.object setting.template
    event.type.isNone
  obtain ⟨made, hmade, hmade'⟩ := halike.registry.exists_recalled setting.cells event.object
    setting.template event.type.isNone
  have hfails (duplications duplications' : Nat) :
      Alike own { first with duplications } { second with duplications := duplications' } :=
    ⟨halike.stop, halike.registry, halike.queued, halike.memory, halike.history⟩
  simp only [State.dispatch, if_neg hevent, ← hagree.cells, ← hagree.template, ← hslot]
  cases hrecalled : (first.registry.recalled setting.cells event.object setting.template
      event.type.isNone).slot with
  | error failure => cases event.object.identity <;> exact ⟨hfails _ _, rfl⟩
  | ok slot =>
      cases event.object.identity with
      | error failure => exact ⟨hfails _ _, rfl⟩
      | ok found =>
          have hlt := (Registry.keeps_recalled hremembered hrecalled).slot_lt
          simp only [← halike.queued]
          refine ⟨?_, trivial⟩
          split
          · exact halike.push (hregistry.forgetUid found) hmade hmade' hlt _ _ _ _
          · exact halike.push hregistry hmade hmade' hlt _ _ _ _

/-- Two states abreast, at the same time, with the same events to come. -/
structure Follows (own : Nat → Bool) (uid : Text) (setting : Setting) (events : List Event)
    (first second : State) : Prop extends Abreast own uid first second where
  now : first.now = second.now
  remembered : first.registry.IsRemembered
  upcoming : WillSort own uid setting first events

variable {event : Event} {rest : List Event} {events : List Event}

theorem Follows.wait (hagree : Setting.Agree uid setting other)
    (hfollows : Follows own uid setting events first second) (hnow : first.now ≤ time)
    (hstopped : (first.wait setting time).isStopped = false)
    (hstopped' : (second.wait other time).isStopped = false) :
    Follows own uid setting events (first.wait setting time) (second.wait other time) ∧
      views own (first.waitCourse setting time) = views own (second.waitCourse other time) := by
  obtain ⟨habreast, hviews⟩ := abreast_wait hagree hfollows.toAbreast hnow (hfollows.now ▸ hnow)
    hstopped hstopped'
  have hsame := sameSlots_wait setting first time
  have hqueued : (first.wait setting time).queued = first.queued :=
    queued_advanceBy setting (some time) first.work first
  refine ⟨⟨habreast, rfl, ?_, ?_⟩, hviews⟩
  · rw [Registry.IsRemembered, hsame.slots, hsame.length]
    exact hfollows.remembered
  · rw [WillSort, hqueued, jobsOf_congr hsame]
    exact hfollows.upcoming

theorem Follows.dispatch (hagree : Setting.Agree uid setting other)
    (hfollows : Follows own uid setting (event :: rest) first second) :
    (first.dispatch setting event).2 = (second.dispatch other event).2 ∧
      Follows own uid setting (if (first.dispatch setting event).2.isNone then rest else [])
        (first.dispatch setting event).1 (second.dispatch other event).1 := by
  obtain ⟨halike, hsame⟩ := hfollows.toAlike.dispatch hagree hfollows.remembered event
  have hremembered : second.registry.IsRemembered := by
    rw [Registry.IsRemembered, ← hfollows.registry.slots, ← hfollows.registry.length]
    exact hfollows.remembered
  obtain ⟨hsorted, hnext, hwill⟩ :=
    sorted_dispatch hfollows.sorted hfollows.remembered hfollows.upcoming
  obtain ⟨hsorted', -, -⟩ := sorted_dispatch hfollows.sorted' hremembered
    (hfollows.upcoming.of_alike hagree hfollows.toAlike)
  have hnow : (first.dispatch setting event).1.now = (second.dispatch other event).1.now := by
    rw [now_dispatch, now_dispatch, hfollows.now]
  refine ⟨hsame, ⟨⟨halike, fun place hown => halike.fires hnow hown, hsorted, hsorted'⟩, hnow, hnext,
    ?_⟩⟩
  cases hfailure : (first.dispatch setting event).2 with
  | none => exact hwill hfailure
  | some failure => simp [WillSort, jobsOf]

/-- What becomes of an event in two states. -/
inductive Taking (own : Nat → Bool) (uid : Text) (setting : Setting) (rest : List Event) :
    State × Taken → State × Taken → Prop where
  | goesOn (next next' : State) (hfollows : Follows own uid setting rest next next') :
      Taking own uid setting rest (next, .goesOn) (next', .goesOn)
  | fails (next next' : State) (failure : Failure)
      (habreast : Abreast own uid next next') :
      Taking own uid setting rest (next, .fails failure) (next', .fails failure)

theorem isStopped_of_wait (hnow : state.now ≤ time)
    (hstopped : (state.wait setting time).isStopped = false) : state.isStopped = false :=
  isStopped_advanceBy (some time) state.work (isStopped_advanceBy_of_wait hnow hstopped)

theorem isStopped_wait_of_take
    (hstopped : (state.take setting time event).1.isStopped = false) :
    (state.wait setting time).isStopped = false := by
  rw [Bool.eq_false_iff]
  intro hreached
  rw [State.take, if_pos hreached, hreached] at hstopped
  simp at hstopped

theorem views_append (course more : List (Nat × State)) :
    views own (course ++ more) = views own course ++ views own more :=
  List.filterMap_append

theorem Follows.take (hagree : Setting.Agree uid setting other)
    (hfollows : Follows own uid setting (event :: rest) first second) (hnow : first.now ≤ time)
    (hstopped : (first.take setting time event).1.isStopped = false)
    (hstopped' : (second.take other time event).1.isStopped = false) :
    Taking own uid setting rest (first.take setting time event) (second.take other time event) ∧
      views own (first.takeCourse setting time event) =
        views own (second.takeCourse other time event) := by
  -- Both states wait for the event, queue it alike, and wait for what can start at once.
  have hwaits := isStopped_wait_of_take hstopped
  have hwaits' := isStopped_wait_of_take hstopped'
  obtain ⟨hwaited, hviews⟩ := hfollows.wait hagree hnow hwaits hwaits'
  obtain ⟨hsame, hdispatched⟩ := hwaited.dispatch hagree
  have hle : ((first.wait setting time).dispatch setting event).1.now ≤ time := by
    rw [now_dispatch]
    exact Int.le_refl _
  rw [take_eq hwaits] at hstopped ⊢
  rw [take_eq hwaits'] at hstopped' ⊢
  obtain ⟨hafter, hviews'⟩ := hdispatched.wait hagree hle hstopped hstopped'
  constructor
  · rw [← hsame]
    cases hfailure : ((first.wait setting time).dispatch setting event).2 with
    | none =>
        rw [hfailure] at hafter
        exact .goesOn _ _ hafter
    | some failure => exact .fails _ _ failure hafter.toAbreast
  · simp only [State.takeCourse, hwaits, hwaits', Bool.false_eq_true, if_false, views_append, hviews,
      hviews']

theorem isStopped_take_of_receive {delay : Nat} (delivered : Nat) (deliveries : List Delivery)
    (hstopped : (state.receive setting delivered
      (.event delay event :: deliveries)).state.isStopped = false) :
    (state.take setting (state.now + delay) event).1.isStopped = false := by
  induction deliveries generalizing state delay event delivered with
  | nil =>
      simp only [State.receive] at hstopped
      generalize state.take setting (state.now + delay) event = result at hstopped ⊢
      obtain ⟨next, goesOn | leaves | failure⟩ := result <;> exact hstopped
  | cons delivery rest ih =>
      rw [State.receive] at hstopped
      generalize state.take setting (state.now + delay) event = result at hstopped ⊢
      obtain ⟨next, goesOn | leaves | failure⟩ := result
      · cases delivery with
        | failure delay error => exact isStopped_of_wait (now_le_delayed next delay) hstopped
        | event delay event =>
            exact isStopped_of_wait (now_le_delayed next delay)
              (isStopped_wait_of_take (ih _ hstopped))
      · exact hstopped
      · exact hstopped

/-- **Two states stay abreast while a source of events is taken.** -/
theorem Follows.receive (hagree : Setting.Agree uid setting other) (deliveries : List Delivery)
    (delivered : Nat) (hfollows : Follows own uid setting (arrivals deliveries) first second)
    (hstopped : (first.receive setting delivered deliveries).state.isStopped = false)
    (hstopped' : (second.receive other delivered deliveries).state.isStopped = false) :
    Abreast own uid (first.receive setting delivered deliveries).state
        (second.receive other delivered deliveries).state ∧
      views own (first.receiveCourse setting deliveries) =
        views own (second.receiveCourse other deliveries) := by
  induction deliveries generalizing first second delivered with
  | nil => exact ⟨hfollows.toAbreast, rfl⟩
  | cons delivery rest ih =>
      cases delivery with
      | failure delay error =>
          have hnow := now_le_delayed first delay
          simp only [State.receive, State.receiveCourse, ← hfollows.now] at hstopped hstopped' ⊢
          obtain ⟨hwaited, hviews⟩ := hfollows.wait hagree hnow hstopped hstopped'
          exact ⟨hwaited.toAbreast, hviews⟩
      | event delay event =>
          have hnow := now_le_delayed first delay
          have htaken := isStopped_take_of_receive delivered rest hstopped
          have htaken' := isStopped_take_of_receive delivered rest hstopped'
          simp only [State.receive, State.receiveCourse,
            ← hfollows.now] at hstopped hstopped' htaken' ⊢
          obtain ⟨htaking, hviews⟩ := hfollows.take hagree hnow htaken htaken'
          rw [views_append, views_append, hviews]
          generalize first.take setting (first.now + delay) event = result at htaking hstopped ⊢
          generalize second.take other (first.now + delay) event = result' at htaking hstopped' ⊢
          cases htaking with
          | goesOn next next' hnext =>
              obtain ⟨habreast, hrest⟩ := ih (delivered + 1) hnext hstopped hstopped'
              exact ⟨habreast, by rw [hrest]⟩
          | fails next next' failure habreast => exact ⟨habreast, rfl⟩

/-! ### Runs that nothing stops -/

/-- No call of the handler sends the stop signal. -/
def Setting.NeverStops (setting : Setting) : Prop :=
  ∀ uid number, (setting.handler uid number).stops = false

theorem stop_proceed (hnever : setting.NeverStops) (state : State) (job : Job) (step : Step) :
    (state.proceed setting slot memory job step).stop = state.stop := by
  have hbehaviour := hnever job.uid
  rw [State.proceed]
  cases step.next with
  | wait stage => rfl
  | call => simp [State.call, hbehaviour]
  | «over» succeeded => rfl

theorem stop_fire (hnever : setting.NeverStops) (state : State) (slot : Nat) (time : Time) :
    (state.fire setting slot time).stop = state.stop := by
  rw [State.fire]
  split
  · rfl
  · simp only
    split
    · split
      · rfl
      · exact stop_proceed hnever _ _ _
    · rw [stop_proceed hnever]
      split <;> rfl

theorem stop_advanceBy (hnever : setting.NeverStops) (limit : Option Time) (steps : Nat)
    (state : State) : (State.advanceBy setting limit steps state).stop = state.stop := by
  induction steps generalizing state with
  | zero => rfl
  | succ steps ih =>
      cases hnext : state.next? limit with
      | none => rw [advanceBy_of_next?_eq_none hnext]
      | some found => rw [advanceBy_succ hnext, ih, State.goOn, stop_fire hnever]

theorem stop_take (hnever : setting.NeverStops) (state : State) (time : Time) (event : Event) :
    (state.take setting time event).1.stop = state.stop := by
  have hwait (state : State) : (state.wait setting time).stop = state.stop :=
    stop_advanceBy hnever (some time) state.work state
  have hdispatch (state : State) : (state.dispatch setting event).1.stop = state.stop := by
    have hdispatched := dispatched_dispatch setting state event
    generalize state.dispatch setting event = result at hdispatched ⊢
    cases hdispatched <;> rfl
  cases hstopped : (state.wait setting time).isStopped with
  | true => rw [State.take, if_pos hstopped, hwait]
  | false => rw [take_eq hstopped, hwait, hdispatch, hwait]

theorem stop_receive (hnever : setting.NeverStops) (state : State) (delivered : Nat)
    (deliveries : List Delivery) :
    (state.receive setting delivered deliveries).state.stop = state.stop := by
  induction deliveries generalizing state delivered with
  | nil => rfl
  | cons delivery rest ih =>
      cases delivery with
      | failure delay error => exact stop_advanceBy hnever _ state.work state
      | event delay event =>
          have htake := stop_take hnever state (state.now + delay) event
          rw [State.receive]
          generalize state.take setting (state.now + delay) event = result at htake ⊢
          obtain ⟨next, goesOn | leaves | failure⟩ := result
          · exact (ih next _).trans htake
          · exact htake
          · exact htake

/-- **Without a stop signal nothing is stopped.** -/
theorem isStopped_run (hnever : setting.NeverStops) (now : Time) (registry : Registry)
    (deliveries : List Delivery) :
    (run setting { now, stop := none, registry } deliveries).state.isStopped = false := by
  have hreceive := stop_receive hnever { now, stop := none, registry } 0 deliveries
  rw [run]
  generalize State.receive setting { now, stop := none, registry } 0 deliveries = received
    at hreceive ⊢
  obtain ⟨log, hstate, -⟩ := exists_finish setting received
  have hfinal : (received.finish setting).state.stop = none := by
    rw [hstate]
    exact (stop_advanceBy hnever none _ _).trans hreceive
  rw [State.isStopped, hfinal]
  rfl

/-! ### The whole run -/

/-- The slots that have jobs of a resource. -/
def slotsOf (jobs : List (Job × Nat)) (uid : Text) (slot : Nat) : Bool :=
  jobs.any fun (job, place) => job.uid = uid ∧ place = slot

theorem slotsOf_iff {registry : Registry} (hremembered : registry.IsRemembered)
    (hseparate : registry.IsSeparate) (number : Nat) (events : List Event) (uid : Text)
    {entry : Job × Nat} (hentry : entry ∈ jobsOf setting registry number events) :
    slotsOf (jobsOf setting registry number events) uid entry.2 = true ↔ entry.1.uid = uid := by
  constructor
  · intro hown
    obtain ⟨other, hother, hfound⟩ := List.any_eq_true.mp hown
    obtain ⟨rfl, hslot⟩ : other.1.uid = uid ∧ other.2 = entry.2 := by simpa using hfound
    exact uid_eq_of_slot_eq hremembered hseparate number events hentry (hslot ▸ hother)
  · intro huid
    exact List.any_eq_true.mpr ⟨entry, hentry, by simp [huid]⟩

theorem follows_of_isIdle {registry : Registry} (setting : Setting) (hidle : registry.IsIdle)
    (hseparate : registry.IsSeparate) (now : Time) (stop : Option Time) (events : List Event)
    (uid : Text) :
    Follows (slotsOf (jobsOf setting registry 0 events) uid) uid setting events
      { now, stop, registry } { now, stop, registry } := by
  have hsorted : IsSorted (slotsOf (jobsOf setting registry 0 events) uid) uid
      { now, stop, registry } := by
    have htracks : Tracks setting [] { now, stop, registry } := tracks_of_isIdle hidle now stop
    intro slot job hmem
    rw [htracks.uncalled slot] at hmem
    simp [jobsOn] at hmem
  exact ⟨⟨⟨rfl, ⟨rfl, rfl⟩, rfl, fun _ _ => rfl, rfl⟩, fun _ _ => rfl, hsorted, hsorted⟩, rfl,
    hidle.isRemembered, fun _ hentry => slotsOf_iff hidle.isRemembered hseparate 0 events uid hentry⟩

theorem Abreast.callsFor_eq (habreast : Abreast own uid first second) :
    first.callsFor uid = second.callsFor uid := by
  rw [habreast.sorted.callsFor_eq, habreast.sorted'.callsFor_eq, habreast.history]

/-- What two runs have in common that are the same for a resource. -/
structure Isolated (own : Nat → Bool) (uid : Text) (setting other : Setting) (state : State)
    (deliveries : List Delivery) : Prop where
  /-- The handler is called for the same events at the same times and in the same order, and finds
  the same memory. -/
  calls : (run setting state deliveries).state.callsFor uid =
    (run other state deliveries).state.callsFor uid
  /-- The calls come to the same end at the same times. -/
  history : onSlots own (run setting state deliveries).state.trace =
    onSlots own (run other state deliveries).state.trace
  /-- The same is remembered at the same times behind each step, of the failures as well. -/
  views : views own (runCourse setting state deliveries) =
    views own (runCourse other state deliveries)
  /-- The same is remembered at the end. -/
  memory : ∀ slot, own slot = true →
    (run setting state deliveries).state.memoryAt slot =
      (run other state deliveries).state.memoryAt slot

/-- **Resources are isolated.** If the handler does the same for a resource in two runs over the
same events, whatever it does for the others, then the runs are the same for this resource. -/
theorem run_isolated {registry : Registry} (setting : Setting) (handler : Handler) (uid : Text)
    (hhandler : handler uid = setting.handler uid) (hidle : registry.IsIdle)
    (hseparate : registry.IsSeparate) (now : Time) (stop : Option Time) (deliveries : List Delivery)
    (hstopped : (run setting { now, stop, registry } deliveries).state.isStopped = false)
    (hstopped' : (run { setting with handler } { now, stop, registry } deliveries).state.isStopped =
      false) :
    Isolated (slotsOf (jobsOf setting registry 0 (arrivals deliveries)) uid) uid setting
      { setting with handler } { now, stop, registry } deliveries := by
  have hagree : Setting.Agree uid setting { setting with handler } :=
    ⟨hhandler.symm, rfl, rfl, rfl⟩
  have hfollows := follows_of_isIdle setting hidle hseparate now stop (arrivals deliveries) uid
  generalize slotsOf (jobsOf setting registry 0 (arrivals deliveries)) uid = own at hfollows ⊢
  have hreceive := hfollows.receive hagree deliveries 0
  generalize hstate : ({ now, stop, registry } : State) = state at hreceive hstopped hstopped' ⊢
  obtain ⟨log, hfirst, -⟩ := exists_finish setting (state.receive setting 0 deliveries)
  obtain ⟨log', hsecond, -⟩ := exists_finish { setting with handler }
    (state.receive { setting with handler } 0 deliveries)
  rw [run, hfirst] at hstopped
  rw [run, hsecond] at hstopped'
  -- Nothing is stopped in the end, so that nothing is before.
  obtain ⟨hreceived, htaken⟩ := hreceive (isStopped_advanceBy none _ hstopped)
    (isStopped_advanceBy none _ hstopped')
  obtain ⟨hfinished, hrest⟩ := abreast_advanceBy hagree none (Nat.le_refl _) (Nat.le_refl _)
    hreceived hstopped hstopped'
  exact {
    calls := by
      rw [run, run, hfirst, hsecond]
      exact hfinished.callsFor_eq
    history := by
      rw [run, run, hfirst, hsecond]
      exact hfinished.history
    views := by
      simp only [runCourse, views_append]
      rw [htaken, hrest]
    memory := by
      rw [run, run, hfirst, hsecond]
      exact hfinished.memory }

/-- A handler that never comes back from a call for another resource. -/
def hanging : Handler := fun uid number =>
  if uid = "a" then clumsy.handler uid number else { duration := none }

/-- Two resources are modified, each of them in front of the other one once. -/
def alternating : List Delivery :=
  [.event 1 ⟨some .modified, identified "b"⟩, .event 0 ⟨some .modified, identified "a"⟩,
    .event 2 ⟨some .modified, identified "a"⟩, .event 3 ⟨some .modified, identified "b"⟩]

theorem neverStops_clumsy : clumsy.NeverStops := by
  intro uid number
  simp only [clumsy]
  split <;> rfl

theorem run_isolated_hanging :
    hanging "a" = clumsy.handler "a" ∧ Registry.IsIdle {} ∧ Registry.IsSeparate {} ∧
      (run clumsy { now := 0, stop := none } alternating).state.isStopped = false ∧
      (run { clumsy with handler := hanging } { now := 0, stop := none }
        alternating).state.isStopped = false ∧
      Isolated (slotsOf (jobsOf clumsy {} 0 (arrivals alternating)) "a") "a" clumsy
        { clumsy with handler := hanging } { now := 0, stop := none } alternating := by
  have hhandler : hanging "a" = clumsy.handler "a" := rfl
  have hnever : Setting.NeverStops { clumsy with handler := hanging } := by
    intro uid number
    simp only [hanging]
    split
    · exact neverStops_clumsy uid number
    · rfl
  have hstopped := isStopped_run neverStops_clumsy 0 {} alternating
  have hstopped' := isStopped_run hnever 0 {} alternating
  exact ⟨hhandler, Registry.isIdle_empty, Registry.isSeparate_empty, hstopped, hstopped',
    run_isolated clumsy hanging "a" hhandler Registry.isIdle_empty Registry.isSeparate_empty 0 none
      alternating hstopped hstopped'⟩

end ResourceWatch.Processing
