import ResourceWatch.Proofs.Log.Streams
import ResourceWatch.Reactor
import ResourceWatch.Reactor.Attempt

/-!
# Handling beside its log

Throttled calls, the handling of events and the reactor write while they wait, retry and give up.
None of their steps reads what was written, so two runs that are told apart by their logs alone call
the handler at the same times and end alike.
-/

namespace ResourceWatch

open Log (Pairing AreOrdinary)

variable {pairing : Pairing}

namespace Throttling.Setting

variable (setting : Setting) (now : Time)

theorem category_overRecord : (setting.overRecord now).category = setting.category := rfl

theorem category_failureRecord (delay : Option Number) (failure : Thrown) :
    (setting.failureRecord now delay failure).category = setting.category := by
  cases delay <;> rfl

theorem category_of_fire {stop : Option Time} {throttler : Throttler} {stage : Stage}
    {written : Log.Record} (hmem : written ∈ (setting.fire stop throttler now stage).log) :
    written.category = setting.category := by
  -- A wait that is not cut short ends with one record, and so does a call that fails.
  cases stage with
  | resting due =>
      rw [fire] at hmem
      split at hmem
      · exact absurd hmem List.not_mem_nil
      · obtain rfl := List.mem_singleton.mp hmem
        exact setting.category_overRecord now
  | cooling due =>
      rw [fire] at hmem
      split at hmem
      · exact absurd hmem List.not_mem_nil
      · obtain rfl := List.mem_singleton.mp hmem
        exact setting.category_overRecord now
  | calling due failure =>
      cases failure with
      | none => exact absurd hmem List.not_mem_nil
      | some failure =>
          obtain rfl := List.mem_singleton.mp hmem
          exact setting.category_failureRecord now _ failure

theorem log_enter (throttler : Throttler) : (enter throttler now).log = [] := by
  unfold enter
  split <;> rfl

end Throttling.Setting

/-! ### Throttled calls -/

open Throttling

namespace Attempts

inductive Matches (pairing : Pairing) (state : Attempts) : Attempts → Prop where
  | intro (log : List Log.Record) (hlog : pairing.Holds state.log log)
      (htakes : ∀ attempt ∈ state.attempts, pairing.Takes attempt.setting.category) :
      state.Matches pairing { state with log }

def mute (state : Attempts) : Attempts :=
  { state with log := [] }

theorem setting_proceed (attempt : Attempt) (time : Time) (next : Next) :
    (attempt.proceed time next).setting = attempt.setting := by
  cases next <;> rfl

namespace Matches

variable {state state' : Attempts}

theorem mute (hmatches : state.Matches pairing state') : state'.mute = state.mute := by
  obtain ⟨log, hlog, htakes⟩ := hmatches
  rfl

theorem log (hmatches : state.Matches pairing state') : pairing.Holds state.log state'.log := by
  obtain ⟨log, hlog, htakes⟩ := hmatches
  exact hlog

theorem work (hmatches : state.Matches pairing state') : state'.work = state.work := by
  obtain ⟨log, hlog, htakes⟩ := hmatches
  rfl

theorem start (hmatches : state.Matches pairing state') {setting : Setting}
    (hsetting : pairing.Takes setting.category) (stop : Option Time) (behaviour : Behaviour) :
    (state.start setting stop behaviour).Matches pairing (state'.start setting stop behaviour) := by
  obtain ⟨log, hlog, htakes⟩ := hmatches
  refine ⟨_, pairing.append hlog (by simp [Setting.log_enter]), fun attempt hmem => ?_⟩
  rcases List.mem_append.mp hmem with hmem | hmem
  · exact htakes attempt hmem
  · rw [List.mem_singleton.mp hmem, setting_proceed]
    exact hsetting

theorem fire (hmatches : state.Matches pairing state') (number : Nat) (time : Time) :
    (state.fire number time).Matches pairing (state'.fire number time) := by
  obtain ⟨log, hlog, htakes⟩ := hmatches
  unfold Attempts.fire
  dsimp only
  cases hattempt : state.attempts[number]? with
  | none => exact ⟨log, hlog, htakes⟩
  | some attempt =>
      have hattempts : pairing.Takes attempt.setting.category :=
        htakes attempt (List.mem_of_getElem? hattempt)
      dsimp only
      cases attempt.state with
      | waiting stage =>
          -- The settings stay with their attempts, so what these write later is taken as well.
          refine ⟨_, pairing.append hlog fun record hmem => ?_, fun other hmem => ?_⟩
          · rwa [attempt.setting.category_of_fire time hmem]
          · rcases List.mem_or_eq_of_mem_set hmem with hmem | rfl
            · exact htakes other hmem
            · rwa [setting_proceed]
      | _ => exact ⟨log, hlog, htakes⟩

theorem advanceBy (isDone : Attempts → Time → Bool)
    (hdone : ∀ (state : Attempts) log due, isDone { state with log } due = isDone state due)
    (steps : Nat) {state state' : Attempts} (hmatches : state.Matches pairing state') :
    (Attempts.advanceBy isDone steps state).Matches pairing
      (Attempts.advanceBy isDone steps state') := by
  induction steps generalizing state state' with
  | zero => exact hmatches
  | succ steps ih =>
      have hfire (number : Nat) (time : Time) := ih (hmatches.fire number time)
      obtain ⟨log, hlog, htakes⟩ := hmatches
      simp only [Attempts.advanceBy, hdone]
      split
      · exact ⟨log, hlog, htakes⟩
      · split
        · exact ⟨log, hlog, htakes⟩
        · exact hfire _ _

theorem wait (hmatches : state.Matches pairing state') (until_ : Time) :
    (state.wait until_).Matches pairing (state'.wait until_) := by
  have hadvance := hmatches.advanceBy (fun _ due => until_ < due) (fun _ _ _ => rfl) state.work
  simp only [Attempts.wait, hmatches.work]
  generalize Attempts.advanceBy _ state.work state = next at hadvance ⊢
  generalize Attempts.advanceBy _ state.work state' = next' at hadvance ⊢
  obtain ⟨log, hlog, htakes⟩ := hadvance
  exact ⟨log, hlog, htakes⟩

theorem waitFor (hmatches : state.Matches pairing state') (number : Nat) :
    (state.waitFor number).Matches pairing (state'.waitFor number) := by
  simp only [Attempts.waitFor, hmatches.work]
  exact hmatches.advanceBy _ (fun _ _ _ => rfl) state.work

end Matches

end Attempts

/-! ### Handling events -/

namespace Processing

inductive State.Matches (pairing : Pairing) (state : State) : State → Prop where
  | intro (log : List Log.Record) (hlog : pairing.Holds state.log log) :
      state.Matches pairing { state with log }

def State.mute (state : State) : State :=
  { state with log := [] }

theorem areOrdinary_fire (setting : Setting) (stop : Option Time) (throttler : Throttler)
    (now : Time) (stage : Stage) :
    AreOrdinary (setting.throttling.fire stop throttler now stage).log := by
  intro record hmem
  rw [Setting.category_of_fire _ _ hmem]
  rfl

theorem areOrdinary_endRecord (state : State) : AreOrdinary [endRecord state] :=
  Log.areOrdinary_singleton.mpr rfl

namespace State.Matches

variable {state state' : State}

theorem mute (hmatches : state.Matches pairing state') : state'.mute = state.mute := by
  obtain ⟨log, hlog⟩ := hmatches
  rfl

theorem log (hmatches : state.Matches pairing state') : pairing.Holds state.log state'.log := by
  obtain ⟨log, hlog⟩ := hmatches
  exact hlog

theorem now (hmatches : state.Matches pairing state') : state'.now = state.now := by
  obtain ⟨log, hlog⟩ := hmatches
  rfl

theorem isStopped (hmatches : state.Matches pairing state') :
    state'.isStopped = state.isStopped := by
  obtain ⟨log, hlog⟩ := hmatches
  rfl

theorem isIdle (hmatches : state.Matches pairing state') : state'.isIdle = state.isIdle := by
  obtain ⟨log, hlog⟩ := hmatches
  rfl

theorem work (hmatches : state.Matches pairing state') : state'.work = state.work := by
  obtain ⟨log, hlog⟩ := hmatches
  rfl

theorem memories (hmatches : state.Matches pairing state') :
    state'.registry.memories = state.registry.memories := by
  obtain ⟨log, hlog⟩ := hmatches
  rfl

theorem record (hmatches : state.Matches pairing state') (happening : Happening) :
    (state.record happening).Matches pairing (state'.record happening) := by
  obtain ⟨log, hlog⟩ := hmatches
  exact ⟨log, hlog⟩

theorem proceed (hmatches : state.Matches pairing state') (setting : Setting) (slot : Nat)
    (memory : Memory) (job : Job) {step : Step} (hstep : AreOrdinary step.log) :
    (state.proceed setting slot memory job step).Matches pairing
      (state'.proceed setting slot memory job step) := by
  obtain ⟨log, hlog⟩ := hmatches
  have hwritten := pairing.write hlog hstep
  unfold State.proceed
  dsimp only
  cases step.next <;> exact ⟨_, hwritten⟩

theorem fire (hmatches : state.Matches pairing state') (setting : Setting) (slot : Nat)
    (time : Time) :
    (state.fire setting slot time).Matches pairing (state'.fire setting slot time) := by
  unfold State.fire
  rw [hmatches.memories]
  cases state.registry.memories[slot]? with
  | none => exact hmatches
  | some memory =>
      obtain ⟨log, hlog⟩ := hmatches
      have hstart : State.Matches pairing { state with now := time }
          { state with now := time, log } := ⟨log, hlog⟩
      dsimp only
      cases memory.queue.running with
      | none =>
          cases memory.queue.turn? with
          | none => exact hstart
          | some turn =>
              refine hstart.proceed setting slot _ turn.1 ?_
              rw [Setting.log_enter]
              exact Log.areOrdinary_nil
      | some handling =>
          obtain ⟨job, stage⟩ := handling
          have hordinary := areOrdinary_fire setting state.stop memory.throttler time stage
          cases stage with
          | calling due failure =>
              have hsettled := hstart.record (.settled job.number slot failure)
              exact hsettled.proceed setting slot memory job hordinary
          | resting due => exact hstart.proceed setting slot memory job hordinary
          | cooling due => exact hstart.proceed setting slot memory job hordinary

theorem soonest? (hmatches : state.Matches pairing state') (slot : Nat) (memories : List Memory) :
    state'.soonest? slot memories = state.soonest? slot memories := by
  induction memories generalizing slot with
  | nil => rfl
  | cons memory rest ih =>
      rw [State.soonest?, State.soonest?, ih]
      obtain ⟨log, hlog⟩ := hmatches
      rfl

theorem advanceBy (setting : Setting) (limit : Option Time) (steps : Nat) {state state' : State}
    (hmatches : state.Matches pairing state') :
    (State.advanceBy setting limit steps state).Matches pairing
      (State.advanceBy setting limit steps state') := by
  induction steps generalizing state state' with
  | zero => exact hmatches
  | succ steps ih =>
      simp only [State.advanceBy, hmatches.memories, hmatches.soonest?, hmatches.now]
      split
      · exact hmatches
      · split
        · exact hmatches
        · exact ih (hmatches.fire setting _ _)

theorem wait (hmatches : state.Matches pairing state') (setting : Setting) (time : Time) :
    (state.wait setting time).Matches pairing (state'.wait setting time) := by
  have hadvance := hmatches.advanceBy setting (some time) state.work
  simp only [State.wait, hmatches.work]
  generalize State.advanceBy setting (some time) state.work state = next at hadvance ⊢
  generalize State.advanceBy setting (some time) state.work state' = next' at hadvance ⊢
  obtain ⟨log, hlog⟩ := hadvance
  exact ⟨log, hlog⟩

theorem finish (hmatches : state.Matches pairing state') (setting : Setting) :
    (state.finish setting).Matches pairing (state'.finish setting) := by
  simp only [State.finish, hmatches.work]
  exact hmatches.advanceBy setting none state.work

theorem dispatch (hmatches : state.Matches pairing state') (setting : Setting) (event : Event) :
    (state.dispatch setting event).1.Matches pairing (state'.dispatch setting event).1 ∧
      (state'.dispatch setting event).2 = (state.dispatch setting event).2 := by
  obtain ⟨log, hlog⟩ := hmatches
  unfold State.dispatch
  dsimp only
  split
  · exact ⟨⟨log, hlog⟩, rfl⟩
  · split <;> exact ⟨⟨log, hlog⟩, rfl⟩

theorem take (hmatches : state.Matches pairing state') (setting : Setting) (time : Time)
    (event : Event) :
    (state.take setting time event).1.Matches pairing (state'.take setting time event).1 ∧
      (state'.take setting time event).2 = (state.take setting time event).2 := by
  have hwaited := hmatches.wait setting time
  obtain ⟨hdispatched, hfailure⟩ := hwaited.dispatch setting event
  simp only [State.take, hwaited.isStopped]
  split
  · exact ⟨hwaited, rfl⟩
  · obtain ⟨next, next', failure, hhere, hthere, hdispatched⟩ := exists_pair hdispatched hfailure
    simp only [hhere, hthere]
    cases failure <;> exact ⟨hdispatched.wait setting time, rfl⟩

end State.Matches

inductive Run.Matches (pairing : Pairing) (run : Run) : Run → Prop where
  | intro (state : State) (hstate : run.state.Matches pairing state) :
      run.Matches pairing { run with state }

def Run.mute (run : Run) : Run :=
  { run with state := run.state.mute }

namespace Run.Matches

variable {run run' : Run}

theorem mute (hmatches : run.Matches pairing run') : run'.mute = run.mute := by
  obtain ⟨state, hstate⟩ := hmatches
  simp only [Run.mute, hstate.mute]

theorem log (hmatches : run.Matches pairing run') :
    pairing.Holds run.state.log run'.state.log := by
  obtain ⟨state, hstate⟩ := hmatches
  exact hstate.log

theorem finish (hmatches : run.Matches pairing run') (setting : Setting) :
    (run.finish setting).Matches pairing (run'.finish setting) := by
  obtain ⟨state, hstate⟩ := hmatches
  have hfinished := hstate.finish setting
  simp only [Run.finish, hfinished.isIdle]
  generalize run.state.finish setting = last at hfinished ⊢
  generalize state.finish setting = last' at hfinished ⊢
  cases last.isIdle && run.failure.isNone with
  | false => exact ⟨_, hfinished⟩
  | true =>
      obtain ⟨log, hlog⟩ := hfinished
      exact ⟨_, _, pairing.write hlog (areOrdinary_endRecord last)⟩

end Run.Matches

variable {state state' : State}

theorem matches_receive (setting : Setting) (deliveries : List Delivery) (delivered : Nat)
    (hmatches : state.Matches pairing state') :
    (state.receive setting delivered deliveries).Matches pairing
      (state'.receive setting delivered deliveries) := by
  induction deliveries generalizing delivered state state' with
  | nil =>
      simp only [State.receive, hmatches.now]
      exact ⟨state', hmatches⟩
  | cons delivery rest ih =>
      cases delivery with
      | failure delay error =>
          have hwaited := hmatches.wait setting (state.now + delay)
          simp only [State.receive, hmatches.now, hwaited.now]
          exact ⟨_, hwaited⟩
      | event delay event =>
          obtain ⟨htaken, hwhat⟩ := hmatches.take setting (state.now + delay) event
          obtain ⟨next, next', taken, hhere, hthere, htaken⟩ := exists_pair htaken hwhat
          simp only [State.receive, hmatches.now, hhere, hthere]
          cases taken with
          | goesOn => exact ih (delivered + 1) htaken
          | leaves =>
              simp only [htaken.now]
              exact ⟨_, htaken⟩
          | fails failure =>
              simp only [htaken.now]
              exact ⟨_, htaken⟩

/-- Handling the events of a source answers the same whatever the log is. -/
theorem matches_run (setting : Setting) (deliveries : List Delivery)
    (hmatches : state.Matches pairing state') :
    (run setting state deliveries).Matches pairing (run setting state' deliveries) :=
  (matches_receive setting deliveries 0 hmatches).finish setting

theorem matches_runSingly (setting : Setting) (deliveries : List Delivery) (delivered : Nat)
    (hmatches : state.Matches pairing state') :
    (runSingly setting state delivered deliveries).1.Matches pairing
        (runSingly setting state' delivered deliveries).1 ∧
      (runSingly setting state' delivered deliveries).2 =
        (runSingly setting state delivered deliveries).2 := by
  induction deliveries generalizing delivered state state' with
  | nil =>
      simp only [runSingly, hmatches.now]
      exact ⟨⟨_, hmatches⟩, trivial⟩
  | cons delivery rest ih =>
      cases delivery with
      | failure delay error =>
          have hwaited := hmatches.wait setting (state.now + delay)
          simp only [runSingly, hmatches.now, hwaited.now]
          exact ⟨⟨_, hwaited⟩, trivial⟩
      | event delay event =>
          have hwaited := hmatches.wait setting (state.now + delay)
          obtain ⟨hdispatched, hfailure⟩ := hwaited.dispatch setting event
          obtain ⟨next, next', failure, hhere, hthere, hdispatched⟩ :=
            exists_pair hdispatched hfailure
          simp only [runSingly, hmatches.now, hhere, hthere]
          cases failure with
          | some failure =>
              simp only [hdispatched.now]
              exact ⟨⟨_, hdispatched⟩, trivial⟩
          | none =>
              have hfinished := hdispatched.finish setting
              obtain ⟨hrest, htimes⟩ := ih (delivered + 1) hfinished
              simp only [hfinished.isIdle, hfinished.now, htimes]
              split
              · exact ⟨hrest, rfl⟩
              · exact ⟨⟨_, hfinished⟩, rfl⟩

end Processing

/-! ### The reactor -/

namespace Reactor

open Processing

/-- The records of a moment are handed on at once, so between two events none are kept. -/
def Watcher.IsDrained (watcher : Watcher) : Prop :=
  watcher.state.log = []

theorem isOrdinary_consumer (setting : Processing.Setting) :
    (consumer setting).IsOrdinary Watcher.IsDrained where
  valid _ _ _ := rfl
  log := by
    intro watcher hdrained now event
    have hstart : watcher.state.Matches (.since [] []) watcher.state :=
      ⟨watcher.state.log, Pairing.holds_since_nil (by rw [hdrained]; exact Log.areOrdinary_nil)⟩
    exact Pairing.areOrdinary_of_since (hstart.take setting now event).1.log

/-- The beginning of a reactor's watch. -/
def start (now : Time) (stop : Option Time) (log : List Log.Record) : Session Watcher Event :=
  { now, stop, state := { state := { now, stop } }, log }

/-- A reactor with another consumer of its watch and another log at its beginning. -/
def runWith (taking : Consumer Watcher Event) (log : List Log.Record) (client : Client) (url : Text)
    (setting : Processing.Setting) (now : Time) (stop : Option Time) (replies : List Reply) : Run :=
  let watch := Watch.follow client url taking replies (start now stop log)
  let state := (watch.session.state.state.wait setting watch.session.now).finish setting
  let failure := failure? watch
  let isOver := isOver watch && state.isIdle
  let ending :=
    if isOver && failure.isNone then [Processing.endRecord state, endRecord state.now url] else []
  { watch, state, failure
    ended := if isOver then some state.now else none
    log := Log.inOrder (state.log ++ watch.session.log ++ ending) }

variable (client : Client) (url : Text) (setting : Processing.Setting) (now : Time)
  (stop : Option Time) (replies : List Reply)

theorem run_eq_runWith :
    run client url setting now stop replies =
      runWith (consumer setting) [startRecord now url client.server] client url setting now stop
        replies :=
  rfl

def Run.mute (run : Run) : Run :=
  { run with watch := run.watch.mute, state := run.state.mute, log := [] }

theorem mute_runWith {Valid : Watcher → Prop} {taking other : Consumer Watcher Event}
    {log log' : List Log.Record} (hconsumer : taking.Matches pairing Valid other)
    (hstart : (start now stop log).Matches pairing Valid (start now stop log')) :
    (runWith other log' client url setting now stop replies).mute =
      (runWith taking log client url setting now stop replies).mute := by
  have hwatch := Watch.matches_follow hconsumer client url replies hstart
  have hfailure : failure? (Watch.follow client url other replies (start now stop log')) =
      failure? (Watch.follow client url taking replies (start now stop log)) := by
    unfold failure?
    rw [hwatch.verdict, hwatch.session.state]
  have hover : isOver (Watch.follow client url other replies (start now stop log')) =
      isOver (Watch.follow client url taking replies (start now stop log)) := by
    unfold isOver
    rw [hwatch.verdict]
  dsimp only [Run.mute, runWith]
  rw [hwatch.mute, hwatch.session.state, hwatch.session.now, hfailure, hover]

/-- What the handling of events writes is nothing to the watch, and neither is what was written
before. -/
theorem mute_runWith_silent (log : List Log.Record) :
    (runWith (consumer setting).silent log client url setting now stop replies).mute =
      (run client url setting now stop replies).mute :=
  mute_runWith client url setting now stop replies (consumer setting).matches_silent
    ⟨log, trivial, trivial⟩

theorem areOrdinary_run : AreOrdinary (run client url setting now stop replies).log := by
  have hstart : (start now stop [startRecord now url client.server]).Matches (.since [] [])
      Watcher.IsDrained (start now stop [startRecord now url client.server]) :=
    ⟨_, Pairing.holds_since_nil (Log.areOrdinary_singleton.mpr rfl), rfl⟩
  have hwatch := Watch.matches_follow ((isOrdinary_consumer setting).matches _) client url replies
    hstart
  rw [run_eq_runWith]
  unfold runWith
  generalize Watch.follow client url (consumer setting) replies _ = watch at hwatch ⊢
  have hsession := Pairing.areOrdinary_of_since hwatch.session.log
  have hdrained : watch.session.state.state.Matches (.since [] []) watch.session.state.state :=
    ⟨_, Pairing.holds_since_nil (by rw [hwatch.session.valid]; exact Log.areOrdinary_nil)⟩
  have hstate := Pairing.areOrdinary_of_since
    ((hdrained.wait setting watch.session.now).finish setting).log
  rw [Log.areOrdinary_inOrder, Log.areOrdinary_append, Log.areOrdinary_append]
  refine ⟨⟨hstate, hsession⟩, ?_⟩
  split
  · intro record hmem
    simp only [List.mem_cons, List.not_mem_nil, or_false] at hmem
    rcases hmem with rfl | rfl <;> rfl
  · exact Log.areOrdinary_nil

end Reactor

end ResourceWatch
