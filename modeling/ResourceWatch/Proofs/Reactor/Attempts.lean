import ResourceWatch.Proofs.Clock
import ResourceWatch.Reactor.Attempt

/-!
# A throttled call

What a throttler holds is told by the number of failures in a row: the delays that they used up are
gone from its sequence, and the last of these is the one in use. Of several attempts on a throttler
that are made one after another only the last one goes on, and all that can come of it is told here:
it is given up, or it is made and succeeds, or it fails and its delay is waited out or interrupted.
-/

namespace ResourceWatch

open Throttling

/-! ### Failures in a row -/

namespace Throttler

/-- The delay behind a number of failures in a row; the last one repeats. -/
def delayAfter? (delays : List Number) (failures : Nat) : Option Number :=
  delays[min failures delays.length - 1]?

/-- The throttler behind a number of failures in a row. -/
def after (delays : List Number) (failures : Nat) (activeUntil : Option Number) : Throttler :=
  if failures = 0 then {}
  else ⟨activeUntil, delayAfter? delays failures, some (delays.drop (min failures delays.length))⟩

variable {delays : List Number} {failures : Nat} {active : Option Number} {delay : Number}

theorem exists_delayAfter? (hdelays : delays ≠ []) (failures : Nat) :
    ∃ delay, delayAfter? delays failures = some delay := by
  have hpos := List.length_pos_iff.mpr hdelays
  exact ⟨_, List.getElem?_eq_getElem (by omega)⟩

theorem drop_min (delays : List Number) (failures : Nat) :
    delays.drop (min failures delays.length) = delays.drop failures := by
  by_cases hle : failures ≤ delays.length
  · rw [Nat.min_eq_left hle]
  · have hge := Nat.le_of_not_le hle
    rw [Nat.min_eq_right hge, List.drop_length, List.drop_eq_nil_of_le hge]

theorem pending_after (delays : List Number) (failures : Nat) (active : Option Number) :
    (after delays failures active).pending delays = delays.drop failures := by
  unfold after
  by_cases hzero : failures = 0
  · rw [if_pos hzero, hzero]
    rfl
  · rw [if_neg hzero, pending, Option.getD_some, drop_min]

theorem nextDelay?_after (hdelays : delays ≠ []) (failures : Nat) (active : Option Number) :
    (after delays failures active).nextDelay? delays = delayAfter? delays (failures + 1) := by
  rw [nextDelay?, pending_after, List.head?_drop]
  by_cases hlt : failures < delays.length
  · have hplace : min (failures + 1) delays.length - 1 = failures := by omega
    rw [delayAfter?, hplace, List.getElem?_eq_getElem hlt, Option.some_or]
  · have hpos := List.length_pos_iff.mpr hdelays
    have hnext : min (failures + 1) delays.length = min failures delays.length := by omega
    rw [List.getElem?_eq_none (Nat.le_of_not_lt hlt), Option.none_or, after, if_neg (by omega),
      delayAfter?, delayAfter?, hnext]

theorem failed_after (hdelays : delays ≠ [])
    (hdelay : delayAfter? delays (failures + 1) = some delay) (now : Time) :
    (after delays failures active).failed delays now =
      after delays (failures + 1) (some (Number.add (.ofInt now) delay)) := by
  have htail : (delays.drop failures).tail =
      delays.drop (min (failures + 1) delays.length) := by
    rw [drop_min, List.tail_drop]
  rw [failed, nextDelay?_after hdelays, hdelay, pending_after]
  simp only [after, Nat.succ_ne_zero, if_false, hdelay, htail]

theorem rested_after (delays : List Number) (failures : Nat) (active : Option Number) :
    (after delays failures active).rested = after delays failures none := by
  unfold after
  split <;> rfl

theorem succeeded_after (delays : List Number) (failures : Nat) :
    (after delays failures none).succeeded = after delays 0 none := by
  unfold after
  split <;> rfl

end Throttler

/-! ### What is known of the calls that were made -/

namespace Attempt

/-- When the call itself failed, if it was made. -/
def failedAt? (attempt : Attempt) : Option Time :=
  match attempt.ranAt, attempt.behaviour.duration, attempt.behaviour.failure with
  | some time, some duration, some _ => some (time + duration)
  | _, _, _ => none

/-- Whether the call itself was made and did not fail. -/
def hasSucceeded (attempt : Attempt) : Bool :=
  attempt.ranAt.isSome && attempt.behaviour.failure.isNone

/-- Whether the last wait of a call that is over was interrupted by its stop signal. -/
def isInterrupted (attempt : Attempt) : Bool :=
  match attempt.state with
  | .waiting _ => false
  | .over time succeeded => !succeeded && Clock.reached attempt.stop time

/-- The answer is whether the call itself was made and succeeded. -/
def TellsSuccess (attempt : Attempt) : Prop :=
  ∃ time succeeded, attempt.state = .over time succeeded ∧
    (succeeded = true ↔ attempt.ranAt.isSome ∧ attempt.behaviour.failure = none)

end Attempt

namespace Attempts

/-- The number of failures since the last success. -/
def failures (attempts : List Attempt) : Nat :=
  (attempts.reverse.takeWhile fun attempt => !attempt.hasSucceeded).countP
    fun attempt => attempt.failedAt?.isSome

/-- When the last failure was. -/
def lastFailure? (attempts : List Attempt) : Option Time :=
  (attempts.filterMap Attempt.failedAt?).getLast?

theorem failures_concat (attempts : List Attempt) (attempt : Attempt) :
    failures (attempts ++ [attempt]) =
      if attempt.hasSucceeded then 0
      else if attempt.failedAt?.isSome then failures attempts + 1 else failures attempts := by
  unfold failures
  rw [List.reverse_append, List.reverse_singleton, List.singleton_append, List.takeWhile_cons]
  by_cases hsucceeded : attempt.hasSucceeded = true
  · simp [hsucceeded]
  · simp only [hsucceeded, Bool.not_false, if_true, Bool.false_eq_true, if_false, List.countP_cons]
    split <;> rfl

theorem lastFailure?_concat (attempts : List Attempt) (attempt : Attempt) :
    lastFailure? (attempts ++ [attempt]) = attempt.failedAt?.or (lastFailure? attempts) := by
  unfold lastFailure?
  rw [List.filterMap_append]
  cases hfailed : attempt.failedAt? with
  | none => simp [hfailed]
  | some time => simp [hfailed]

/-- A call that is to be made: how long behind the end of the one before, with which stop signal,
how long it takes, what it fails with, and whether it gives the stop signal itself. -/
structure Errand where
  pause : Nat
  stop : Option Time
  duration : Nat
  failure : Option Thrown
  stops : Bool

namespace Errand

def behaviour (errand : Errand) : Behaviour :=
  ⟨some errand.duration, errand.failure, errand.stops⟩

/-- When its stop signal comes if it runs at a time. -/
def stopFrom (errand : Errand) (time : Time) : Option Time :=
  if errand.stops then Clock.earlier errand.stop (some time) else errand.stop

/-- The attempt at an errand, in some state. -/
def attempt (errand : Errand) (delays : List Number) (calledAt : Time) (stop : Option Time)
    (ranAt : Option Time) (state : Attempt.State) : Attempt :=
  ⟨calledAt, ⟨delays, category⟩, stop, errand.behaviour, ranAt, state⟩

end Errand

section Failure

variable {errand : Errand} {error : Thrown} (hfailure : errand.failure = some error)
  (delays : List Number) (calledAt ranAt : Time) (stop : Option Time) (state : Attempt.State)
include hfailure

theorem Errand.failedAt?_attempt :
    (errand.attempt delays calledAt stop (some ranAt) state).failedAt? =
      some (ranAt + errand.duration) := by
  simp [Attempt.failedAt?, attempt, behaviour, hfailure]

theorem failures_concat_failed (attempts : List Attempt) :
    failures (attempts ++ [errand.attempt delays calledAt stop (some ranAt) state]) =
      failures attempts + 1 := by
  rw [failures_concat, Errand.failedAt?_attempt hfailure]
  simp [Attempt.hasSucceeded, Errand.attempt, Errand.behaviour, hfailure]

end Failure

/-- Makes a throttled call and waits for its end. -/
def perform (delays : List Number) (state : Attempts) (errand : Errand) : Attempts :=
  ((state.wait (state.now + errand.pause)).start ⟨delays, category⟩ errand.stop
    errand.behaviour).waitFor state.attempts.length

/-- Makes throttled calls on a new throttler, one after another. -/
def course (delays : List Number) (now : Time) (errands : List Errand) : Attempts :=
  errands.foldl (perform delays) { now }

/-! ### One call -/

/-- How a wait ends that begins at a time and is due at another one. -/
inductive Waited (stop : Option Time) (throttler : Throttler) (start due : Time) :
    Time → Throttler → Prop where
  | interrupted (time : Time) (hle : start ≤ time) (hstopped : Clock.reached stop time = true) :
      Waited stop throttler start due time throttler
  | rested (hgoing : Clock.reached stop due = false) :
      Waited stop throttler start due due throttler.rested

/-- When a call may be made, by what the throttler says at its beginning. -/
inductive Ready (stop : Option Time) (throttler : Throttler) (now : Time) : Time → Prop where
  | atOnce (hactive : throttler.activeUntil = none) : Ready stop throttler now now
  | rested (due : Number) (hactive : throttler.activeUntil = some due)
      (hgoing : Clock.reached stop (now + Clock.timer (Number.sub due (.ofInt now))) = false) :
      Ready stop throttler now (now + Clock.timer (Number.sub due (.ofInt now)))

/-- All that can come of a throttled call, with the time of its end and the throttler behind it. -/
inductive Called (delays : List Number) (errand : Errand) (now : Time) (throttler : Throttler) :
    Attempt → Time → Throttler → Prop where
  | skipped (time : Time) (hle : now ≤ time) (hactive : throttler.activeUntil.isSome = true)
      (hstopped : Clock.reached errand.stop time = true) :
      Called delays errand now throttler
        (errand.attempt delays now errand.stop none (.over time false)) time throttler
  | succeeded (ranAt : Time) (hready : Ready errand.stop throttler now ranAt)
      (hfailure : errand.failure = none) :
      Called delays errand now throttler
        (errand.attempt delays now (errand.stopFrom ranAt) (some ranAt)
          (.over (ranAt + errand.duration) true))
        (ranAt + errand.duration) throttler.rested.succeeded
  | failed (ranAt time : Time) (error : Thrown) (delay : Number) (next : Throttler)
      (hready : Ready errand.stop throttler now ranAt) (hfailure : errand.failure = some error)
      (hdelay : throttler.rested.nextDelay? delays = some delay)
      (hwaited : Waited (errand.stopFrom ranAt)
        (throttler.rested.failed delays (ranAt + errand.duration)) (ranAt + errand.duration)
        (ranAt + errand.duration + Clock.timer delay) time next) :
      Called delays errand now throttler
        (errand.attempt delays now (errand.stopFrom ranAt) (some ranAt) (.over time false))
        time next

/-- The steps of a state in which only the last attempt goes on. -/
structure Alone (state : Attempts) (before : List Attempt) (attempt : Attempt) : Prop where
  attempts : state.attempts = before ++ [attempt]
  rest : ∀ other ∈ before, other.due? = none

variable {state : Attempts} {before : List Attempt} {attempt : Attempt} {stage : Stage}
  {due now : Time} {delays : List Number} {errand : Errand}

theorem soonest?_of_over (hover : ∀ other ∈ before, other.due? = none) (number : Nat)
    (rest : List Attempt) :
    soonest? number (before ++ rest) = soonest? (number + before.length) rest := by
  induction before generalizing number with
  | nil => rfl
  | cons first others ih =>
      rw [List.cons_append, soonest?, hover first (List.mem_cons_self ..),
        ih fun other hother => hover other (List.mem_cons_of_mem _ hother), List.length_cons,
        Nat.add_right_comm, Nat.add_assoc]
      rfl

theorem Alone.soonest? (halone : state.Alone before attempt) :
    soonest? 0 state.attempts = attempt.due?.map fun due => (due, before.length) := by
  rw [halone.attempts, soonest?_of_over halone.rest, Attempts.soonest?, Attempts.soonest?,
    Nat.zero_add, Clock.sooner_none]

/-- Takes steps until an attempt is over. -/
def advanceUntil (number steps : Nat) (state : Attempts) : Attempts :=
  advanceBy (fun state _ => state.attempts[number]?.any fun attempt => attempt.result?.isSome)
    steps state

theorem Alone.advanceUntil_over (halone : state.Alone before attempt) (hover : attempt.due? = none)
    (number steps : Nat) : advanceUntil number steps state = state := by
  cases steps with
  | zero => rfl
  | succ steps =>
      rw [advanceUntil, advanceBy, halone.soonest?, hover]
      rfl

theorem Alone.advanceUntil_succ (halone : state.Alone before attempt)
    (hstate : attempt.state = .waiting stage) (hdue : stage.due? attempt.stop = some due)
    (steps : Nat) :
    advanceUntil before.length (steps + 1) state =
      advanceUntil before.length steps (state.fire before.length (max state.now due)) := by
  have hattempt : attempt.due? = some due := by rw [Attempt.due?, hstate]; exact hdue
  have hresult : attempt.result? = none := by rw [Attempt.result?, hstate]
  have hplace : state.attempts[before.length]? = some attempt := by
    rw [halone.attempts, List.getElem?_append_right (Nat.le_refl _), Nat.sub_self]
    rfl
  rw [advanceUntil, advanceBy, halone.soonest?, hattempt]
  simp only [Option.map_some, hplace, Option.any_some, hresult, Option.isSome_none,
    Bool.false_eq_true, if_false]
  rfl

theorem Alone.fire (halone : state.Alone before attempt) (hstate : attempt.state = .waiting stage)
    (time : Time) :
    (state.fire before.length time).Alone before (attempt.proceed time
        (attempt.setting.fire attempt.stop state.throttler time stage).next) ∧
      (state.fire before.length time).now = time ∧
      (state.fire before.length time).throttler =
        (attempt.setting.fire attempt.stop state.throttler time stage).throttler := by
  have hplace : state.attempts[before.length]? = some attempt := by
    rw [halone.attempts, List.getElem?_append_right (Nat.le_refl _), Nat.sub_self]
    rfl
  have hset (next : Attempt) : state.attempts.set before.length next = before ++ [next] := by
    rw [halone.attempts, List.set_append_right _ _ (Nat.le_refl _), Nat.sub_self]
    rfl
  simp only [Attempts.fire, hplace, hstate, hset, and_self, and_true]
  exact ⟨rfl, halone.rest⟩

theorem max_min_eq {stop due now : Int} (hle : now ≤ due) (hlt : ¬stop ≤ max now (min stop due)) :
    max now (min stop due) = due := by
  omega

/-- A wait ends when it is due, unless its stop signal has come by then. -/
theorem exists_earlier (stop : Option Time) (hle : now ≤ due) :
    ∃ ended, Clock.earlier stop (some due) = some ended ∧
      (Clock.reached stop (max now ended) = false → max now ended = due) := by
  cases stop with
  | none => exact ⟨due, rfl, fun _ => Int.max_eq_right hle⟩
  | some stop =>
      refine ⟨min stop due, rfl, fun hgoing => ?_⟩
      exact max_min_eq hle (of_decide_eq_false hgoing)

/-- What comes of the last attempt: how it stands, when it is over, and the throttler then. -/
structure Comes (state : Attempts) (before : List Attempt) (attempt : Attempt) (time : Time)
    (throttler : Throttler) : Prop extends Alone state before attempt where
  now : state.now = time
  throttler : state.throttler = throttler

theorem Alone.cool (halone : state.Alone before attempt)
    (hstate : attempt.state = .waiting (.cooling due)) (hle : state.now ≤ due) (steps : Nat) :
    ∃ time next, Waited attempt.stop state.throttler state.now due time next ∧
      (advanceUntil before.length (steps + 1) state).Comes before
        { attempt with state := .over time false } time next := by
  obtain ⟨ended, hended, hdue⟩ := exists_earlier attempt.stop hle
  obtain ⟨hnext, hnow, hthrottler⟩ := halone.fire hstate (max state.now ended)
  rw [halone.advanceUntil_succ hstate hended]
  cases hreached : Clock.reached attempt.stop (max state.now ended) with
  | true =>
      simp only [Setting.fire, hreached, if_true, Attempt.proceed] at hnext hthrottler
      refine ⟨_, _, .interrupted _ (Int.le_max_left _ ended) hreached, ?_⟩
      rw [hnext.advanceUntil_over rfl]
      exact ⟨hnext, hnow, hthrottler⟩
  | false =>
      simp only [Setting.fire, hreached, Bool.false_eq_true, if_false, Attempt.proceed]
        at hnext hthrottler
      have htime := hdue hreached
      rw [htime] at hnext hnow hthrottler hreached ⊢
      refine ⟨_, _, .rested hreached, ?_⟩
      rw [hnext.advanceUntil_over rfl]
      exact ⟨hnext, hnow, hthrottler⟩

theorem Alone.calm (halone : state.Alone before
      (errand.attempt delays now errand.stop none (.waiting (.resting due))))
    (hnow : state.now = now) (hle : now ≤ due) (steps : Nat) :
    (∃ time, now ≤ time ∧ Clock.reached errand.stop time = true ∧
      (advanceUntil before.length (steps + 1) state).Comes before
        (errand.attempt delays now errand.stop none (.over time false)) time state.throttler) ∨
      Clock.reached errand.stop due = false ∧ ∃ next : Attempts, next.Comes before
          (errand.attempt delays now (errand.stopFrom due) (some due)
            (.waiting (.calling (some (due + errand.duration)) errand.failure)))
          due state.throttler.rested ∧
        advanceUntil before.length (steps + 1) state = advanceUntil before.length steps next := by
  obtain ⟨ended, hended, hdue⟩ := exists_earlier errand.stop hle
  obtain ⟨hnext, hlater, hthrottler⟩ := halone.fire rfl (max state.now ended)
  have hsteps := halone.advanceUntil_succ rfl hended steps
  rw [hnow] at hnext hlater hthrottler hsteps
  rw [hsteps]
  cases hreached : Clock.reached errand.stop (max now ended) with
  | true =>
      simp only [Setting.fire, Errand.attempt, hreached, if_true, Attempt.proceed]
        at hnext hthrottler
      refine .inl ⟨_, Int.le_max_left now ended, hreached, ?_⟩
      rw [hnext.advanceUntil_over rfl]
      exact ⟨hnext, hlater, hthrottler⟩
  | false =>
      simp only [Setting.fire, Errand.attempt, hreached, Bool.false_eq_true, if_false,
        Attempt.proceed] at hnext hthrottler
      have htime := hdue hreached
      rw [htime] at hnext hlater hthrottler hreached ⊢
      exact .inr ⟨hreached, _, ⟨hnext, hlater, hthrottler⟩, rfl⟩

theorem Alone.settle {ranAt : Time} {stop : Option Time}
    (halone : state.Alone before (errand.attempt delays now stop (some ranAt)
      (.waiting (.calling (some (ranAt + errand.duration)) errand.failure))))
    (hnow : state.now = ranAt)
    (hdelay : ∃ delay, state.throttler.nextDelay? delays = some delay) (steps : Nat) :
    (errand.failure = none ∧
      (advanceUntil before.length (steps + 2) state).Comes before
        (errand.attempt delays now stop (some ranAt) (.over (ranAt + errand.duration) true))
        (ranAt + errand.duration) state.throttler.succeeded) ∨
      ∃ error delay time next, errand.failure = some error ∧
        state.throttler.nextDelay? delays = some delay ∧
        Waited stop (state.throttler.failed delays (ranAt + errand.duration))
          (ranAt + errand.duration) (ranAt + errand.duration + Clock.timer delay) time next ∧
        (advanceUntil before.length (steps + 2) state).Comes before
          (errand.attempt delays now stop (some ranAt) (.over time false)) time next := by
  obtain ⟨hnext, hlater, hthrottler⟩ := halone.fire rfl (max state.now (ranAt + errand.duration))
  have htime : max state.now (ranAt + errand.duration) = ranAt + errand.duration :=
    hnow ▸ Int.max_eq_right (Int.le_add_of_nonneg_right (Int.natCast_nonneg _))
  rw [htime] at hnext hlater hthrottler
  rw [halone.advanceUntil_succ rfl rfl, htime]
  cases hfailure : errand.failure with
  | none =>
      simp only [hfailure, Setting.fire, Setting.settle, Attempt.proceed] at hnext hthrottler
      refine .inl ⟨rfl, ?_⟩
      rw [hnext.advanceUntil_over rfl]
      exact ⟨hnext, hlater, hthrottler⟩
  | some error =>
      obtain ⟨delay, hdelay⟩ := hdelay
      simp only [hfailure, Setting.fire, Setting.settle, Errand.attempt, hdelay, Attempt.proceed]
        at hnext hthrottler
      have hle : (state.fire before.length (ranAt + errand.duration)).now ≤
          ranAt + errand.duration + Clock.timer delay := by
        rw [hlater]
        exact Int.le_add_of_nonneg_right (Int.natCast_nonneg _)
      obtain ⟨time, next, hwaited, hcomes⟩ := hnext.cool rfl hle steps
      rw [hthrottler, hlater] at hwaited
      exact .inr ⟨error, delay, time, next, rfl, hdelay, hwaited, hcomes⟩

theorem workOf_of_over (hover : ∀ other ∈ before, other.work = 0) (attempt : Attempt) :
    workOf (before ++ [attempt]) = attempt.work := by
  induction before with
  | nil => rfl
  | cons first others ih =>
      rw [List.cons_append, workOf, hover first (List.mem_cons_self ..), Nat.zero_add]
      exact ih fun other hother => hover other (List.mem_cons_of_mem _ hother)

/-- Whether all attempts are over. -/
def AllOver (attempts : List Attempt) : Prop :=
  ∀ attempt ∈ attempts, ∃ time succeeded, attempt.state = .over time succeeded

theorem AllOver.due? (hover : AllOver before) : ∀ attempt ∈ before, attempt.due? = none := by
  intro attempt hattempt
  obtain ⟨time, succeeded, hstate⟩ := hover attempt hattempt
  rw [Attempt.due?, hstate]

theorem AllOver.work (hover : AllOver before) : ∀ attempt ∈ before, attempt.work = 0 := by
  intro attempt hattempt
  obtain ⟨time, succeeded, hstate⟩ := hover attempt hattempt
  rw [Attempt.work, hstate]

theorem wait_of_allOver (hover : AllOver state.attempts) (time : Time) :
    state.wait time = { state with now := time } := by
  have hsoonest : soonest? 0 state.attempts = none := by
    have hnone := soonest?_of_over hover.due? 0 []
    rwa [List.append_nil] at hnone
  have hsteps (isDone : Attempts → Time → Bool) (steps : Nat) :
      advanceBy isDone steps state = state := by
    cases steps with
    | zero => rfl
    | succ steps => rw [advanceBy, hsoonest]
  rw [wait, hsteps]

theorem Alone.run {ranAt : Time} {throttler : Throttler}
    (halone : state.Alone before (errand.attempt delays now (errand.stopFrom ranAt) (some ranAt)
      (.waiting (.calling (some (ranAt + errand.duration)) errand.failure))))
    (hnow : state.now = ranAt) (hready : Ready errand.stop throttler now ranAt)
    (hthrottler : state.throttler = throttler.rested)
    (hdelay : ∃ delay, throttler.rested.nextDelay? delays = some delay) (steps : Nat) :
    ∃ attempt, (advanceUntil before.length (steps + 2) state).attempts = before ++ [attempt] ∧
      Called delays errand now throttler attempt
        (advanceUntil before.length (steps + 2) state).now
        (advanceUntil before.length (steps + 2) state).throttler := by
  have hsettle := halone.settle hnow (hthrottler ▸ hdelay) steps
  rw [hthrottler] at hsettle
  rcases hsettle with ⟨hfailure, hcomes⟩ | ⟨error, delay, time, next, hfailure, hdelay, hwaited,
    hcomes⟩
  · rw [hcomes.attempts, hcomes.now, hcomes.throttler]
    exact ⟨_, rfl, .succeeded ranAt hready hfailure⟩
  · rw [hcomes.attempts, hcomes.now, hcomes.throttler]
    exact ⟨_, rfl, .failed ranAt time error delay next hready hfailure hdelay hwaited⟩

theorem exists_alone (hover : AllOver state.attempts) (delays : List Number) (errand : Errand) :
    ∃ started attempt, attempt = (errand.attempt delays (state.now + errand.pause) errand.stop none
        (.over (state.now + errand.pause) false)).proceed (state.now + errand.pause)
          (Setting.enter state.throttler (state.now + errand.pause)).next ∧
      started.Alone state.attempts attempt ∧ started.now = state.now + errand.pause ∧
      started.throttler = state.throttler ∧
      state.perform delays errand = advanceUntil state.attempts.length attempt.work started := by
  refine ⟨start { state with now := state.now + errand.pause } ⟨delays, category⟩ errand.stop
    errand.behaviour, _, rfl, ⟨rfl, hover.due?⟩, rfl, rfl, ?_⟩
  rw [perform, wait_of_allOver hover, waitFor, work, start]
  simp only [workOf_of_over hover.work]
  rfl

/-- **What comes of a throttled call** that is made when all earlier ones are over. -/
theorem called_perform (hover : AllOver state.attempts)
    (hdelay : ∃ delay, state.throttler.rested.nextDelay? delays = some delay) (errand : Errand) :
    ∃ attempt, (state.perform delays errand).attempts = state.attempts ++ [attempt] ∧
      Called delays errand (state.now + errand.pause) state.throttler attempt
        (state.perform delays errand).now (state.perform delays errand).throttler := by
  obtain ⟨started, attempt, hattempt, halone, hnow, hthrottler, hperform⟩ :=
    exists_alone hover delays errand
  rw [hperform]
  generalize state.now + errand.pause = now at *
  generalize state.attempts = before at halone ⊢
  generalize state.throttler = throttler at *
  cases hactive : throttler.activeUntil with
  | none =>
      -- The call itself is made at once.
      rw [Setting.enter, hactive] at hattempt
      obtain rfl : attempt = errand.attempt delays now (errand.stopFrom now) (some now)
        (.waiting (.calling (some (now + errand.duration)) errand.failure)) := hattempt
      have hrested : started.throttler = throttler.rested := by
        rw [hthrottler, Throttler.rested, ← hactive]
      exact halone.run hnow (.atOnce hactive) hrested hdelay 0
  | some until_ =>
      -- The rest of the throttling comes first, and only then, if it is not cut short, the call.
      have hready : Clock.reached errand.stop
          (now + Clock.timer (Number.sub until_ (.ofInt now))) = false →
          Ready errand.stop throttler now (now + Clock.timer (Number.sub until_ (.ofInt now))) :=
        .rested until_ hactive
      simp only [Setting.enter, hactive] at hattempt
      have hle : now ≤ now + Clock.timer (Number.sub until_ (.ofInt now)) :=
        Int.le_add_of_nonneg_right (Int.natCast_nonneg _)
      generalize now + (Clock.timer (Number.sub until_ (.ofInt now)) : Int) = due at *
      obtain rfl : attempt = errand.attempt delays now errand.stop none
        (.waiting (.resting due)) := hattempt
      have hwork : (errand.attempt delays now errand.stop none (.waiting (.resting due))).work =
          2 + 1 := rfl
      rw [hwork]
      rcases halone.calm hnow hle 2 with ⟨time, hlater, hreached, hcomes⟩ |
        ⟨hreached, next, hcomes, hsteps⟩
      · rw [hcomes.attempts, hcomes.now, hcomes.throttler, hthrottler]
        exact ⟨_, rfl, .skipped time hlater (by rw [hactive]; rfl) hreached⟩
      · have hrested := hcomes.throttler
        rw [hthrottler] at hrested
        rw [hsteps]
        exact hcomes.toAlone.run hcomes.now (hready hreached) hrested hdelay 0

end Attempts

end ResourceWatch
