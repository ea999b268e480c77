import ResourceWatch.Log.Date
import ResourceWatch.Proofs.Number.Integers
import ResourceWatch.Proofs.Reactor.Attempts

/-!
# Throttled calls one after another

Behind each call the throttler is what the failures since the last success make of it. It is active
only if the wait for the last delay was interrupted, and then a later call waits for what is left of
it, so that nothing runs before its end.
-/

namespace ResourceWatch.Attempts

open Throttling

variable {state : Attempts} {attempt : Attempt} {now time : Time} {delays : List Number}
  {errand : Errand} {throttler next : Throttler}

theorem Called.behaviour (hcalled : Called delays errand now throttler attempt time next) :
    attempt.behaviour = errand.behaviour := by
  cases hcalled <;> rfl

theorem le_later (time : Time) (duration : Nat) : time ≤ time + duration :=
  Int.le_add_of_nonneg_right (Int.natCast_nonneg _)

theorem Ready.now_le {stop : Option Time} {ranAt : Time}
    (hready : Ready stop throttler now ranAt) : now ≤ ranAt := by
  cases hready with
  | atOnce => exact Int.le_refl _
  | rested => exact le_later _ _

theorem Waited.start_le {stop : Option Time} {start : Time} {delay : Nat}
    (hwaited : Waited stop throttler start (start + delay) time next) : start ≤ time := by
  cases hwaited with
  | interrupted _ hle => exact hle
  | rested => exact le_later _ _

theorem Called.now_le (hcalled : Called delays errand now throttler attempt time next) :
    now ≤ time := by
  cases hcalled with
  | skipped _ hle => exact hle
  | succeeded ranAt hready => exact Int.le_trans hready.now_le (le_later _ _)
  | failed ranAt _ error delay _ hready hfailure hdelay hwaited =>
      calc
        now ≤ ranAt := hready.now_le
        _ ≤ ranAt + errand.duration := le_later _ _
        _ ≤ time := hwaited.start_le

theorem Called.tellsSuccess (hcalled : Called delays errand now throttler attempt time next) :
    attempt.TellsSuccess := by
  cases hcalled with
  | skipped => exact ⟨_, _, rfl, by simp [Errand.attempt]⟩
  | succeeded ranAt hready hfailure =>
      exact ⟨_, _, rfl, by simp [Errand.attempt, Errand.behaviour, hfailure]⟩
  | failed ranAt time error delay next hready hfailure =>
      exact ⟨_, _, rfl, by simp [Errand.attempt, Errand.behaviour, hfailure]⟩

/-- What a throttler is active until, if it is: the end of the delay behind the last failure, the
wait for which was interrupted. -/
structure IsCutShort (delays : List Number) (attempts : List Attempt) (active : Number) : Prop where
  active_eq : ∃ time delay, lastFailure? attempts = some time ∧
    Throttler.delayAfter? delays (failures attempts) = some delay ∧
    active = Number.add (.ofInt time) delay
  interrupted : ∃ last, attempts.getLast? = some last ∧ last.isInterrupted = true

/-- What each call keeps: the throttler is what the failures since the last success make of it. -/
structure IsKept (delays : List Number) (state : Attempts) : Prop where
  settled : AllOver state.attempts
  throttler : ∃ active, state.throttler = Throttler.after delays (failures state.attempts) active ∧
    ∀ until_ ∈ active, IsCutShort delays state.attempts until_

theorem IsKept.exists_nextDelay? (hkept : state.IsKept delays) (hdelays : delays ≠ []) :
    ∃ delay, state.throttler.rested.nextDelay? delays = some delay := by
  obtain ⟨active, hthrottler, -⟩ := hkept.throttler
  rw [hthrottler, Throttler.rested_after, Throttler.nextDelay?_after hdelays]
  exact Throttler.exists_delayAfter? hdelays _

theorem IsKept.called {after : Attempts} (hkept : state.IsKept delays) (hdelays : delays ≠ [])
    (hattempts : after.attempts = state.attempts ++ [attempt]) (hnext : after.throttler = next)
    (hcalled : Called delays errand now state.throttler attempt time next) :
    after.IsKept delays := by
  obtain ⟨active, hthrottler, hactive⟩ := hkept.throttler
  have hover : AllOver after.attempts := by
    obtain ⟨ended, succeeded, hstate, -⟩ := hcalled.tellsSuccess
    rw [hattempts]
    intro other hother
    rcases List.mem_append.mp hother with hold | hnew
    · exact hkept.settled other hold
    · exact List.mem_singleton.mp hnew ▸ ⟨ended, succeeded, hstate⟩
  have hlast : after.attempts.getLast? = some attempt := by
    rw [hattempts, List.getLast?_concat]
  have hfailures := failures_concat state.attempts attempt
  have hlastFailure := lastFailure?_concat state.attempts attempt
  rw [← hattempts] at hfailures hlastFailure
  refine ⟨hover, ?_⟩
  -- A call that is skipped leaves the count of failures, a success resets it, a failure adds one.
  cases hcalled with
  | skipped _ hle _ hstopped =>
      have hsame : failures after.attempts = failures state.attempts := hfailures
      refine ⟨active, ?_, fun until_ huntil => ?_⟩
      · rw [hnext, hsame, hthrottler]
      · obtain ⟨time, delay, htime, hdelay, heq⟩ := (hactive until_ huntil).active_eq
        exact ⟨⟨time, delay, hlastFailure.trans htime, hsame ▸ hdelay, heq⟩, _, hlast, hstopped⟩
  | succeeded ranAt hready hfailure =>
      have hzero : failures after.attempts = 0 := by
        rw [hfailures, Attempt.hasSucceeded, Errand.attempt, Errand.behaviour, hfailure]
        rfl
      refine ⟨none, ?_, by simp⟩
      rw [hnext, hzero, ← Throttler.succeeded_after delays (failures state.attempts),
        ← Throttler.rested_after delays (failures state.attempts) active, ← hthrottler]
  | failed ranAt _ error delay _ hready hfailure hdelay hwaited =>
      have hmore : failures after.attempts = failures state.attempts + 1 := by
        rw [hattempts, failures_concat_failed hfailure]
      have htime : lastFailure? after.attempts = some (ranAt + errand.duration) := by
        rw [hlastFailure, Errand.failedAt?_attempt hfailure, Option.some_or]
      rw [hthrottler, Throttler.rested_after] at hdelay hwaited
      rw [Throttler.nextDelay?_after hdelays] at hdelay
      rw [Throttler.failed_after hdelays hdelay] at hwaited
      rw [hmore, hnext]
      cases hwaited with
      | interrupted _ hle hstopped =>
          refine ⟨_, rfl, fun until_ huntil => ?_⟩
          obtain rfl := Option.mem_some_iff.mp huntil
          exact ⟨⟨_, delay, htime, hmore ▸ hdelay, rfl⟩, _, hlast, hstopped⟩
      | rested hgoing =>
          refine ⟨none, ?_, by simp⟩
          rw [Throttler.rested_after]

theorem IsKept.perform (hkept : state.IsKept delays) (hdelays : delays ≠ []) (errand : Errand) :
    ∃ attempt, (state.perform delays errand).attempts = state.attempts ++ [attempt] ∧
      Called delays errand (state.now + errand.pause) state.throttler attempt
        (state.perform delays errand).now (state.perform delays errand).throttler ∧
      (state.perform delays errand).IsKept delays := by
  obtain ⟨attempt, hattempts, hcalled⟩ :=
    called_perform hkept.settled (hkept.exists_nextDelay? hdelays) errand
  exact ⟨attempt, hattempts, hcalled, hkept.called hdelays hattempts rfl hcalled⟩

theorem isKept_new (delays : List Number) (now : Time) : IsKept delays { now } :=
  ⟨by simp [AllOver], none, rfl, by simp⟩

theorem IsKept.course (hkept : state.IsKept delays) (hdelays : delays ≠ [])
    (errands : List Errand) : (errands.foldl (Attempts.perform delays) state).IsKept delays := by
  induction errands generalizing state with
  | nil => exact hkept
  | cons errand rest ih =>
      obtain ⟨-, -, -, hnext⟩ := hkept.perform hdelays errand
      exact ih hnext

theorem IsKept.now_le_course (hkept : state.IsKept delays) (hdelays : delays ≠ [])
    (errands : List Errand) : state.now ≤ (errands.foldl (Attempts.perform delays) state).now := by
  induction errands generalizing state with
  | nil => exact Int.le_refl _
  | cons errand rest ih =>
      obtain ⟨attempt, -, hcalled, hnext⟩ := hkept.perform hdelays errand
      calc
        state.now ≤ state.now + errand.pause := le_later _ _
        _ ≤ (state.perform delays errand).now := hcalled.now_le
        _ ≤ _ := ih hnext

theorem IsKept.attempts_course (hkept : state.IsKept delays) (hdelays : delays ≠ [])
    (errands : List Errand) :
    ∃ more, (errands.foldl (Attempts.perform delays) state).attempts = state.attempts ++ more ∧
      more.map Attempt.behaviour = errands.map Errand.behaviour ∧
      ∀ attempt ∈ more, attempt.TellsSuccess := by
  induction errands generalizing state with
  | nil => exact ⟨[], (List.append_nil _).symm, rfl, by simp⟩
  | cons errand rest ih =>
      obtain ⟨attempt, hattempts, hcalled, hnext⟩ := hkept.perform hdelays errand
      obtain ⟨more, hmore, hbehaviour, htells⟩ := ih hnext
      refine ⟨attempt :: more, ?_, ?_, ?_⟩
      · rw [List.foldl_cons, hmore, hattempts, List.append_assoc, List.singleton_append]
      · rw [List.map_cons, List.map_cons, hcalled.behaviour, hbehaviour]
      · intro other hother
        rcases List.mem_cons.mp hother with rfl | hother
        · exact hcalled.tellsSuccess
        · exact htells other hother

/-! ### The delays are kept -/

/-- No call is made before the end of the delay behind an earlier failure. -/
def NeverEarly (delays : List Number) (attempts : List Attempt) : Prop :=
  ∀ (failed later : Nat) (attempt next : Attempt) (time ranAt : Time) (delay : Number)
    (whole : Int), failed < later → attempts[failed]? = some attempt →
    attempts[later]? = some next → attempt.failedAt? = some time → next.ranAt = some ranAt →
    Throttler.delayAfter? delays (failures (attempts.take (failed + 1))) = some delay →
    delay.toInt? = some whole → time + whole ≤ ranAt

/-- All delays are whole numbers that a timer takes. -/
def AreWhole (delays : List Number) : Prop :=
  ∀ delay ∈ delays, ∃ whole, delay.toInt? = some whole ∧ 0 ≤ whole ∧ whole ≤ 2147483647

/-- The delays behind all failures are over by a time, which the throttler keeps if it has not come
by now. -/
structure IsBound (delays : List Number) (state : Attempts) (bound : Time) : Prop where
  past : ∀ (place : Nat) (attempt : Attempt) (time : Time) (delay : Number) (whole : Int),
    state.attempts[place]? = some attempt → attempt.failedAt? = some time →
    Throttler.delayAfter? delays (failures (state.attempts.take (place + 1))) = some delay →
    delay.toInt? = some whole → time + whole ≤ bound
  lower : -Date.furthest ≤ bound
  kept : state.throttler.activeUntil = none ∧ bound ≤ state.now ∨
    state.throttler.activeUntil = some (.ofInt bound) ∧ bound ≤ state.now + 2147483647

theorem natAbs_le {time : Int} (hlow : -Date.furthest ≤ time)
    (hhigh : time ≤ Date.furthest + 2147483647) : time.natAbs ≤ 2 ^ 53 := by
  have hbelow : (-8640000000000000 : Int) ≤ time := hlow
  have habove : time ≤ (8640000000000000 : Int) + 2147483647 := hhigh
  omega

/-- A call is not made before the throttler lets it. -/
theorem IsBound.le_of_ready {stop : Option Time} {bound ranAt : Time}
    (hbound : state.IsBound delays bound) (hlow : -Date.furthest ≤ state.now)
    (hnow : state.now ≤ now) (hhigh : now ≤ Date.furthest)
    (hready : Ready stop state.throttler now ranAt) : bound ≤ ranAt := by
  have hlater : bound ≤ now + 2147483647 := by
    rcases hbound.kept with ⟨-, hle⟩ | ⟨-, hle⟩
    · exact Int.le_trans (Int.le_trans hle hnow) (Int.le_add_of_nonneg_right (by decide))
    · exact Int.le_trans hle (Int.add_le_add_right hnow _)
  cases hready with
  | atOnce hactive =>
      rcases hbound.kept with ⟨-, hle⟩ | ⟨hsome, -⟩
      · exact Int.le_trans hle hnow
      · rw [hactive] at hsome
        exact absurd hsome (by simp)
  | rested due hactive =>
      rcases hbound.kept with ⟨hnone, -⟩ | ⟨hsome, -⟩
      · rw [hactive] at hnone
        exact absurd hnone (by simp)
      · obtain rfl : due = .ofInt bound := by rw [hactive] at hsome; exact Option.some.inj hsome
        refine Clock.le_add_timer_sub (natAbs_le hbound.lower ?_) (natAbs_le ?_ ?_) hlater
        · exact Int.le_trans hlater (Int.add_le_add_right hhigh _)
        · exact Int.le_trans hlow hnow
        · exact Int.le_trans hhigh (by decide)

theorem getElem?_concat_cases {attempts : List Attempt} {place : Nat} {found : Attempt}
    (hplace : (attempts ++ [attempt])[place]? = some found) :
    place < attempts.length ∧ attempts[place]? = some found ∨
      place = attempts.length ∧ found = attempt := by
  by_cases hlt : place < attempts.length
  · rw [List.getElem?_append_left hlt] at hplace
    exact .inl ⟨hlt, hplace⟩
  · rw [List.getElem?_append_right (Nat.le_of_not_lt hlt), List.getElem?_singleton] at hplace
    split at hplace
    · rename_i hzero
      exact .inr ⟨by omega, (Option.some.inj hplace).symm⟩
    · simp at hplace

theorem take_concat_of_lt {attempts : List Attempt} {place : Nat} (hlt : place < attempts.length)
    (attempt : Attempt) : (attempts ++ [attempt]).take (place + 1) = attempts.take (place + 1) := by
  rw [List.take_append_of_le_length hlt]

theorem NeverEarly.concat {bound : Time} (hnever : NeverEarly delays state.attempts)
    (hbound : state.IsBound delays bound)
    (hran : ∀ ranAt, attempt.ranAt = some ranAt → bound ≤ ranAt) :
    NeverEarly delays (state.attempts ++ [attempt]) := by
  intro failed later one next time ranAt delay whole hlt hone hnext hfailedAt hranAt hdelay hwhole
  rcases getElem?_concat_cases hnext with ⟨hold, hnext⟩ | ⟨rfl, rfl⟩
  · have hbefore := Nat.lt_trans hlt hold
    rw [List.getElem?_append_left hbefore] at hone
    rw [take_concat_of_lt hbefore] at hdelay
    exact hnever failed later one next time ranAt delay whole hlt hone hnext hfailedAt hranAt hdelay
      hwhole
  · rw [List.getElem?_append_left hlt] at hone
    rw [take_concat_of_lt hlt] at hdelay
    exact Int.le_trans (hbound.past failed one time delay whole hone hfailedAt hdelay hwhole)
      (hran ranAt hranAt)

theorem IsBound.past_concat {bound bound' : Time} (hbound : state.IsBound delays bound)
    (hle : bound ≤ bound')
    (hnew : ∀ time delay whole, attempt.failedAt? = some time →
      Throttler.delayAfter? delays (failures (state.attempts ++ [attempt])) = some delay →
      delay.toInt? = some whole → time + whole ≤ bound')
    (place : Nat) (found : Attempt) (time : Time) (delay : Number) (whole : Int)
    (hplace : (state.attempts ++ [attempt])[place]? = some found)
    (hfailedAt : found.failedAt? = some time)
    (hdelay : Throttler.delayAfter? delays
      (failures ((state.attempts ++ [attempt]).take (place + 1))) = some delay)
    (hwhole : delay.toInt? = some whole) : time + whole ≤ bound' := by
  rcases getElem?_concat_cases hplace with ⟨hlt, hold⟩ | ⟨rfl, rfl⟩
  · rw [take_concat_of_lt hlt] at hdelay
    exact Int.le_trans (hbound.past place found time delay whole hold hfailedAt hdelay hwhole) hle
  · rw [List.take_of_length_le (by simp)] at hdelay
    exact hnew time delay whole hfailedAt hdelay hwhole

/-- Where a failure moves the bound to: the wait for its delay keeps to it, and so does the throttler
if this wait is interrupted. -/
theorem Waited.bound {stop : Option Time} {failures : Nat} {start : Time} {delay : Number}
    {whole : Int} (htoInt : delay.toInt? = some whole) (hmost : whole ≤ 2147483647)
    (hwaited : Waited stop (Throttler.after delays (failures + 1) (some (.ofInt (start + whole))))
      start (start + Clock.timer delay) time next) :
    next.activeUntil = none ∧ start + whole ≤ time ∨
      next.activeUntil = some (.ofInt (start + whole)) ∧ start + whole ≤ time + 2147483647 := by
  cases hwaited with
  | interrupted _ hle hstopped => exact .inr ⟨rfl, Int.add_le_add hle hmost⟩
  | rested hgoing =>
      exact .inl ⟨rfl, Int.add_le_add_left (Clock.le_timer_of_toInt? htoInt hmost) _⟩

theorem IsBound.called {after : Attempts} {bound : Time} (hbound : state.IsBound delays bound)
    (hkept : state.IsKept delays) (hdelays : delays ≠ []) (hwhole : AreWhole delays)
    (hlow : -Date.furthest ≤ state.now) (hnow : state.now ≤ now) (hhigh : time ≤ Date.furthest)
    (hnever : NeverEarly delays state.attempts)
    (hattempts : after.attempts = state.attempts ++ [attempt]) (htime : after.now = time)
    (hnext : after.throttler = next)
    (hcalled : Called delays errand now state.throttler attempt time next) :
    ∃ bound', after.IsBound delays bound' ∧ NeverEarly delays after.attempts := by
  have hran {ranAt : Time} (hready : Ready errand.stop state.throttler now ranAt) :
      bound ≤ ranAt :=
    hbound.le_of_ready hlow hnow (Int.le_trans hcalled.now_le hhigh) hready
  rw [hattempts]
  cases hcalled with
  | skipped _ hle hactive hstopped =>
      refine ⟨bound, ⟨?_, hbound.lower, ?_⟩, hnever.concat hbound (by simp [Errand.attempt])⟩
      · rw [hattempts]
        exact hbound.past_concat (Int.le_refl _) (by simp [Attempt.failedAt?, Errand.attempt])
      · rw [hnext, htime]
        rcases hbound.kept with ⟨hnone, -⟩ | ⟨hsome, hlater⟩
        · rw [hnone] at hactive
          exact absurd hactive (by simp)
        · exact .inr ⟨hsome, Int.le_trans hlater
            (Int.add_le_add_right (Int.le_trans hnow hle) _)⟩
  | succeeded ranAt hready hfailure =>
      refine ⟨bound, ⟨?_, hbound.lower, ?_⟩, hnever.concat hbound ?_⟩
      · rw [hattempts]
        refine hbound.past_concat (Int.le_refl _) ?_
        simp [Attempt.failedAt?, Errand.attempt, Errand.behaviour, hfailure]
      · rw [hnext, htime]
        exact .inl ⟨rfl, Int.le_trans (hran hready) (le_later _ _)⟩
      · exact fun other hother => Option.some.inj hother ▸ hran hready
  | failed ranAt _ error delay _ hready hfailure hdelay hwaited =>
      -- The bound moves on to the end of the delay that this failure takes.
      obtain ⟨active, hthrottler, -⟩ := hkept.throttler
      rw [hthrottler, Throttler.rested_after] at hdelay hwaited
      rw [Throttler.nextDelay?_after hdelays] at hdelay
      obtain ⟨whole, htoInt, hnonneg, hmost⟩ := hwhole delay (List.mem_of_getElem? hdelay)
      have hle : bound ≤ ranAt + errand.duration := Int.le_trans (hran hready) (le_later _ _)
      have hfurther : bound ≤ ranAt + errand.duration + whole :=
        Int.le_trans hle (Int.le_add_of_nonneg_right hnonneg)
      have hsum : Number.add (.ofInt (ranAt + errand.duration)) delay =
          .ofInt (ranAt + errand.duration + whole) := by
        refine Number.add_ofInt (natAbs_le (Int.le_trans hbound.lower hle) ?_) htoInt
        exact Int.le_trans hwaited.start_le (Int.le_trans hhigh (by decide))
      rw [Throttler.failed_after hdelays hdelay, hsum] at hwaited
      refine ⟨ranAt + errand.duration + whole, ⟨?_, Int.le_trans hbound.lower hfurther, ?_⟩,
        hnever.concat hbound fun other hother => Option.some.inj hother ▸ hran hready⟩
      · rw [hattempts]
        refine hbound.past_concat hfurther fun other delay' whole' hother hdelay' htoInt' => ?_
        rw [Errand.failedAt?_attempt hfailure, Option.some.injEq] at hother
        rw [failures_concat_failed hfailure, hdelay, Option.some.injEq] at hdelay'
        subst hother hdelay'
        obtain rfl : whole = whole' := Option.some.inj (htoInt.symm.trans htoInt')
        exact Int.le_refl _
      · rw [hnext, htime]
        exact hwaited.bound htoInt hmost

theorem IsBound.neverEarly_course {bound : Time} (hbound : state.IsBound delays bound)
    (hkept : state.IsKept delays) (hdelays : delays ≠ []) (hwhole : AreWhole delays)
    (hlow : -Date.furthest ≤ state.now) (hnever : NeverEarly delays state.attempts)
    (errands : List Errand)
    (hhigh : (errands.foldl (Attempts.perform delays) state).now ≤ Date.furthest) :
    NeverEarly delays (errands.foldl (Attempts.perform delays) state).attempts := by
  induction errands generalizing state bound with
  | nil => exact hnever
  | cons errand rest ih =>
      obtain ⟨attempt, hattempts, hcalled, hnext⟩ := hkept.perform hdelays errand
      have hnow := le_later state.now errand.pause
      have hlater := Int.le_trans (hnext.now_le_course hdelays rest) hhigh
      obtain ⟨bound', hbound', hnever'⟩ := hbound.called hkept hdelays hwhole hlow hnow hlater
        hnever hattempts rfl rfl hcalled
      refine ih hbound' hnext ?_ hnever' hhigh
      exact Int.le_trans hlow (Int.le_trans hnow hcalled.now_le)

/-- What holds behind throttled calls that were made one after another. -/
structure Throttles (delays : List Number) (errands : List Errand) (state : Attempts) : Prop where
  /-- There is an attempt at each errand. -/
  behaviours : state.attempts.map Attempt.behaviour = errands.map Errand.behaviour
  /-- Each answers whether the call itself was made and succeeded. -/
  answers : ∀ attempt ∈ state.attempts, attempt.TellsSuccess
  /-- A throttler without failures since the last success is empty. -/
  idle : failures state.attempts = 0 → state.throttler = {}
  /-- The delay in use is the one for the number of failures, and those up to it are used up. -/
  used : failures state.attempts ≠ 0 → ∃ delay,
    delays[min (failures state.attempts) delays.length - 1]? = some delay ∧
      state.throttler.lastUsedDelayMs = some delay ∧
      state.throttler.pendingDelaysMs =
        some (delays.drop (min (failures state.attempts) delays.length))
  /-- The throttler is active only up to the end of the delay behind the last failure, and only if
  the last wait was interrupted. -/
  active : ∀ until_ ∈ state.throttler.activeUntil, ∃ time delay,
    lastFailure? state.attempts = some time ∧ state.throttler.lastUsedDelayMs = some delay ∧
      until_ = Number.add (.ofInt time) delay ∧
      ∃ last, state.attempts.getLast? = some last ∧ last.isInterrupted = true

theorem IsKept.throttles {errands : List Errand} (hkept : state.IsKept delays)
    (hdelays : delays ≠ [])
    (hbehaviour : state.attempts.map Attempt.behaviour = errands.map Errand.behaviour)
    (htells : ∀ attempt ∈ state.attempts, attempt.TellsSuccess) :
    state.Throttles delays errands := by
  obtain ⟨active, hthrottler, hactive⟩ := hkept.throttler
  refine ⟨hbehaviour, htells, fun hzero => ?_, fun hsome => ?_, fun until_ huntil => ?_⟩
  · rw [hthrottler, Throttler.after, if_pos hzero]
  · obtain ⟨delay, hdelay⟩ := Throttler.exists_delayAfter? hdelays (failures state.attempts)
    refine ⟨delay, hdelay, ?_⟩
    rw [hthrottler, Throttler.after, if_neg hsome]
    exact ⟨hdelay, rfl⟩
  · rw [hthrottler, Throttler.after] at huntil ⊢
    split at huntil
    · simp at huntil
    · rename_i hsome
      obtain ⟨⟨time, delay, htime, hdelay, heq⟩, hlast⟩ := hactive until_ huntil
      rw [if_neg hsome]
      exact ⟨time, delay, htime, hdelay, heq, hlast⟩

/-- **The law of a throttler.** Behind throttled calls that are made one after another, at any
times and with any stop signals, the throttler holds what the failures since the last success make
of it. A call that is given up before it is made changes nothing. If the delays are whole numbers
that a timer takes, and the clock shows dates, then no call is made before the delay behind an
earlier failure is over. -/
theorem course_throttles (hdelays : delays ≠ []) (now : Time) (errands : List Errand) :
    (course delays now errands).Throttles delays errands ∧
      (∀ errand, ∃ attempt, ((course delays now errands).perform delays errand).attempts =
          (course delays now errands).attempts ++ [attempt] ∧
        (attempt.ranAt = none → ((course delays now errands).perform delays errand).throttler =
          (course delays now errands).throttler)) ∧
      (AreWhole delays → -Date.furthest ≤ now → (course delays now errands).now ≤ Date.furthest →
        NeverEarly delays (course delays now errands).attempts) := by
  have hnew := isKept_new delays now
  have hkept : (course delays now errands).IsKept delays := hnew.course hdelays errands
  refine ⟨?_, fun errand => ?_, fun hwhole hlow hhigh => ?_⟩
  · obtain ⟨more, hmore, hbehaviour, htells⟩ := hnew.attempts_course hdelays errands
    have hattempts : (course delays now errands).attempts = more := hmore
    rw [← hattempts] at hbehaviour htells
    exact hkept.throttles hdelays hbehaviour htells
  · obtain ⟨attempt, hattempts, hcalled, -⟩ := hkept.perform hdelays errand
    refine ⟨attempt, hattempts, fun hran => ?_⟩
    generalize (course delays now errands).perform delays errand = after at hcalled ⊢
    generalize after.now = time, after.throttler = next at hcalled ⊢
    cases hcalled with
    | skipped => rfl
    | succeeded | failed => simp [Errand.attempt] at hran
  · have hbound : IsBound delays { now } now :=
      ⟨by simp, hlow, .inl ⟨rfl, Int.le_refl _⟩⟩
    exact hbound.neverEarly_course hnew hdelays hwhole hlow (by simp [NeverEarly]) errands hhigh

/-- Two failures in a row, of which the second is cut short by the stop signal, a call that is given
up, one that succeeds and one that fails. -/
def troubled : List Errand :=
  [⟨0, none, 5, some (.error "Error" "boom"), false⟩,
    ⟨1, some 20, 0, some (.error "Error" "boom"), false⟩, ⟨2, some 25, 0, none, false⟩,
    ⟨0, none, 3, none, false⟩, ⟨1, none, 0, some (.error "Error" "boom"), true⟩]

theorem course_throttles_troubled :
    [(10 : Number), 20] ≠ [] ∧ (course [10, 20] 0 troubled).Throttles [10, 20] troubled ∧
      NeverEarly [10, 20] (course [10, 20] 0 troubled).attempts := by
  have hdelays : [(10 : Number), 20] ≠ [] := List.cons_ne_nil _ _
  have hwhole : AreWhole [10, 20] := by
    intro delay hdelay
    rcases List.mem_cons.mp hdelay with hten | hdelay
    · rw [hten]
      exact ⟨10, Number.toInt?_ofNat (n := 10) (by decide), by decide, by decide⟩
    · rw [List.mem_singleton.mp hdelay]
      exact ⟨20, Number.toInt?_ofNat (n := 20) (by decide), by decide, by decide⟩
  obtain ⟨hthrottles, -, hnever⟩ := course_throttles hdelays 0 troubled
  exact ⟨hdelays, hthrottles, hnever hwhole (by decide) (by decide +kernel)⟩

end ResourceWatch.Attempts
