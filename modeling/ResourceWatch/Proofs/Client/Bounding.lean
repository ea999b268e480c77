import ResourceWatch.Proofs.Client.Waiting

/-!
# One bound for a whole operation

An operation that waits several times has one stop signal and one time limit for all of its waits.
It comes out as if it waited without them and were then cut off as a whole: what comes of it is
what would come of it anyway, if that comes first, and else the end that the bound brings.
-/

namespace ResourceWatch

namespace Outcome

variable {α β : Type}

/-- It does not end before `now`. -/
def IsAfter (now : Time) (outcome : Outcome α) : Prop :=
  ∀ found ∈ outcome, now ≤ found.1

theorem isAfter_none (now : Time) : IsAfter now (none : Outcome α) := by
  simp [IsAfter]

theorem isAfter_some {now time : Time} {ended : Ended α} :
    IsAfter now (some (time, ended)) ↔ now ≤ time := by
  simp [IsAfter]

theorem IsAfter.mono {now later : Time} {outcome : Outcome α} (hle : now ≤ later)
    (hafter : IsAfter later outcome) : IsAfter now outcome :=
  fun found hfound => Int.le_trans hle (hafter found hfound)

theorem isAfter_ofExcept {now : Time} {event : Option (Time × Except Failure α)} :
    IsAfter now (ofExcept event) ↔ ∀ found ∈ event, now ≤ found.1 := by
  rcases event with _ | ⟨time, _ | _⟩ <;> simp [IsAfter, ofExcept]

theorem IsAfter.andThen {now : Time} {outcome : Outcome α} {next : Time → α → Outcome β}
    (hafter : IsAfter now outcome)
    (hnext : ∀ time value, now ≤ time → IsAfter time (next time value)) :
    IsAfter now (outcome.andThen next) := by
  rcases outcome with _ | ⟨time, value | failure | _⟩
  · exact isAfter_none now
  · have hle : now ≤ time := isAfter_some.mp hafter
    exact (hnext time value hle).mono hle
  · exact isAfter_some.mpr (isAfter_some.mp hafter)
  · exact isAfter_some.mpr (isAfter_some.mp hafter)

/-- It does not fail with a time limit. -/
def IsTimeless (outcome : Outcome α) : Prop :=
  ∀ time limit, outcome ≠ some (time, .failed (.timedOut limit))

theorem IsTimeless.andThen {outcome : Outcome α} {next : Time → α → Outcome β}
    (houtcome : IsTimeless outcome) (hnext : ∀ time value, IsTimeless (next time value)) :
    IsTimeless (outcome.andThen next) := by
  intro time limit
  rcases outcome with _ | ⟨reached, value | failure | _⟩
  · simp [Outcome.andThen]
  · exact hnext reached value time limit
  · have hne := houtcome time limit
    simpa [Outcome.andThen] using hne
  · simp [Outcome.andThen]

theorem isTimeless_ofExcept {event : Option (Time × Except Failure α)}
    (hevent : ∀ time limit, event ≠ some (time, .error (.timedOut limit))) :
    IsTimeless (ofExcept event) := by
  intro time limit
  rcases event with _ | ⟨reached, failure | value⟩
  · simp [ofExcept]
  · have hne := hevent time limit
    simpa [ofExcept] using hne
  · simp [ofExcept]

end Outcome

namespace Bounds

open Outcome

variable {α β : Type}

/-- What comes of an operation that ends with one of the bounds at the latest. -/
def cut (bounds : Bounds) (now : Time) (outcome : Outcome α) : Outcome α :=
  Clock.sooner (bounds.stop.map fun stop => (max now stop, .stopped))
    (Clock.sooner
      (bounds.deadline.map fun deadline =>
        (max now deadline.expiry, .failed (.timedOut deadline.limit)))
      outcome)

theorem waitFor_eq_cut (bounds : Bounds) (now : Time) (event : Option (Time × Except Failure α)) :
    bounds.waitFor now event = bounds.cut now (ofExcept event) := rfl

/-- No bound has come by this time. -/
structure IsOpen (bounds : Bounds) (time : Time) : Prop where
  stop : ∀ stop ∈ bounds.stop, time < stop
  deadline : ∀ deadline ∈ bounds.deadline, time < deadline.expiry

variable {bounds : Bounds} {now time : Time} {outcome : Outcome α}

theorem IsOpen.mono {later : Time} (hle : now ≤ later) (hopen : bounds.IsOpen later) :
    bounds.IsOpen now where
  stop stop hstop := Int.lt_of_le_of_lt hle (hopen.stop stop hstop)
  deadline deadline hdeadline := Int.lt_of_le_of_lt hle (hopen.deadline deadline hdeadline)

theorem cut_eq_sooner (bounds : Bounds) (now : Time) (outcome : Outcome α) :
    bounds.cut now outcome = Clock.sooner (bounds.cut now none) outcome := by
  simp only [cut, Clock.sooner_none, Clock.sooner_assoc]

/-- Bounds only bring the end of an operation forward. -/
theorem le_of_cut {found : Time × Ended α} (hcut : bounds.cut now outcome = some found) :
    ∀ own ∈ outcome, found.1 ≤ own.1 := by
  rw [cut_eq_sooner] at hcut
  exact (Clock.le_of_sooner hcut).2

/-- The bounds themselves end an operation with the first of them. -/
theorem cut_none_cases (bounds : Bounds) (now : Time) :
    (∃ stop ∈ bounds.stop, bounds.cut now (none : Outcome α) = some (max now stop, .stopped)) ∨
      (∃ deadline ∈ bounds.deadline, bounds.cut now (none : Outcome α) =
        some (max now deadline.expiry, .failed (.timedOut deadline.limit))) ∨
      bounds.cut now (none : Outcome α) = none :=
  bounds.waitFor_cases now none

theorem cut_of_isOpen {ended : Ended α} (hopen : bounds.IsOpen time) :
    bounds.cut now (some (time, ended)) = some (time, ended) := by
  rw [cut_eq_sooner]
  apply Clock.sooner_of_lt
  intro limit hlimit
  rcases bounds.cut_none_cases (α := α) now with
    ⟨stop, hstop, hcut⟩ | ⟨deadline, hdeadline, hcut⟩ | hcut
  · rw [hcut, Option.mem_some_iff] at hlimit
    subst hlimit
    exact Int.lt_of_lt_of_le (hopen.stop stop hstop) (Int.le_max_right _ _)
  · rw [hcut, Option.mem_some_iff] at hlimit
    subst hlimit
    exact Int.lt_of_lt_of_le (hopen.deadline deadline hdeadline) (Int.le_max_right _ _)
  · simp [hcut] at hlimit

/-- A bound that has come ends what does not end before it. -/
theorem exists_cut_none (hnow : now ≤ time) (hopen : ¬bounds.IsOpen time) :
    ∃ limit, bounds.cut now (none : Outcome α) = some limit ∧ limit.1 ≤ time := by
  cases hlimit : bounds.cut now (none : Outcome α) with
  | none =>
      obtain ⟨hstop, hdeadline⟩ := Clock.sooner_eq_none_iff.mp hlimit
      rw [Clock.sooner_none] at hdeadline
      rw [Option.map_eq_none_iff] at hstop hdeadline
      exact absurd ⟨by simp [hstop], by simp [hdeadline]⟩ hopen
  | some limit =>
      rw [cut, Clock.sooner_none] at hlimit
      obtain ⟨hstops, hdeadlines⟩ := Clock.le_of_sooner hlimit
      refine ⟨limit, rfl, Int.not_lt.mp fun hlt => hopen ⟨fun stop hstop => ?_,
        fun deadline hdeadline => ?_⟩⟩
      · have hle : limit.1 ≤ max now stop := hstops _ (Option.mem_map_of_mem _ hstop)
        exact Clock.lt_of_lt_max hnow (Int.lt_of_lt_of_le hlt hle)
      · have hle : limit.1 ≤ max now deadline.expiry :=
          hdeadlines _ (Option.mem_map_of_mem _ hdeadline)
        exact Clock.lt_of_lt_max hnow (Int.lt_of_lt_of_le hlt hle)

theorem cut_of_not_isOpen (hafter : IsAfter now outcome)
    (hopen : ∀ found ∈ outcome, ¬bounds.IsOpen found.1) :
    bounds.cut now outcome = bounds.cut now none := by
  cases outcome with
  | none => rfl
  | some found =>
      obtain ⟨limit, hlimit, hle⟩ :=
        exists_cut_none (α := α) (hafter found rfl) (hopen found rfl)
      rw [cut_eq_sooner, hlimit]
      exact Clock.sooner_of_le (by simpa using hle)

/-- An operation ends by itself before the bounds, or the bounds end it. -/
theorem cut_cases (bounds : Bounds) (hafter : IsAfter now outcome) :
    (∃ found, outcome = some found ∧ bounds.IsOpen found.1 ∧
        bounds.cut now outcome = some found) ∨
      (∀ found ∈ outcome, ¬bounds.IsOpen found.1) ∧
        bounds.cut now outcome = bounds.cut now none := by
  by_cases hopen : ∃ found, outcome = some found ∧ bounds.IsOpen found.1
  · obtain ⟨⟨time, ended⟩, rfl, hopen⟩ := hopen
    exact Or.inl ⟨_, rfl, hopen, cut_of_isOpen hopen⟩
  · have hnot : ∀ found ∈ outcome, ¬bounds.IsOpen found.1 :=
      fun found hfound hfoundOpen => hopen ⟨found, hfound, hfoundOpen⟩
    exact Or.inr ⟨hnot, cut_of_not_isOpen hafter hnot⟩

theorem isAfter_cut (bounds : Bounds) (hafter : IsAfter now outcome) :
    IsAfter now (bounds.cut now outcome) := by
  rcases bounds.cut_cases hafter with ⟨found, rfl, -, hcut⟩ | ⟨-, hcut⟩
  · rwa [hcut]
  · rw [hcut]
    rcases bounds.cut_none_cases (α := α) now with
      ⟨stop, -, hcut⟩ | ⟨deadline, -, hcut⟩ | hcut <;> rw [hcut]
    · exact isAfter_some.mpr (Int.le_max_left _ _)
    · exact isAfter_some.mpr (Int.le_max_left _ _)
    · exact isAfter_none now

theorem cut_eq_none_iff :
    bounds.cut now outcome = none ↔
      bounds.stop = none ∧ bounds.deadline = none ∧ outcome = none := by
  simp only [cut, Clock.sooner_eq_none_iff, Option.map_eq_none_iff]

/-- The stop signal ends what does not end before it. -/
theorem cut_of_le_stop {stop : Time} (hstop : bounds.stop = some stop) (hnow : now ≤ stop)
    (hle : ∀ found ∈ cut { bounds with stop := none } now outcome, stop ≤ found.1) :
    bounds.cut now outcome = some (stop, .stopped) := by
  have hmax : max now stop = stop := Int.max_eq_right hnow
  rw [cut, hstop, Option.map_some, hmax]
  exact Clock.sooner_of_le hle

/-- What ends otherwise ends before the stop signal. -/
theorem lt_stop_of_cut {ended : Ended α} (hcut : bounds.cut now outcome = some (time, ended))
    (hended : ended ≠ .stopped) : ∀ stop ∈ bounds.stop, now < stop → time < stop := by
  intro stop hstop hnow
  rcases Clock.sooner_cases hcut with ⟨hfound, -⟩ | ⟨-, hlt⟩
  · obtain ⟨_, -, heq⟩ := Option.map_eq_some_iff.mp hfound
    exact absurd (Prod.mk.inj heq).2.symm hended
  · have hlater := hlt _ (Option.mem_map_of_mem _ hstop)
    rwa [Int.max_eq_right (Int.le_of_lt hnow)] at hlater

/-- What a value comes of in time comes before the time limit. -/
theorem lt_expiry_of_cut {value : α} (hafter : IsAfter now outcome)
    (hcut : bounds.cut now outcome = some (time, .value value)) :
    ∀ deadline ∈ bounds.deadline, time < deadline.expiry := by
  rcases bounds.cut_cases hafter with ⟨found, -, hopen, hfound⟩ | ⟨-, hnone⟩
  · obtain rfl := Option.some.inj (hfound.symm.trans hcut)
    exact hopen.deadline
  · rcases bounds.cut_none_cases (α := α) now with
      ⟨stop, -, hends⟩ | ⟨deadline, -, hends⟩ | hends <;> simp [hnone, hends] at hcut

/-- The time limit ends what does not end before it, unless the stop signal does. -/
theorem cut_of_le_expiry (bounds : Bounds) {deadline : Deadline}
    (hdeadline : bounds.deadline = some deadline) (hafter : IsAfter now outcome)
    (hle : ∀ found ∈ outcome, deadline.expiry ≤ found.1) :
    (∃ stop ∈ bounds.stop, bounds.cut now outcome = some (max now stop, .stopped)) ∨
      bounds.cut now outcome =
        some (max now deadline.expiry, .failed (.timedOut deadline.limit)) := by
  have hnever : ∀ found ∈ outcome, ¬bounds.IsOpen found.1 := fun found hfound hopen =>
    Int.not_lt.mpr (hle found hfound) (hopen.deadline deadline hdeadline)
  rw [cut_of_not_isOpen hafter hnever]
  rcases bounds.cut_none_cases (α := α) now with hstop | ⟨other, hother, hends⟩ | hends
  · exact Or.inl hstop
  · obtain rfl : other = deadline := Option.some.inj (hother.symm.trans hdeadline)
    exact Or.inr hends
  · rw [cut_eq_none_iff, hdeadline] at hends
    simp at hends

/-- An operation fails with a time limit only when that has run out. -/
theorem of_cut_timedOut {limit : Number} (hafter : IsAfter now outcome)
    (htimeless : IsTimeless outcome)
    (hcut : bounds.cut now outcome = some (time, .failed (.timedOut limit))) :
    ∃ deadline ∈ bounds.deadline, limit = deadline.limit ∧ deadline.expiry ≤ time := by
  rcases bounds.cut_cases hafter with ⟨found, hfound, -, hown⟩ | ⟨-, hnone⟩
  · rw [hown, ← hfound] at hcut
    exact absurd hcut (htimeless time limit)
  · rw [hnone] at hcut
    rcases bounds.cut_none_cases (α := α) now with
      ⟨stop, -, hends⟩ | ⟨deadline, hdeadline, hends⟩ | hends
    · simp [hends] at hcut
    · rw [hends, Option.some.injEq, Prod.mk.injEq, Ended.failed.injEq,
        Failure.timedOut.injEq] at hcut
      obtain ⟨rfl, rfl⟩ := hcut
      exact ⟨deadline, hdeadline, rfl, Int.le_max_right _ _⟩
    · simp [hends] at hcut

/-- The bounds are the same for what begins later, as long as none of them has come. -/
theorem cut_eq_of_isOpen (hnow : now ≤ time) (hopen : bounds.IsOpen time) (outcome : Outcome α) :
    bounds.cut time outcome = bounds.cut now outcome := by
  obtain ⟨stop, deadline⟩ := bounds
  have hmax {bound : Time} (hlt : time < bound) : max time bound = max now bound := by
    rw [Int.max_eq_right (Int.le_of_lt hlt),
      Int.max_eq_right (Int.le_trans hnow (Int.le_of_lt hlt))]
  have hstop : (stop.map fun stop => (max time stop, (Ended.stopped : Ended α))) =
      stop.map fun stop => (max now stop, .stopped) := by
    cases stop with
    | none => rfl
    | some stop => rw [Option.map_some, hmax (hopen.stop stop rfl), Option.map_some]
  have hdeadline : (deadline.map fun deadline =>
      (max time deadline.expiry, (Ended.failed (.timedOut deadline.limit) : Ended α))) =
        deadline.map fun deadline =>
          (max now deadline.expiry, .failed (.timedOut deadline.limit)) := by
    cases deadline with
    | none => rfl
    | some deadline => rw [Option.map_some, hmax (hopen.deadline deadline rfl), Option.map_some]
  rw [cut, cut, hstop, hdeadline]

theorem andThen_cut_none (bounds : Bounds) (now : Time) (next : Time → α → Outcome β) :
    (bounds.cut now none).andThen next = bounds.cut now none := by
  obtain ⟨stop, deadline⟩ := bounds
  rcases stop with _ | stop <;> rcases deadline with _ | deadline
  · rfl
  · rfl
  · rfl
  · simp only [cut, Clock.sooner, Option.map_some]
    split <;> rfl

/-- **Several waits are one.** An operation whose second part is bounded as its first part is, is
bounded as a whole. -/
theorem andThen_cut (hafter : IsAfter now outcome) {next bounded : Time → α → Outcome β}
    (hnext : ∀ time value, now ≤ time → IsAfter time (next time value))
    (hbounded : ∀ time value, now ≤ time → bounds.IsOpen time →
      bounded time value = bounds.cut now (next time value)) :
    (bounds.cut now outcome).andThen bounded = bounds.cut now (outcome.andThen next) := by
  rcases bounds.cut_cases hafter with ⟨⟨time, ended⟩, rfl, hopen, hcut⟩ | ⟨hopen, hcut⟩
  · have hnow : now ≤ time := isAfter_some.mp hafter
    rw [hcut]
    cases ended with
    | value value => exact hbounded time value hnow hopen
    | failed failure => exact (cut_of_isOpen hopen).symm
    | stopped => exact (cut_of_isOpen hopen).symm
  · rw [hcut, andThen_cut_none]
    refine (cut_of_not_isOpen (hafter.andThen hnext) fun found hfound hfoundOpen => ?_).symm
    -- What comes behind an operation that reaches a bound comes behind the bound.
    rcases outcome with _ | ⟨time, value | failure | _⟩
    · simp [andThen] at hfound
    · have hle := hnext time value (isAfter_some.mp hafter) found hfound
      exact hopen _ rfl (hfoundOpen.mono hle)
    · rw [andThen, Option.mem_some_iff] at hfound
      subst hfound
      exact hopen _ rfl hfoundOpen
    · rw [andThen, Option.mem_some_iff] at hfound
      subst hfound
      exact hopen _ rfl hfoundOpen

/-- What is done with a result at once needs no bound. -/
theorem andThen_cut_ofExcept (hafter : IsAfter now outcome) (next : α → Except Failure β) :
    (bounds.cut now outcome).andThen (fun time value => ofExcept (some (time, next value))) =
      bounds.cut now
        (outcome.andThen fun time value => ofExcept (some (time, next value))) := by
  have himmediate (time : Time) (value : α) :
      ∃ ended, ofExcept (some (time, next value)) = some (time, ended) := by
    cases hvalue : next value <;> exact ⟨_, rfl⟩
  apply andThen_cut hafter
  · intro time value _
    obtain ⟨ended, heq⟩ := himmediate time value
    rw [heq]
    exact isAfter_some.mpr (Int.le_refl time)
  · intro time value _ hopen
    obtain ⟨ended, heq⟩ := himmediate time value
    rw [heq, cut_of_isOpen hopen]

end Bounds

/-! ### Requests -/

theorem Reply.le_answer? {reply : Reply} {now : Time} :
    ∀ found ∈ reply.answer? now, now ≤ found.1 := by
  intro found hfound
  cases reply with
  | silent => simp [answer?] at hfound
  | refusal delay error =>
      rw [answer?, Option.mem_some_iff] at hfound
      subst hfound
      exact Int.le_add_of_nonneg_right (Int.natCast_nonneg delay)
  | response delay status body =>
      rw [answer?, Option.mem_some_iff] at hfound
      subst hfound
      exact Int.le_add_of_nonneg_right (Int.natCast_nonneg delay)

theorem Response.le_text? {response : Response} {now : Time} :
    ∀ found ∈ response.text? now, now ≤ found.1 := by
  intro found hfound
  cases hbody : response.body with
  | none =>
      rw [text?, hbody, Option.mem_some_iff] at hfound
      subst hfound
      exact Int.le_refl now
  | some feed =>
      simp only [text?, hbody, Feed.whole?] at hfound
      cases hending : feed.ending with
      | hanging => simp [hending] at hfound
      | closed =>
          simp only [hending, Option.map_some, Option.mem_some_iff] at hfound
          subst hfound
          exact Int.le_max_left _ _
      | failed error =>
          simp only [hending, Option.map_some, Option.mem_some_iff] at hfound
          subst hfound
          exact Int.le_max_left _ _

namespace Client

open Outcome

variable {bounds : Bounds} {now : Time} {reply : Reply}

/-- What comes of a response that is there: itself, or its status with the whole body. -/
def escalate (time : Time) (response : Response) : Outcome Response :=
  if response.isSuccess then some (time, .value response)
  else (ofExcept (response.text? time)).andThen fun time text =>
    some (time, .failed (.api ⟨response.status, Response.payload? text⟩))

theorem send_unbounded (now : Time) (reply : Reply) :
    send {} now reply = (ofExcept (reply.answer? now)).andThen escalate := rfl

theorem isAfter_escalate (time : Time) (response : Response) :
    IsAfter time (escalate time response) := by
  unfold escalate
  split
  · exact isAfter_some.mpr (Int.le_refl time)
  · exact (isAfter_ofExcept.mpr Response.le_text?).andThen fun later _ _ =>
      isAfter_some.mpr (Int.le_refl later)

theorem isAfter_send_unbounded (now : Time) (reply : Reply) : IsAfter now (send {} now reply) :=
  (isAfter_ofExcept.mpr Reply.le_answer?).andThen fun time response _ =>
    isAfter_escalate time response

theorem isTimeless_send (now : Time) (reply : Reply) : IsTimeless (send {} now reply) := by
  intro time limit hsend
  rcases of_send_failed hsend with ⟨_, hdeadline, -⟩ | ⟨_, hfailure, -⟩ | ⟨_, _, hfailure, -⟩
  · simp at hdeadline
  · simp at hfailure
  · simp at hfailure

/-- **The bounds of a request.** They cover the head of a success, and the whole body of any other
response. -/
theorem send_eq_cut (bounds : Bounds) (now : Time) (reply : Reply) :
    send bounds now reply = bounds.cut now (send {} now reply) := by
  rw [send_unbounded, send, Bounds.waitFor_eq_cut]
  apply Bounds.andThen_cut (isAfter_ofExcept.mpr Reply.le_answer?)
  · exact fun time response _ => isAfter_escalate time response
  · intro time response hnow hopen
    rw [escalate]
    split
    · exact (Bounds.cut_of_isOpen hopen).symm
    · rw [← Bounds.cut_eq_of_isOpen hnow hopen, Bounds.waitFor_eq_cut]
      exact Bounds.andThen_cut_ofExcept (isAfter_ofExcept.mpr Response.le_text?) fun text =>
        .error (.api ⟨response.status, Response.payload? text⟩)

theorem isAfter_send (bounds : Bounds) (now : Time) (reply : Reply) :
    IsAfter now (send bounds now reply) := by
  rw [send_eq_cut]
  exact bounds.isAfter_cut (isAfter_send_unbounded now reply)

end Client

end ResourceWatch
