import ResourceWatch.Proofs.Client.Expiry
import ResourceWatch.Proofs.Client.Limits
import ResourceWatch.Proofs.Number.Delays
import ResourceWatch.Watch.Reading

/-!
# When calls are given up

A call fails with a time limit at the moment at which the timer for it fires, and with no other one
than its own, or that of its client if it has none. So the limit of a client is kept if a timer keeps
it. A stream does not know the limit of its client.
-/

namespace ResourceWatch.Client

open Outcome

variable {α : Type} {now time : Time} {limit other : Number}

/-- A call has failed with a time limit. -/
def Call.TimesOut (call : Call α) (time : Time) (limit : Number) : Prop :=
  call.outcome = some (time, .failed (.timedOut limit))

/-! ### Calls -/

theorem cut_never (now : Time) (limit : Number) :
    Bounds.cut { deadline := Deadline.start? now (some limit) } now (none : Outcome α) =
      some (now + Clock.timer limit, .failed (.timedOut limit)) := by
  have hmax : max now (now + Clock.timer limit) = now + Clock.timer limit :=
    Int.max_eq_right (Int.le_add_of_nonneg_right (Int.natCast_nonneg _))
  simp only [Bounds.cut, Deadline.start?, Option.map_some, Option.map_none, Clock.sooner, hmax]

theorem Call.IsCut.of_timesOut {call : Call α} {unlimited : Outcome α} {limit : Option Number}
    (hcut : IsCut { deadline := Deadline.start? now limit } now unlimited call)
    (hafter : IsAfter now unlimited) (htimeless : IsTimeless unlimited)
    (htimesOut : call.TimesOut time other) :
    limit = some other ∧ time = now + Clock.timer other := by
  cases hcut with
  | unsent _ houtcome =>
      rw [TimesOut, houtcome] at htimesOut
      cases htimesOut
  | sent exchange _ houtcome =>
      rw [TimesOut, houtcome] at htimesOut
      rcases Bounds.cut_cases { deadline := Deadline.start? now limit } hafter with
        ⟨found, hfound, -, hown⟩ | ⟨-, hnone⟩
      · rw [hown, ← hfound] at htimesOut
        exact absurd htimesOut (htimeless time other)
      · -- The call was cut off, and there is nothing but the limit that could do so.
        rw [hnone] at htimesOut
        cases limit with
        | none => cases htimesOut
        | some limit =>
            rw [cut_never] at htimesOut
            obtain ⟨rfl, hfailed⟩ := Prod.mk.inj (Option.some.inj htimesOut)
            obtain rfl := Failure.timedOut.inj (Ended.failed.inj hfailed)
            exact ⟨rfl, rfl⟩

/-! ### Streams -/

namespace Stream

variable {σ ρ : Type}

/-- A stream fails with a time limit only if that is its own, and not before its timer has fired. -/
def Setting.IsTimed (setting : Setting σ ρ α) : Prop :=
  ∀ limit, setting.run.verdict = .failed (.timedOut limit) →
    setting.timeoutMs = some limit ∧
      setting.start.session.now + Clock.timer limit ≤ setting.run.progress.session.now

theorem Setting.isTimed {setting : Setting σ ρ α}
    (htimeless : IsTimelessReading setting.reading) : setting.IsTimed := by
  intro limit hverdict
  obtain ⟨deadline, hdeadline, hlimit, hle⟩ := expiry_le_of_isTimelessReading htimeless hverdict
  obtain ⟨found, hfound, rfl⟩ := Option.map_eq_some_iff.mp hdeadline
  obtain rfl : limit = found := hlimit
  exact ⟨hfound, hle⟩

end Stream

end ResourceWatch.Client

namespace ResourceWatch.Watch

open Client.Stream

theorem event_ne_timedOut (line : Text) (limit : Number) :
    event line ≠ .error (.timedOut limit) := by
  intro hevent
  simp only [event, bind, Except.bind] at hevent
  cases hrecord : Lines.record line with
  | error failure =>
      rw [hrecord] at hevent
      unfold Lines.record at hrecord
      split at hrecord <;> cases hrecord
      cases hevent
  | ok value =>
      cases hcheck : WatchEvent.check (some value) with
      | error issues =>
          simp only [hrecord, hcheck] at hevent
          cases hevent
      | ok found =>
          simp only [hrecord, hcheck] at hevent
          change (if found.type = .error then _ else _) = _ at hevent
          split at hevent <;> cases hevent

theorem isTimelessReading_events : IsTimelessReading events := by
  intro memory line limit
  have hne := event_ne_timedOut line limit
  cases hevent : event line <;> simp_all [events, Except.map]

theorem isTimelessReading_changes : IsTimelessReading changes := by
  intro memory line limit
  have hne := event_ne_timedOut line limit
  cases hevent : event line <;> simp_all [changes, Except.map]

end ResourceWatch.Watch

namespace ResourceWatch.Client

open Outcome

variable {now time : Time} {limit other : Number}

/-! ### Clients -/

/-- When the calls and streams of a client fail with a time limit, and with which one. -/
structure TimesCalls (client : Client) : Prop where
  request : ∀ now method url options timeoutMs reply time other,
    (Call.request client now method url options timeoutMs reply).TimesOut time other →
    timeoutMs.or client.requestTimeoutMs = some other ∧ time = now + Clock.timer other
  json : ∀ now method url options timeoutMs reply time other,
    (Call.json client now method url options timeoutMs reply).TimesOut time other →
    timeoutMs.or client.requestTimeoutMs = some other ∧ time = now + Clock.timer other
  list : ∀ now url headers timeoutMs reply time other,
    (Call.list client now url headers timeoutMs reply).TimesOut time other →
    timeoutMs.or client.requestTimeoutMs = some other ∧ time = now + Clock.timer other
  records : ∀ (σ : Type) (setting : Stream.Setting σ Unit Json), setting.client = client →
    setting.reading = Stream.records → setting.IsTimed
  events : ∀ (σ : Type) (setting : Stream.Setting σ Unit WatchEvent), setting.client = client →
    setting.reading = Watch.events → setting.IsTimed
  changes : ∀ (σ : Type) (setting : Stream.Setting σ (Option Text) Event),
    setting.client = client → setting.reading = Watch.changes → setting.IsTimed

theorem timesCalls (client : Client) : client.TimesCalls where
  request now method url options timeoutMs reply _ _ htimesOut :=
    (Call.isCut_request client now method url options timeoutMs reply).of_timesOut
      (isAfter_send_unbounded now reply) (isTimeless_send now reply) htimesOut
  json now method url options timeoutMs reply _ _ htimesOut :=
    (Call.isCut_json client now method url options timeoutMs reply).of_timesOut
      (isAfter_record (isAfter_whole now reply))
      ((isTimeless_whole now reply).andThen isTimeless_record) htimesOut
  list now url headers timeoutMs reply _ _ htimesOut := by
    have hafter := isAfter_record (isAfter_whole now reply)
    have htimeless := (isTimeless_whole now reply).andThen isTimeless_record
    refine (Call.isCut_list client now url timeoutMs reply headers).of_timesOut ?_ ?_ htimesOut
    · exact hafter.andThen fun _ _ _ => isAfter_ofExcept.mpr (by simp)
    · exact htimeless.andThen fun time value => isTimeless_checked time _
  records _ _ _ hreading := Stream.Setting.isTimed (hreading ▸ Stream.isTimelessReading_records)
  events _ _ _ hreading := Stream.Setting.isTimed (hreading ▸ Watch.isTimelessReading_events)
  changes _ _ _ hreading := Stream.Setting.isTimed (hreading ▸ Watch.isTimelessReading_changes)

/-! ### The limit of a client -/

/-- Calls without a limit of their own are not given up before that of the client is over. -/
structure KeepsLimit (client : Client) (limit : Number) : Prop where
  request : ∀ now method url options reply time other,
    (Call.request client now method url options none reply).TimesOut time other →
    Clock.Spans (time - now) limit
  json : ∀ now method url options reply time other,
    (Call.json client now method url options none reply).TimesOut time other →
    Clock.Spans (time - now) limit
  list : ∀ now url headers reply time other,
    (Call.list client now url headers none reply).TimesOut time other →
    Clock.Spans (time - now) limit

theorem TimesCalls.keepsLimit {client : Client} (htimes : client.TimesCalls)
    (hlimit : client.requestTimeoutMs = some limit)
    (hspans : Clock.Spans (Clock.timer limit) limit) : client.KeepsLimit limit := by
  have hover {now time : Time} {other : Number}
      (hends : none.or client.requestTimeoutMs = some other ∧ time = now + Clock.timer other) :
      Clock.Spans (time - now) limit := by
    obtain ⟨hother, rfl⟩ := hends
    obtain rfl : limit = other := Option.some.inj (hlimit.symm.trans hother)
    rwa [Int.add_comm, Int.add_sub_cancel]
  constructor
  · intro now method url options reply time other htimesOut
    exact hover (htimes.request now method url options none reply time other htimesOut)
  · intro now method url options reply time other htimesOut
    exact hover (htimes.json now method url options none reply time other htimesOut)
  · intro now url headers reply time other htimesOut
    exact hover (htimes.list now url headers none reply time other htimesOut)

/-- A request that is never answered is given up when the timer fires, however early. -/
theorem timesOut_silent {client : Client} (hlimit : client.requestTimeoutMs = some limit)
    (now : Time) {method : Method} {url : Text} {options : RequestOptions}
    (hbuild : (client.build? method url options).isSome = true) :
    (Call.request client now method url options none .silent).TimesOut (now + Clock.timer limit)
      limit := by
  obtain ⟨request, hrequest⟩ := Option.isSome_iff_exists.mp hbuild
  cases Call.isCut_request client now method url options none .silent with
  | unsent hexchange => simp [Call.request, Call.run, hrequest] at hexchange
  | sent exchange _ houtcome =>
      have hnever : send {} now .silent = none := rfl
      rw [Call.TimesOut, houtcome, hnever, hlimit]
      exact cut_never now limit

end ResourceWatch.Client
