import ResourceWatch.Proofs.Client.Release
import ResourceWatch.Proofs.Watch.Stopping

/-!
# What a run lets go of

A run that follows a collection sends one request after the other. Behind each leg nothing is held
any more: a watch lets go of its request and of the body as its stream does, and no timer is left
set, neither of a watch nor of a listing. The next leg begins when the one before is over, so at no
time are two of them open.
-/

namespace ResourceWatch.Watch

open Client

variable {σ : Type}

/-- The stream of watching a collection once. -/
def setting (client : Client) (consumer : Consumer σ WatchEvent) (url : Text)
    (version : Option Text) (timeoutMs : Option Number) (reply : Reply)
    (session : Session σ WatchEvent) : Stream.Setting σ Unit WatchEvent :=
  ⟨client, events, consumer, address client.watchTimeoutSeconds url version, [], timeoutMs, reply,
    { session, memory := () }⟩

namespace Leg

variable {earlier later : Leg σ}

/-- A request of this leg is sent, and the leg is not over. -/
structure IsOpenAt (time : Time) (leg : Leg σ) : Prop where
  sent : ∃ exchange ∈ leg.exchange, exchange.time ≤ time
  going : leg.verdict = .pending ∨ time < leg.session.now

/-- It is over when the other one sends its request. -/
structure IsBefore (earlier later : Leg σ) : Prop where
  ended : earlier.verdict ≠ .pending
  sent : ∀ exchange ∈ later.exchange, earlier.session.now ≤ exchange.time

theorem IsBefore.not_isOpenAt (hbefore : earlier.IsBefore later) (time : Time) :
    ¬(earlier.IsOpenAt time ∧ later.IsOpenAt time) := by
  rintro ⟨hearlier, hlater⟩
  obtain ⟨exchange, hexchange, hsent⟩ := hlater.sent
  have hlt : time < earlier.session.now := hearlier.going.resolve_left hbefore.ended
  have hle := hbefore.sent exchange hexchange
  exact absurd (Int.lt_of_lt_of_le hlt hle) (Int.not_lt.mpr hsent)

/-- The leg is a watch that is over as this stream is. -/
structure EndsAs (leg : Leg σ) (stream : Stream.Run σ (Option Text) Event) : Prop where
  exchange : leg.exchange = stream.exchange
  timer : leg.timer = stream.timer
  chunks : leg.chunks = stream.progress.chunks
  now : leg.session.now = stream.progress.session.now
  verdict : leg.verdict = stream.verdict

end Leg

namespace Course

variable {course : Course σ} {phase : Phase} {session : Session σ Event} {left : List Reply}
  {legs : List (Leg σ)} {version : Option Text}

theorem endsAs_leg (course : Course σ) (version : Option Text) (session : Session σ Event)
    (left : List Reply) :
    (course.leg (.watching version) session left).EndsAs
      (course.stream version session left).run := by
  obtain ⟨records, hleg⟩ := course.watch_eq version session left
  rw [hleg]
  exact ⟨rfl, rfl, rfl, rfl, rfl⟩

theorem releases_stream (course : Course σ) (version : Option Text) (session : Session σ Event)
    (left : List Reply) : (course.stream version session left).Releases :=
  Stream.Setting.releases rfl rfl

theorem timer_leg (course : Course σ) (phase : Phase) (session : Session σ Event)
    (left : List Reply) : (course.leg phase session left).timer = none := by
  cases phase with
  | listing =>
      obtain ⟨after, verdict, next, hlist⟩ := list_eq course.client course.url course.consumer
        (left.head?.getD .unscripted) session
      rw [leg, Watch.leg, hlist]
      exact Call.timer_list ..
  | watching version =>
      rw [(course.endsAs_leg version session left).timer]
      exact Stream.Setting.timer_run _

/-- Behind a leg that is never over nothing comes. -/
theorem not_pending_of_next {next : Phase}
    (hnext : (course.leg phase session left).next = some next) :
    (course.leg phase session left).verdict ≠ .pending := by
  intro hpending
  cases phase with
  | listing =>
      have hlisted := listed_list course.client course.url course.consumer
        (left.head?.getD .unscripted) session
      have hleg : list course.client course.url course.consumer (left.head?.getD .unscripted)
        session = course.leg .listing session left := rfl
      rw [hleg] at hlisted
      cases hlisted with
      | listed _ _ _ hverdict => simp [hverdict] at hpending
      | left _ _ _ _ hverdict => simp [hverdict] at hpending
      | failed _ _ _ hverdict => simp [hverdict] at hpending
      | pending _ _ hnone => simp [hnone] at hnext
  | watching version =>
      obtain ⟨records, hleg⟩ := course.watch_eq version session left
      rw [hleg] at hnext hpending
      simp only at hnext hpending
      simp [hpending, nextOf] at hnext

theorem le_now_leg (course : Course σ) (phase : Phase) (left : List Reply)
    (hrunning : session.isStopped = false) :
    session.now ≤ (course.leg phase session left).session.now :=
  (precedes_leg (Session.precedes_now hrunning) course phase left).now

/-- Between two requests all legs are over. -/
structure AreOver (legs : List (Leg σ)) (session : Session σ Event) : Prop where
  verdict : ∀ leg ∈ legs, leg.verdict ≠ .pending
  now : ∀ leg ∈ legs, leg.session.now ≤ session.now
  apart : legs.Pairwise Leg.IsBefore

theorem AreOver.pairwise_append (hover : AreOver legs session) (course : Course σ) (phase : Phase)
    (left : List Reply) : (legs ++ [course.leg phase session left]).Pairwise Leg.IsBefore := by
  rw [List.pairwise_append]
  refine ⟨hover.apart, by simp, ?_⟩
  intro earlier hearlier later hlater
  obtain rfl := List.mem_singleton.mp hlater
  refine ⟨hover.verdict earlier hearlier, ?_⟩
  intro exchange hexchange
  rw [time_of_exchange hexchange]
  exact hover.now earlier hearlier

theorem Stands.areOver (hstands : course.Stands phase session left legs) :
    AreOver legs session := by
  induction hstands with
  | begins => exact ⟨by simp, by simp, by simp⟩
  | goesOn phase next session reply left legs _ hrunning hnext ih =>
      have hle := course.le_now_leg phase (reply :: left) hrunning
      refine ⟨?_, ?_, ih.pairwise_append course phase (reply :: left)⟩
      · intro leg hmem
        rcases List.mem_append.mp hmem with hmem | hmem
        · exact ih.verdict leg hmem
        · obtain rfl := List.mem_singleton.mp hmem
          exact not_pending_of_next hnext
      · intro leg hmem
        rcases List.mem_append.mp hmem with hmem | hmem
        · exact Int.le_trans (ih.now leg hmem) hle
        · obtain rfl := List.mem_singleton.mp hmem
          exact Int.le_refl _

/-- Each leg is one for the phase in which the run stands there. -/
theorem Stands.exists_leg (hstands : course.Stands phase session left legs) :
    ∀ leg ∈ legs, ∃ phase session left before, course.Stands phase session left before ∧
      leg = course.leg phase session left := by
  induction hstands with
  | begins => simp
  | goesOn phase next session reply left legs hstands _ _ ih =>
      intro leg hmem
      rcases List.mem_append.mp hmem with hmem | hmem
      · exact ih leg hmem
      · exact ⟨phase, session, reply :: left, legs, hstands, List.mem_singleton.mp hmem⟩

theorem exists_leg (course : Course σ) :
    ∀ leg ∈ course.run.legs, ∃ phase session left before,
      course.Stands phase session left before ∧ leg = course.leg phase session left := by
  cases course.finishes with
  | halted phase session left legs hstands _ hrun =>
      rw [hrun]
      exact hstands.exists_leg
  | ended phase session left legs hstands _ hrun =>
      rw [hrun]
      intro leg hmem
      rcases List.mem_append.mp hmem with hmem | hmem
      · exact hstands.exists_leg leg hmem
      · exact ⟨phase, session, left, legs, hstands, List.mem_singleton.mp hmem⟩

/-- What a run lets go of. -/
structure Releases (course : Course σ) : Prop where
  /-- A watch lets go of what its stream has taken hold of. -/
  watches : ∀ leg ∈ course.run.legs, leg.phase ≠ .listing → ∃ version session left before,
    course.Stands (.watching version) session left before ∧
      leg = course.leg (.watching version) session left ∧
      leg.EndsAs (course.stream version session left).run ∧
      (course.stream version session left).Releases
  /-- When a watch is over, the signal of its request is aborted, and its body is cancelled if
  something was left of it. -/
  exchanges : ∀ leg ∈ course.run.legs, leg.phase ≠ .listing → leg.verdict ≠ .pending →
    ∀ exchange ∈ leg.exchange, exchange.IsReleased leg.session.now
  timers : ∀ leg ∈ course.run.legs, leg.timer = none
  /-- With the run all its legs are over. -/
  ended : course.run.verdict ≠ .pending → ∀ leg ∈ course.run.legs, leg.verdict ≠ .pending
  /-- Each leg is over when a later one sends its request. -/
  apart : course.run.legs.Pairwise Leg.IsBefore
  /-- No two legs are open at once. -/
  alone : ∀ time, course.run.legs.Pairwise fun earlier later =>
    ¬(earlier.IsOpenAt time ∧ later.IsOpenAt time)

theorem pairwise_isBefore (course : Course σ) : course.run.legs.Pairwise Leg.IsBefore := by
  cases course.finishes with
  | halted phase session left legs hstands _ hrun =>
      rw [hrun]
      exact hstands.areOver.apart
  | ended phase session left legs hstands _ hrun =>
      rw [hrun]
      exact hstands.areOver.pairwise_append course phase left

theorem over_of_run (course : Course σ) (hover : course.run.verdict ≠ .pending) :
    ∀ leg ∈ course.run.legs, leg.verdict ≠ .pending := by
  cases course.finishes with
  | halted phase session left legs hstands _ hrun =>
      rw [hrun]
      exact hstands.areOver.verdict
  | ended phase session left legs hstands _ hrun =>
      rw [hrun] at hover ⊢
      intro leg hmem
      rcases List.mem_append.mp hmem with hmem | hmem
      · exact hstands.areOver.verdict leg hmem
      · obtain rfl := List.mem_singleton.mp hmem
        exact hover

/-- **A run lets go of everything that it took hold of.** -/
theorem releases (course : Course σ) : course.Releases where
  watches := by
    intro leg hmem hphase
    obtain ⟨phase, session, left, before, hstands, rfl⟩ := course.exists_leg leg hmem
    cases phase with
    | listing => exact absurd (course.phase_leg session left) hphase
    | watching version =>
        exact ⟨version, session, left, before, hstands, rfl,
          course.endsAs_leg version session left, course.releases_stream version session left⟩
  exchanges := by
    intro leg hmem hphase hover exchange hexchange
    obtain ⟨phase, session, left, before, -, rfl⟩ := course.exists_leg leg hmem
    cases phase with
    | listing => exact absurd (course.phase_leg session left) hphase
    | watching version =>
        have hends := course.endsAs_leg version session left
        rw [hends.verdict] at hover
        rw [hends.exchange] at hexchange
        rw [hends.now]
        exact Stream.Setting.isReleased_run hover exchange hexchange
  timers := by
    intro leg hmem
    obtain ⟨phase, session, left, before, -, rfl⟩ := course.exists_leg leg hmem
    exact course.timer_leg phase session left
  ended := course.over_of_run
  apart := course.pairwise_isBefore
  alone := by
    intro time
    exact course.pairwise_isBefore.imp fun hbefore => hbefore.not_isOpenAt time

end Course

/-- **Everything is let go of.** This goes for a stream of records, for watching a collection once
and for following it, whatever ends them. -/
theorem streams_release :
    (∀ (σ : Type) (client : Client) (consumer : Consumer σ Json) (url : Text)
      (headers : List (Text × Text)) (timeoutMs : Option Number) (reply : Reply) (now : Time)
      (stop : Option Time) (state : σ),
      (Stream.Setting.ofRecords client consumer url headers timeoutMs reply now stop
        state).Releases) ∧
    (∀ (σ : Type) (client : Client) (consumer : Consumer σ WatchEvent) (url : Text)
      (version : Option Text) (timeoutMs : Option Number) (reply : Reply)
      (session : Session σ WatchEvent),
      Watch.run client consumer url version timeoutMs reply session =
          (setting client consumer url version timeoutMs reply session).run ∧
        (setting client consumer url version timeoutMs reply session).Releases) ∧
    ∀ (σ : Type) (course : Course σ), course.Releases := by
  refine ⟨?_, ?_, ?_⟩
  · intro σ client consumer url headers timeoutMs reply now stop state
    exact Stream.Setting.releases rfl rfl
  · intro σ client consumer url version timeoutMs reply session
    exact ⟨rfl, Stream.Setting.releases rfl rfl⟩
  · intro σ course
    exact course.releases

end ResourceWatch.Watch
