import ResourceWatch.Client.Call
import ResourceWatch.Proofs.Client.Stopping
import ResourceWatch.Session.Plan

/-!
# What a stream lets go of

A stream takes hold of a timer for its time limit, of a request, and of the body of the response.
However it is over, it holds nothing of this any more: the timer is not left set, the signal of the
request is aborted, and the body is cancelled unless the server has closed it and all of it is read,
or it has failed. What is left of a body is told by the chunks that were read. A stream that waits
forever lets go of nothing, but then it has no time limit.
-/

namespace ResourceWatch

namespace Feed

variable {feed : Feed} {now : Time}

/-- The server has closed the body, and nothing of it is left. -/
structure IsSpent (feed : Feed) (now : Time) : Prop where
  ending : feed.ending = .closed
  chunks : feed.chunks = []
  ended : feed.endTime ≤ now

def HasFailed (feed : Feed) (now : Time) : Prop :=
  ∃ error, feed.ending = .failed error ∧ feed.endTime ≤ now

theorem isExhausted_iff : feed.isExhausted now = true ↔ feed.IsSpent now := by
  unfold isExhausted
  constructor
  · intro hexhausted
    cases hending : feed.ending with
    | closed =>
        simp only [hending, Bool.and_eq_true, decide_eq_true_eq, List.isEmpty_iff] at hexhausted
        exact ⟨hending, hexhausted.2, hexhausted.1⟩
    | failed error => simp [hending] at hexhausted
    | hanging => simp [hending] at hexhausted
  · rintro ⟨hending, hchunks, hover⟩
    simp [hending, hchunks, hover]

theorem failure?_eq_none_iff : feed.failure? now = none ↔ ¬feed.HasFailed now := by
  unfold failure? HasFailed
  cases feed.ending <;> simp

theorem of_answer?_end {time : Time} (hanswer : feed.answer? now none = some (time, .ok none)) :
    feed.ending = .closed ∧ feed.endTime ≤ time := by
  have hending := (answer?_eq_ok hanswer).2 rfl
  refine ⟨hending, ?_⟩
  simp only [answer?, failure?, hending, Option.some.injEq, Prod.mk.injEq, and_true] at hanswer
  rw [← hanswer]
  exact Int.le_max_right _ _

theorem of_answer?_error {next : Option Arrival} {time : Time} {failure : Failure}
    (hanswer : feed.answer? now next = some (time, .error failure)) :
    ∃ error, feed.ending = .failed error ∧ feed.endTime ≤ time ∧ failure = .external error := by
  obtain ⟨error, hending, rfl⟩ := answer?_eq_error hanswer
  refine ⟨error, hending, ?_, rfl⟩
  by_cases hended : feed.endTime ≤ now
  · simp only [answer?, failure?, hending, if_pos hended, Option.some.injEq, Prod.mk.injEq]
      at hanswer
    exact hanswer.1 ▸ hended
  · cases next with
    | some chunk => simp [answer?, failure?, hending, hended] at hanswer
    | none =>
        simp only [answer?, failure?, hending, if_neg hended, Option.some.injEq,
          Prod.mk.injEq] at hanswer
        exact Int.le_of_eq hanswer.1

/-- What is left of a body of which these chunks were read. A last read that gave no chunk may have
taken one as well. -/
structure Leaves (feed : Feed) (chunks : List Arrival) (rest : Feed) : Prop where
  read : chunks.map Arrival.bytes = (feed.chunks.take chunks.length).map Arrival.bytes
  rest : ∃ lost ≤ 1, rest = feed.drop (chunks.length + lost)

end Feed

/-- At this time the signal of the request is aborted, and the body was cancelled if one was read of
which there was something left. -/
structure Exchange.IsReleased (exchange : Exchange) (now : Time) : Prop where
  aborted : exchange.aborted = true
  cancelled : exchange.cancelled = true ↔
    ∃ rest ∈ exchange.body, ¬rest.IsSpent now ∧ ¬rest.HasFailed now

theorem Exchange.isReleased_release (exchange : Exchange) (now : Time) :
    (exchange.release now).IsReleased now where
  aborted := rfl
  cancelled := by
    simp only [release, Option.any_eq_true, Bool.and_eq_true, Bool.not_eq_true',
      ← Bool.not_eq_true, Feed.isExhausted_iff, Option.isNone_iff_eq_none,
      Feed.failure?_eq_none_iff]
    rfl

namespace Client.Stream

variable {σ ρ α : Type}

namespace Run

variable {run : Run σ ρ α}

theorem release_of_pending (hpending : run.verdict = .pending) (url : Text) :
    run.release url = run := by
  simp only [release, hpending]

theorem timer_release (hover : run.verdict ≠ .pending) (url : Text) :
    (run.release url).timer = none := by
  unfold release
  split
  · exact absurd ‹_› hover
  · rfl

theorem exchange_release_of_over (hover : run.verdict ≠ .pending) (url : Text) :
    (run.release url).exchange =
      run.exchange.map (Exchange.release (run.release url).progress.session.now) := by
  unfold release
  split
  · exact absurd ‹_› hover
  · rfl

/-- What is left of a body does not depend on whether it is given up. -/
theorem body_release (run : Run σ ρ α) (url : Text) :
    (run.release url).exchange.bind Exchange.body = run.exchange.bind Exchange.body := by
  unfold release
  split
  · rfl
  · cases run.exchange <;> rfl

end Run

open Progress

namespace Setting

variable {setting : Setting σ ρ α} {feed : Feed} {progress : Progress σ ρ α}
  {rest : List Arrival}

/-- The response is a success, and a reader is taken from its body. -/
structure Opens (setting : Setting σ ρ α) (feed : Feed) : Prop where
  running : setting.start.session.isStopped = false
  sent : setting.request?.isSome = true
  connected : ∃ time response, setting.connect = some (time, .value response) ∧
    response.body = some feed

theorem Opens.reaches (hopens : setting.Opens feed) :
    ∃ progress, setting.Reaches feed progress feed.chunks := by
  obtain ⟨request, hrequest⟩ := Option.isSome_iff_exists.mp hopens.sent
  obtain ⟨time, response, hconnect, hbody⟩ := hopens.connected
  exact ⟨_, .opened request time response hopens.running hrequest hconnect hbody⟩

end Setting

/-! ### What is left of the body -/

theorem Progress.taken_hand (reading : Reading ρ α) (consumer : Consumer σ α)
    (progress : Progress σ ρ α) (lines : List Text) :
    (progress.hand reading consumer lines).1.taken = progress.taken := by
  obtain ⟨memory, session, hhand⟩ := progress.hand_eq reading consumer lines
  rw [hhand]

theorem Progress.taken_settle (progress : Progress σ ρ α) (outcome : Outcome (Option Bytes)) :
    (progress.settle outcome).1.taken = progress.taken := by
  rcases outcome with _ | ⟨time, found | failure | _⟩ <;> rfl

/-- These chunks of a body are not read, and no others are off it than those that were read. -/
structure Progress.Leaves (progress : Progress σ ρ α) (feed : Feed) (rest : List Arrival) :
    Prop where
  read : progress.chunks.map Arrival.bytes =
    (feed.chunks.take progress.chunks.length).map Arrival.bytes
  rest : rest = feed.chunks.drop progress.chunks.length
  taken : progress.taken = progress.chunks.length

namespace Setting

variable {setting : Setting σ ρ α} {feed : Feed} {progress : Progress σ ρ α}
  {rest : List Arrival}

theorem Turn.leaves {after : Progress σ ρ α} {chunk : Arrival} {time : Time}
    {verdict : Option Verdict} (hturn : setting.Turn feed progress chunk time after verdict)
    (hleaves : progress.Leaves feed (chunk :: rest)) : after.Leaves feed rest := by
  have hlength : after.chunks.length = progress.chunks.length + 1 := by simp [hturn.chunks_eq]
  have htake : feed.chunks.take (progress.chunks.length + 1) =
      feed.chunks.take progress.chunks.length ++ [chunk] := by
    rw [List.take_add, ← hleaves.rest]
    rfl
  refine ⟨?_, ?_, ?_⟩
  · rw [hlength, htake, hturn.chunks_eq, List.map_append, List.map_append, hleaves.read]
    rfl
  · rw [hlength, ← List.drop_drop, ← hleaves.rest]
    rfl
  · have htaken := taken_hand setting.reading setting.consumer
      ((progress.begun (some chunk)).receive time chunk.bytes).1
      (progress.buffer.feed chunk.bytes).2
    rw [hturn.handed] at htaken
    rw [hlength]
    exact htaken

section Unread

variable (hchunks : setting.start.chunks = []) (htaken : setting.start.taken = 0)

include hchunks htaken

theorem Reaches.leaves (hreached : setting.Reaches feed progress rest) :
    progress.Leaves feed rest := by
  induction hreached with
  | opened request time response _ _ _ _ =>
      have hnone : ((setting.start.write [announcement setting.start.session.now request]).wait
          time).chunks = [] := hchunks
      exact ⟨by simp [hnone], by simp [hnone], by rw [hnone]; exact htaken⟩
  | turned progress after chunk rest time _ hturn ih => exact hturn.leaves ih

/-- Behind the last point a read may have taken one more chunk, but no two. -/
theorem Closes.leaves {last : Progress σ ρ α} {verdict : Verdict}
    (hcloses : setting.Closes feed last verdict) :
    feed.Leaves last.chunks (feed.drop last.taken) := by
  cases hcloses with
  | halted _ rest hreached =>
      have hleaves := hreached.leaves hchunks htaken
      exact ⟨hleaves.read, 0, by omega, by rw [hleaves.taken, Nat.add_zero]⟩
  | waited progress rest outcome hreached =>
      -- The read that ended the stream had taken the next chunk, if there was one.
      have hleaves := hreached.leaves hchunks htaken
      have hlength : ((progress.begun rest.head?).settle outcome).1.chunks = progress.chunks :=
        settle_chunks _ _
      rw [hlength, taken_settle]
      exact ⟨hleaves.read, _, Bool.toNat_le _, rfl⟩
  | handed progress _ chunk rest time _ hreached hturn =>
      have hleaves := hturn.leaves (hreached.leaves hchunks htaken)
      exact ⟨hleaves.read, 0, by omega, by rw [hleaves.taken, Nat.add_zero]⟩

/-- A stream that is over with its body has read all of it. -/
theorem Closes.isSpent {last : Progress σ ρ α} {verdict : Verdict}
    (hcloses : setting.Closes feed last verdict) (hclosed : verdict = .closed) :
    (feed.drop last.taken).IsSpent last.session.now := by
  cases hcloses with
  | halted => simp at hclosed
  | waited progress rest outcome hreached _ houtcome hover =>
      rcases outcome with _ | ⟨time, found | failure | _⟩
      · simp [settle] at hclosed
      · obtain rfl : found = none := by
          cases found with
          | none => rfl
          | some bytes => exact absurd rfl (hover time bytes)
        have hanswer := Bounds.of_waitFor_value houtcome
        obtain rfl : rest = [] := by
          simpa using (Feed.answer?_eq_ok hanswer).1.symm
        obtain ⟨hending, hover⟩ := Feed.of_answer?_end hanswer
        refine ⟨hending, ?_, hover⟩
        exact (hreached.leaves hchunks htaken).rest.symm
      · simp [settle] at hclosed
      · simp [settle] at hclosed
  | handed progress _ chunk rest time _ _ hturn =>
      subst hclosed
      cases hturn.isHanded

end Unread

/-! ### The whole stream -/

theorem timer_attempt (setting : Setting σ ρ α) :
    setting.attempt.timer = setting.deadline.map Deadline.expiry := by
  simp only [attempt, Stream.attempt]
  split
  · rfl
  · split
    · rfl
    · split
      · rfl
      · rfl
      · rfl
      · split <;> rfl

/-- The timer of a stream that waits forever cannot be set, as it would end the wait. -/
theorem timer_run (setting : Setting σ ρ α) : setting.run.timer = none := by
  by_cases hpending : setting.attempt.verdict = .pending
  · have hverdict : setting.run.verdict = .pending := by
      rw [run_eq_release, Run.verdict_release, hpending]
    rw [run_eq_release, Run.release_of_pending hpending, timer_attempt, (of_pending hverdict).2]
    rfl
  · rw [run_eq_release]
    exact Run.timer_release hpending setting.url

theorem isReleased_run (hover : setting.run.verdict ≠ .pending) :
    ∀ exchange ∈ setting.run.exchange,
      exchange.IsReleased setting.run.progress.session.now := by
  intro exchange hexchange
  rw [run_eq_release, Run.verdict_release] at hover
  rw [run_eq_release, Run.exchange_release_of_over hover] at hexchange
  obtain ⟨sent, -, rfl⟩ := Option.map_eq_some_iff.mp hexchange
  exact sent.isReleased_release _

theorem Opens.body_run (hopens : setting.Opens feed) :
    setting.run.exchange.bind Exchange.body = some (feed.drop setting.run.progress.taken) := by
  obtain ⟨progress, hreached⟩ := hopens.reaches
  obtain ⟨-, request, -, hattempt⟩ := hreached.attempt_eq
  obtain ⟨records, hprogress⟩ := setting.attempt.progress_release setting.url
  have htaken : setting.run.progress.taken = setting.attempt.progress.taken := by
    rw [run_eq_release, hprogress]
    rfl
  rw [htaken, run_eq_release, Run.body_release, hattempt]
  rfl

/-- Nothing is left of a body but where a reader was taken from one. -/
theorem opens_of_body {rest : Feed}
    (hbody : setting.run.exchange.bind Exchange.body = some rest) :
    ∃ feed, setting.Opens feed ∧ rest = feed.drop setting.run.progress.taken := by
  have hopens : ∃ feed, setting.Opens feed := by
    rw [run_eq_release, Run.body_release] at hbody
    cases hrunning : setting.start.session.isStopped with
    | true => simp [attempt, Stream.attempt, hrunning] at hbody
    | false =>
        cases hrequest : setting.request? with
        | none =>
            rw [request?] at hrequest
            simp [attempt, Stream.attempt, hrunning, hrequest] at hbody
        | some request =>
            obtain ⟨records, hattempt⟩ := attempt_of_request hrunning hrequest
            rw [hattempt] at hbody
            rcases hconnect : setting.connect with _ | ⟨time, response | failure | _⟩
            · simp [hconnect] at hbody
            · cases hfound : response.body with
              | none => simp [hconnect, hfound] at hbody
              | some feed =>
                  exact ⟨feed, hrunning, by simp [hrequest], time, response, hconnect, hfound⟩
            · simp [hconnect] at hbody
            · simp [hconnect] at hbody
  obtain ⟨feed, hopens⟩ := hopens
  refine ⟨feed, hopens, ?_⟩
  rw [hopens.body_run, Option.some.injEq] at hbody
  exact hbody.symm

/-- What a stream lets go of. -/
structure Releases (setting : Setting σ ρ α) : Prop where
  /-- When it is over, the signal of its request is aborted, and its body is cancelled if something
  was left of it. -/
  exchange : setting.run.verdict ≠ .pending → ∀ exchange ∈ setting.run.exchange,
    exchange.IsReleased setting.run.progress.session.now
  /-- What was left of the body from which a reader was taken is told by the chunks that were
  read. -/
  body : ∀ feed, setting.Opens feed → ∃ exchange ∈ setting.run.exchange,
    ∃ rest ∈ exchange.body, feed.Leaves setting.run.progress.chunks rest
  /-- Nothing is left of a body that has ended the stream. -/
  closed : setting.run.verdict = .closed → ∀ exchange ∈ setting.run.exchange,
    exchange.cancelled = false
  timer : setting.run.timer = none

theorem Opens.closes (hopens : setting.Opens feed) :
    ∃ last, setting.Closes feed last setting.run.verdict ∧
      setting.run.progress.chunks = last.chunks ∧ setting.run.progress.taken = last.taken ∧
      setting.run.progress.session.now = last.session.now := by
  obtain ⟨progress, hreached⟩ := hopens.reaches
  obtain ⟨last, verdict, hcloses, hrests⟩ := hreached.closes
  obtain ⟨records, hprogress⟩ := hrests.progress
  rw [hrests.verdict, hprogress]
  exact ⟨last, hcloses, rfl, rfl, rfl⟩

/-- **A stream lets go of everything that it took hold of.** -/
theorem releases (hchunks : setting.start.chunks = []) (htaken : setting.start.taken = 0) :
    setting.Releases where
  exchange := isReleased_run
  body := by
    intro feed hopens
    obtain ⟨exchange, hexchange, hrest⟩ := Option.bind_eq_some_iff.mp hopens.body_run
    refine ⟨exchange, hexchange, _, hrest, ?_⟩
    obtain ⟨last, hcloses, hread, hoff, -⟩ := hopens.closes
    rw [hread, hoff]
    exact hcloses.leaves hchunks htaken
  closed := by
    intro hclosed exchange hexchange
    have hreleased := isReleased_run (by simp [hclosed]) exchange hexchange
    rw [← Bool.not_eq_true, hreleased.cancelled]
    rintro ⟨rest, hrest, hleft, -⟩
    obtain ⟨feed, hopens, rfl⟩ := opens_of_body (Option.bind_eq_some_iff.mpr
      ⟨exchange, hexchange, hrest⟩)
    obtain ⟨last, hcloses, -, hoff, hnow⟩ := hopens.closes
    rw [hoff, hnow] at hleft
    exact hleft (hcloses.isSpent hchunks htaken hclosed)
  timer := setting.timer_run

end Setting

/-- The consumer leaves with the first item, and more of the body would have come. -/
example :
    ((run ⟨"http://[::1]", [], none, none, none⟩ records (Plan.consumer { breakAfter := some 1 })
      "/items" [] (some 9) (.response 0 200 (some ⟨[⟨3, [0x31, 0x0A]⟩], 5, .closed⟩))
      { session := { now := 0, stop := none, state := {} }, memory := () }).exchange.map
        fun exchange => (exchange.aborted, exchange.cancelled)) = some (true, true) := by
  decide +kernel

end Client.Stream

/-! ### Calls -/

namespace Client.Call

variable {α : Type}

/-- The timer of a call without an end is not set, as it would end the call. -/
theorem timer_run (client : Client) (now : Time) (method : Method) (url : Text)
    (options : RequestOptions) (timeoutMs : Option Number) (reply : Reply)
    {next : Bounds → Time → Response → Outcome α}
    (hnext : ∀ bounds time response, next bounds time response = none → bounds.deadline = none) :
    (run client now method url options timeoutMs reply next).timer = none := by
  simp only [run]
  generalize Deadline.start? now (timeoutMs.or client.requestTimeoutMs) = deadline
  cases client.build? method url options with
  | none => rfl
  | some request =>
      cases houtcome : (send { deadline } now reply).andThen (next { deadline }) with
      | some found => rfl
      | none =>
          have hdeadline : deadline = none := by
            rcases hsend : send { deadline } now reply with _ | ⟨time, response | failure | _⟩
            · rw [send_eq_cut, Bounds.cut_eq_none_iff] at hsend
              exact hsend.2.1
            · rw [hsend] at houtcome
              exact hnext { deadline } time response houtcome
            · simp [hsend, Outcome.andThen] at houtcome
            · simp [hsend, Outcome.andThen] at houtcome
          rw [hdeadline]
          rfl

theorem timer_list (client : Client) (now : Time) (url : Text) (headers : List (Text × Text))
    (timeoutMs : Option Number) (reply : Reply) :
    (list client now url headers timeoutMs reply).timer = none := by
  simp only [list, get_eq_json, json, check]
  apply timer_run
  intro bounds time response hnone
  rw [Bounds.waitFor_eq_cut, Bounds.cut_eq_none_iff] at hnone
  exact hnone.2.1

end Client.Call

end ResourceWatch
