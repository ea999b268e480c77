import ResourceWatch.Proofs.Client.Bounding
import ResourceWatch.Proofs.Client.Reading

/-!
# The points of a stream

A stream goes from one read of its body to the next. At such a point it has the same to do whatever
led there, so the law of a wait is told for every point that a stream reaches, and a fact about the
whole stream is one that each turn from point to point keeps.
-/

namespace ResourceWatch

theorem Session.isStopped_iff {σ α : Type} {session : Session σ α} :
    session.isStopped = true ↔ ∃ stop ∈ session.stop, stop ≤ session.now := by
  unfold isStopped Clock.reached
  cases session.stop <;> simp

theorem Session.lt_stop {σ α : Type} {session : Session σ α}
    (hrunning : session.isStopped = false) : ∀ stop ∈ session.stop, session.now < stop := by
  intro stop hstop
  apply Int.not_le.mp
  intro hle
  have hstopped := isStopped_iff.mpr ⟨stop, hstop, hle⟩
  simp [hrunning] at hstopped

theorem Feed.le_answer? {feed : Feed} {now : Time} {next : Option Arrival} :
    ∀ found ∈ feed.answer? now next, now ≤ found.1 := by
  intro found hfound
  unfold answer? at hfound
  cases hfailure : feed.failure? now with
  | some error =>
      simp only [hfailure, Option.mem_some_iff] at hfound
      exact hfound ▸ Int.le_refl now
  | none =>
      cases next with
      | some chunk =>
          simp only [hfailure, Option.mem_some_iff] at hfound
          exact hfound ▸ Int.le_max_left _ _
      | none =>
          cases hending : feed.ending with
          | hanging => simp [hfailure, hending] at hfound
          | closed =>
              simp only [hfailure, hending, Option.mem_some_iff] at hfound
              exact hfound ▸ Int.le_max_left _ _
          | failed error =>
              simp only [hfailure, hending, Option.mem_some_iff] at hfound
              subst hfound
              rw [failure?, hending] at hfailure
              simp only [ite_eq_right_iff, reduceCtorEq, imp_false, Int.not_le] at hfailure
              exact Int.le_of_lt hfailure

namespace Client.Stream

variable {σ ρ α : Type}

namespace Progress

/-- A read is begun. -/
def begun (progress : Progress σ ρ α) (next : Option Arrival) : Progress σ ρ α :=
  { progress with
    reads := progress.reads ++ [progress.session.now]
    taken := progress.chunks.length +
      (next.any fun chunk => chunk.time ≤ progress.session.now).toNat }

/-- What comes of a read that is begun. -/
def awaits (progress : Progress σ ρ α) (deadline : Option Deadline) (feed : Feed)
    (next : Option Arrival) : Outcome (Option Bytes) :=
  Bounds.waitFor ⟨progress.session.stop, deadline⟩ progress.session.now
    (feed.answer? progress.session.now next)

variable {progress : Progress σ ρ α}

theorem read_of_running (hrunning : progress.session.isStopped = false)
    (deadline : Option Deadline) (feed : Feed) (next : Option Arrival) :
    progress.read deadline feed next =
      (progress.begun next, progress.awaits deadline feed next) := by
  simp only [read, hrunning, Bool.false_eq_true, if_false]
  rfl

variable {reading : Reading ρ α} {consumer : Consumer σ α} {deadline : Option Deadline}
  {feed : Feed}

theorem follow_of_isStopped (hstopped : progress.session.isStopped = true) (rest : List Arrival) :
    progress.follow reading consumer deadline feed rest = (progress, .stopped) := by
  have hread (next : Option Arrival) :
      progress.read deadline feed next = (progress, some (progress.session.now, .stopped)) := by
    simp only [read, hstopped, if_true]
  cases rest <;> simp only [follow, hread] <;> rfl

/-- A read that gives no chunk is the last one. -/
theorem follow_of_over (hrunning : progress.session.isStopped = false) {rest : List Arrival}
    {outcome : Outcome (Option Bytes)}
    (houtcome : progress.awaits deadline feed rest.head? = outcome)
    (hover : ∀ time bytes, outcome ≠ some (time, .value (some bytes))) :
    progress.follow reading consumer deadline feed rest =
      (progress.begun rest.head?).settle outcome := by
  have hread := read_of_running hrunning deadline feed rest.head?
  rw [houtcome] at hread
  cases rest with
  | nil =>
      rw [List.head?_nil] at hread
      simp only [follow, hread, List.head?_nil]
  | cons chunk rest =>
      rw [List.head?_cons] at hread
      simp only [follow, hread, List.head?_cons]

/-- A chunk is read whose lines are taken in and handed over. -/
theorem follow_of_chunk (hrunning : progress.session.isStopped = false) {chunk : Arrival}
    {time : Time} {bytes : Bytes}
    (houtcome : progress.awaits deadline feed (some chunk) = some (time, .value (some bytes)))
    {after : Progress σ ρ α} {verdict : Option Verdict}
    (hhand : ((progress.begun (some chunk)).receive time bytes).1.hand reading consumer
      (progress.buffer.feed bytes).2 = (after, verdict)) (rest : List Arrival) :
    progress.follow reading consumer deadline feed (chunk :: rest) =
      match verdict with
      | some verdict => (after, verdict)
      | none => after.follow reading consumer deadline feed rest := by
  have hread := read_of_running hrunning deadline feed (some chunk)
  rw [houtcome] at hread
  have hlines : ((progress.begun (some chunk)).receive time bytes).2 =
    (progress.buffer.feed bytes).2 := rfl
  rw [← hlines] at hhand
  simp only [follow, hread, hhand]
  cases verdict <;> rfl

theorem settle_some {time : Time} {ended : Ended (Option Bytes)} :
    (progress.settle (some (time, ended))).1 = progress.wait time := by
  cases ended <;> rfl

theorem reads_hand (reading : Reading ρ α) (consumer : Consumer σ α)
    (progress : Progress σ ρ α) (lines : List Text) :
    (progress.hand reading consumer lines).1.reads = progress.reads := by
  obtain ⟨memory, session, hhand⟩ := progress.hand_eq reading consumer lines
  rw [hhand]

end Progress

open Progress

/-! ### Points -/

/-- All that a stream depends on. -/
structure Setting (σ ρ α : Type) where
  client : Client
  reading : Reading ρ α
  consumer : Consumer σ α
  url : Text
  headers : List (Text × Text)
  timeoutMs : Option Number
  reply : Reply
  start : Progress σ ρ α

namespace Setting

/-- A stream of records that has handed over nothing yet. -/
def ofRecords (client : Client) (consumer : Consumer σ Json) (url : Text)
    (headers : List (Text × Text)) (timeoutMs : Option Number) (reply : Reply) (now : Time)
    (stop : Option Time) (state : σ) : Setting σ Unit Json :=
  ⟨client, records, consumer, url, headers, timeoutMs, reply,
    { session := { now, stop, state }, memory := () }⟩

structure IsOfRecords (setting : Setting σ Unit Json) : Prop where
  reading : setting.reading = records
  fresh : setting.start.IsFresh
  items : setting.start.session.items = []
  reads : setting.start.reads = []

theorem isOfRecords_ofRecords (client : Client) (consumer : Consumer σ Json) (url : Text)
    (headers : List (Text × Text)) (timeoutMs : Option Number) (reply : Reply) (now : Time)
    (stop : Option Time) (state : σ) :
    (ofRecords client consumer url headers timeoutMs reply now stop state).IsOfRecords where
  reading := rfl
  fresh := ⟨rfl, rfl⟩
  items := rfl
  reads := rfl

def run (setting : Setting σ ρ α) : Run σ ρ α :=
  Stream.run setting.client setting.reading setting.consumer setting.url setting.headers
    setting.timeoutMs setting.reply setting.start

def request? (setting : Setting σ ρ α) : Option Request :=
  setting.client.build? .get setting.url { headers := setting.headers }

def deadline (setting : Setting σ ρ α) : Option Deadline :=
  Deadline.start? setting.start.session.now setting.timeoutMs

/-- The stream as it stands before it lets go of everything. -/
def attempt (setting : Setting σ ρ α) : Run σ ρ α :=
  Stream.attempt setting.client setting.reading setting.consumer setting.url setting.headers
    setting.deadline setting.reply setting.start

theorem run_eq_release (setting : Setting σ ρ α) :
    setting.run = setting.attempt.release setting.url := rfl

/-- What comes of the wait for the connection, and for the body of an error. -/
def connect (setting : Setting σ ρ α) : Outcome Response :=
  send ⟨setting.start.session.stop, setting.deadline⟩ setting.start.session.now setting.reply

/-- From one point to the next, or to the end: a chunk is read, and its lines are handed over. -/
structure Turn (setting : Setting σ ρ α) (feed : Feed) (progress : Progress σ ρ α)
    (chunk : Arrival) (time : Time) (after : Progress σ ρ α) (verdict : Option Verdict) :
    Prop where
  running : progress.session.isStopped = false
  read : progress.awaits setting.deadline feed (some chunk) =
    some (time, .value (some chunk.bytes))
  handed : ((progress.begun (some chunk)).receive time chunk.bytes).1.hand setting.reading
    setting.consumer (progress.buffer.feed chunk.bytes).2 = (after, verdict)

/-- The points at which a stream is about to read from a body, with the chunks that it has not read
there. -/
inductive Reaches (setting : Setting σ ρ α) (feed : Feed) :
    Progress σ ρ α → List Arrival → Prop where
  | opened (request : Request) (time : Time) (response : Response)
      (hrunning : setting.start.session.isStopped = false)
      (hrequest : setting.request? = some request)
      (hconnect : setting.connect = some (time, .value response))
      (hbody : response.body = some feed) :
      Reaches setting feed
        ((setting.start.write [announcement setting.start.session.now request]).wait time)
        feed.chunks
  | turned (progress after : Progress σ ρ α) (chunk : Arrival) (rest : List Arrival) (time : Time)
      (hreached : Reaches setting feed progress (chunk :: rest))
      (hturn : setting.Turn feed progress chunk time after none) : Reaches setting feed after rest

end Setting

namespace Run

/-- It is over as this progress stands, but for records in the log. -/
structure Rests (run : Run σ ρ α) (progress : Progress σ ρ α) (verdict : Verdict) : Prop where
  verdict : run.verdict = verdict
  progress : ∃ records, run.progress = progress.write records

/-- It is over for this reason at this time, with these items handed over and these reads begun. -/
structure EndsWith (run : Run σ ρ α) (verdict : Verdict) (time : Time) (items : List (Time × α))
    (reads : List Time) : Prop where
  verdict : run.verdict = verdict
  now : run.progress.session.now = time
  items : run.progress.session.items = items
  reads : run.progress.reads = reads

section Rests

variable {run : Run σ ρ α} {progress : Progress σ ρ α} {verdict : Verdict}
  (hrests : run.Rests progress verdict)

include hrests

theorem Rests.session_eq :
    ∃ records, run.progress.session = progress.session.write records := by
  obtain ⟨records, hprogress⟩ := hrests.progress
  exact ⟨records, by rw [hprogress]; rfl⟩

theorem Rests.stop_eq : run.progress.session.stop = progress.session.stop := by
  obtain ⟨records, hsession⟩ := hrests.session_eq
  rw [hsession]
  rfl

theorem Rests.isStopped_eq : run.progress.session.isStopped = progress.session.isStopped := by
  obtain ⟨records, hsession⟩ := hrests.session_eq
  rw [hsession]
  rfl

theorem Rests.reads_eq : run.progress.reads = progress.reads := by
  obtain ⟨records, hprogress⟩ := hrests.progress
  rw [hprogress]
  rfl

theorem Rests.chunks_eq : run.progress.chunks = progress.chunks := by
  obtain ⟨records, hprogress⟩ := hrests.progress
  rw [hprogress]
  rfl

theorem Rests.endsWith :
    run.EndsWith verdict progress.session.now progress.session.items progress.reads := by
  obtain ⟨records, hsession⟩ := hrests.session_eq
  refine ⟨hrests.verdict, ?_, ?_, hrests.reads_eq⟩ <;> rw [hsession] <;> rfl

theorem Rests.of_verdict {other : Verdict} (hverdict : run.verdict = other) : verdict = other :=
  hrests.verdict.symm.trans hverdict

end Rests

end Run

variable {setting : Setting σ ρ α} {feed : Feed} {progress : Progress σ ρ α}
  {rest : List Arrival}

theorem Setting.connect_eq_cut (setting : Setting σ ρ α) :
    setting.connect = Bounds.cut ⟨setting.start.session.stop, setting.deadline⟩
      setting.start.session.now (send {} setting.start.session.now setting.reply) :=
  send_eq_cut _ _ _

theorem Setting.le_connect {time : Time} {ended : Ended Response}
    (hconnect : setting.connect = some (time, ended)) : setting.start.session.now ≤ time :=
  isAfter_send _ _ _ _ hconnect

theorem Progress.awaits_eq_cut (progress : Progress σ ρ α) (deadline : Option Deadline)
    (feed : Feed) (next : Option Arrival) :
    progress.awaits deadline feed next =
      Bounds.cut ⟨progress.session.stop, deadline⟩ progress.session.now
        (Outcome.ofExcept (feed.answer? progress.session.now next)) := rfl

theorem Progress.le_awaits {deadline : Option Deadline} {next : Option Arrival} {time : Time}
    {ended : Ended (Option Bytes)}
    (hawaits : progress.awaits deadline feed next = some (time, ended)) :
    progress.session.now ≤ time :=
  Bounds.isAfter_cut _ (Outcome.isAfter_ofExcept.mpr Feed.le_answer?) _ hawaits

theorem Run.Rests.of_write {run : Run σ ρ α} {verdict : Verdict} {records : List Log.Record}
    (hrests : run.Rests (progress.write records) verdict) : run.Rests progress verdict where
  verdict := hrests.verdict
  progress := by
    obtain ⟨more, hprogress⟩ := hrests.progress
    refine ⟨records ++ more, ?_⟩
    rw [hprogress]
    simp only [Progress.write, Session.write, List.append_assoc]

theorem Run.rests_self (run : Run σ ρ α) : run.Rests run.progress run.verdict :=
  ⟨rfl, [], by simp [Progress.write, Session.write]⟩

theorem Setting.rests_run {verdict : Verdict} (hrests : setting.attempt.Rests progress verdict) :
    setting.run.Rests progress verdict where
  verdict := by rw [run_eq_release, Run.verdict_release, hrests.verdict]
  progress := by
    obtain ⟨records, hprogress⟩ := hrests.progress
    obtain ⟨more, hreleased⟩ := setting.attempt.progress_release setting.url
    refine ⟨records ++ more, ?_⟩
    rw [run_eq_release, hreleased, hprogress]
    simp only [Progress.write, Session.write, List.append_assoc]

theorem Setting.run_of_isStopped (hstopped : setting.start.session.isStopped = true) :
    setting.run = { timer := none, progress := setting.start, verdict := .stopped } :=
  Stream.run_of_isStopped _ _ _ _ _ _ _ hstopped

theorem Setting.run_of_unbuildable (hrunning : setting.start.session.isStopped = false)
    (hrequest : setting.request? = none) :
    setting.run =
      { timer := none, progress := setting.start, verdict := .failed .unbuildable } :=
  Stream.run_of_unbuildable _ _ _ _ hrunning hrequest

section Connecting

variable {request : Request} (hrunning : setting.start.session.isStopped = false)
  (hrequest : setting.request? = some request)

include hrunning hrequest

theorem Setting.attempt_of_request :
    ∃ records : Time → List Log.Record, setting.attempt =
      let progress := setting.start.write [announcement setting.start.session.now request]
      let exchange : Exchange := { time := setting.start.session.now, request, aborted := false }
      let timer := setting.deadline.map Deadline.expiry
      match setting.connect with
      | none => { exchange := some exchange, timer, progress, verdict := .pending }
      | some (time, .failed failure) =>
        { exchange := some exchange, timer, progress := progress.wait time
          verdict := .failed failure }
      | some (time, .stopped) =>
        { exchange := some exchange
          timer
          progress := (progress.wait time).write (records time)
          verdict := .stopped }
      | some (time, .value response) =>
        match response.body with
        | none =>
          { exchange := some exchange, timer, progress := progress.wait time, verdict := .closed }
        | some feed =>
          let (progress, verdict) := (progress.wait time).follow setting.reading setting.consumer
            setting.deadline feed feed.chunks
          conclude setting.url setting.deadline feed exchange progress verdict := by
  rw [request?] at hrequest
  simp only [attempt, Stream.attempt, hrunning, hrequest, Bool.false_eq_true, if_false]
  exact ⟨_, rfl⟩

theorem Setting.rests_of_silent (hconnect : setting.connect = none) :
    setting.run.Rests setting.start .pending := by
  obtain ⟨records, hattempt⟩ := attempt_of_request hrunning hrequest
  apply rests_run
  rw [hattempt, hconnect]
  exact ⟨rfl, _, rfl⟩

theorem Setting.rests_of_refused {time : Time} {failure : Failure}
    (hconnect : setting.connect = some (time, .failed failure)) :
    setting.run.Rests (setting.start.wait time) (.failed failure) := by
  obtain ⟨records, hattempt⟩ := attempt_of_request hrunning hrequest
  apply rests_run
  rw [hattempt, hconnect]
  exact ⟨rfl, _, rfl⟩

theorem Setting.rests_of_interrupted {time : Time}
    (hconnect : setting.connect = some (time, .stopped)) :
    setting.run.Rests (setting.start.wait time) .stopped := by
  obtain ⟨records, hattempt⟩ := attempt_of_request hrunning hrequest
  apply rests_run
  rw [hattempt, hconnect]
  exact Run.Rests.of_write ⟨rfl, _, rfl⟩

theorem Setting.rests_of_bodiless {time : Time} {response : Response}
    (hconnect : setting.connect = some (time, .value response)) (hbody : response.body = none) :
    setting.run.Rests (setting.start.wait time) .closed := by
  obtain ⟨records, hattempt⟩ := attempt_of_request hrunning hrequest
  apply rests_run
  rw [hattempt, hconnect]
  simp only [hbody]
  exact ⟨rfl, _, rfl⟩

/-- What a stream comes to is told of the whole text that was read. -/
theorem Setting.answered (hfresh : setting.start.IsFresh) :
    setting.run.exchange.map (fun exchange => (exchange.time, exchange.request)) =
        some (setting.start.session.now, request) ∧
      Answered setting.reading setting.deadline setting.reply setting.start setting.run.progress
        setting.run.verdict :=
  answered_run setting.client setting.reading setting.consumer setting.url setting.headers
    setting.timeoutMs setting.reply hfresh hrunning hrequest

end Connecting

/-- **A run goes on from each point that it reaches.** -/
theorem Setting.Reaches.attempt_eq (hreached : setting.Reaches feed progress rest) :
    setting.start.session.isStopped = false ∧ ∃ request, setting.request? = some request ∧
      setting.attempt = conclude setting.url setting.deadline feed
        { time := setting.start.session.now, request, aborted := false }
        (progress.follow setting.reading setting.consumer setting.deadline feed rest).1
        (progress.follow setting.reading setting.consumer setting.deadline feed rest).2 := by
  induction hreached with
  | opened request time response hrunning hrequest hconnect hbody =>
      refine ⟨hrunning, request, hrequest, ?_⟩
      obtain ⟨records, hattempt⟩ := attempt_of_request hrunning hrequest
      rw [hattempt, hconnect]
      simp only [hbody]
  | turned progress after chunk rest time _ hturn ih =>
      rw [follow_of_chunk hturn.running hturn.read hturn.handed] at ih
      exact ih

section Turns

variable {after : Progress σ ρ α} {chunk : Arrival} {time : Time} {verdict : Option Verdict}
  (hturn : setting.Turn feed progress chunk time after verdict)

include hturn

/-- What the consumer has when the lines of a chunk are done with, or one of them ended the
stream. -/
theorem Setting.Turn.isHanded :
    Handed
      (Client.transcript setting.reading progress.memory (progress.buffer.feed chunk.bytes).2)
      progress.session.values after verdict := by
  have hgot := handed_hand setting.reading setting.consumer
    ((progress.begun (some chunk)).receive time chunk.bytes).1 (progress.buffer.feed chunk.bytes).2
  rwa [hturn.handed] at hgot

theorem Setting.Turn.chunks_eq : after.chunks = progress.chunks ++ [⟨time, chunk.bytes⟩] := by
  have hreads := hand_reads setting.reading setting.consumer
    ((progress.begun (some chunk)).receive time chunk.bytes).1 (progress.buffer.feed chunk.bytes).2
  rw [hturn.handed] at hreads
  exact hreads.2

theorem Setting.Turn.reads_eq : after.reads = progress.reads ++ [progress.session.now] := by
  have hreads := reads_hand setting.reading setting.consumer
    ((progress.begun (some chunk)).receive time chunk.bytes).1 (progress.buffer.feed chunk.bytes).2
  rwa [hturn.handed] at hreads

end Turns

theorem Setting.Reaches.rests (hreached : setting.Reaches feed progress rest)
    {last : Progress σ ρ α} {verdict : Verdict}
    (hfollow : progress.follow setting.reading setting.consumer setting.deadline feed rest =
      (last, verdict)) : setting.run.Rests last verdict := by
  obtain ⟨-, request, -, hattempt⟩ := hreached.attempt_eq
  apply Setting.rests_run
  rw [hattempt, hfollow]
  exact ⟨rfl, _, rfl⟩

/-- How the reading of a body is over, and with which progress: at a point where the stream does not
read, or with a read that gives no chunk, or with the lines of a chunk. -/
inductive Setting.Closes (setting : Setting σ ρ α) (feed : Feed) :
    Progress σ ρ α → Verdict → Prop where
  | halted (progress : Progress σ ρ α) (rest : List Arrival)
      (hreached : setting.Reaches feed progress rest)
      (hstopped : progress.session.isStopped = true) : Closes setting feed progress .stopped
  | waited (progress : Progress σ ρ α) (rest : List Arrival) (outcome : Outcome (Option Bytes))
      (hreached : setting.Reaches feed progress rest)
      (hrunning : progress.session.isStopped = false)
      (houtcome : progress.awaits setting.deadline feed rest.head? = outcome)
      (hover : ∀ time bytes, outcome ≠ some (time, .value (some bytes))) :
      Closes setting feed ((progress.begun rest.head?).settle outcome).1
        ((progress.begun rest.head?).settle outcome).2
  | handed (progress after : Progress σ ρ α) (chunk : Arrival) (rest : List Arrival) (time : Time)
      (verdict : Verdict) (hreached : setting.Reaches feed progress (chunk :: rest))
      (hturn : setting.Turn feed progress chunk time after (some verdict)) :
      Closes setting feed after verdict

/-- From each point a stream comes to its last one. -/
theorem Setting.Reaches.closes (hreached : setting.Reaches feed progress rest) :
    ∃ last verdict, setting.Closes feed last verdict ∧ setting.run.Rests last verdict := by
  induction rest generalizing progress with
  | nil =>
      cases hrunning : progress.session.isStopped with
      | true =>
          exact ⟨_, _, .halted progress [] hreached hrunning,
            hreached.rests (follow_of_isStopped hrunning [])⟩
      | false =>
          have hover (time : Time) (bytes : Bytes) :
              progress.awaits setting.deadline feed none ≠ some (time, .value (some bytes)) := by
            intro houtcome
            simpa using (Feed.answer?_eq_ok (Bounds.of_waitFor_value houtcome)).1
          exact ⟨_, _, .waited progress [] _ hreached hrunning rfl hover,
            hreached.rests (follow_of_over hrunning rfl hover)⟩
  | cons chunk rest ih =>
      cases hrunning : progress.session.isStopped with
      | true =>
          exact ⟨_, _, .halted progress _ hreached hrunning,
            hreached.rests (follow_of_isStopped hrunning _)⟩
      | false =>
          by_cases hchunk : ∃ time bytes,
              progress.awaits setting.deadline feed (some chunk) = some (time, .value (some bytes))
          · -- The bytes are those of the next chunk, and its lines tell how it goes on.
            obtain ⟨time, bytes, houtcome⟩ := hchunk
            obtain rfl : bytes = chunk.bytes := by
              simpa using (Feed.answer?_eq_ok (Bounds.of_waitFor_value houtcome)).1
            rcases hhand : ((progress.begun (some chunk)).receive time chunk.bytes).1.hand
              setting.reading setting.consumer (progress.buffer.feed chunk.bytes).2 with
              ⟨after, verdict⟩
            have hturn : setting.Turn feed progress chunk time after verdict :=
              ⟨hrunning, houtcome, hhand⟩
            cases verdict with
            | none => exact ih (.turned progress after chunk rest time hreached hturn)
            | some verdict =>
                exact ⟨_, _, .handed progress after chunk rest time verdict hreached hturn,
                  hreached.rests (follow_of_chunk hrunning houtcome hhand rest)⟩
          · have hover (time : Time) (bytes : Bytes) :
                progress.awaits setting.deadline feed (some chunk) ≠
                  some (time, .value (some bytes)) :=
              fun houtcome => hchunk ⟨time, bytes, houtcome⟩
            exact ⟨_, _, .waited progress _ _ hreached hrunning rfl hover,
              hreached.rests (follow_of_over hrunning rfl hover)⟩

/-- How a stream is over: before its request, or while it waits for the connection, or at the last
of its points, where it does not read or reads no chunk or does not get on with the lines of one. -/
inductive Setting.Finishes (setting : Setting σ ρ α) : Prop where
  | early (hstopped : setting.start.session.isStopped = true)
      (hrests : setting.run.Rests setting.start .stopped)
  | unbuildable (hrunning : setting.start.session.isStopped = false)
      (hrests : setting.run.Rests setting.start (.failed .unbuildable))
  | silent (hrunning : setting.start.session.isStopped = false) (hconnect : setting.connect = none)
      (hrests : setting.run.Rests setting.start .pending)
  | refused (time : Time) (failure : Failure) (hrunning : setting.start.session.isStopped = false)
      (hconnect : setting.connect = some (time, .failed failure))
      (hrests : setting.run.Rests (setting.start.wait time) (.failed failure))
  | interrupted (time : Time) (hrunning : setting.start.session.isStopped = false)
      (hconnect : setting.connect = some (time, .stopped))
      (hrests : setting.run.Rests (setting.start.wait time) .stopped)
  | bodiless (time : Time) (response : Response)
      (hrunning : setting.start.session.isStopped = false)
      (hconnect : setting.connect = some (time, .value response))
      (hrests : setting.run.Rests (setting.start.wait time) .closed)
  | halted (feed : Feed) (progress : Progress σ ρ α) (rest : List Arrival)
      (hreached : setting.Reaches feed progress rest) (hstopped : progress.session.isStopped = true)
      (hrests : setting.run.Rests progress .stopped)
  | waited (feed : Feed) (progress : Progress σ ρ α) (rest : List Arrival)
      (outcome : Outcome (Option Bytes)) (hreached : setting.Reaches feed progress rest)
      (hrunning : progress.session.isStopped = false)
      (houtcome : progress.awaits setting.deadline feed rest.head? = outcome)
      (hover : ∀ time bytes, outcome ≠ some (time, .value (some bytes)))
      (hrests : setting.run.Rests ((progress.begun rest.head?).settle outcome).1
        ((progress.begun rest.head?).settle outcome).2)
  | handed (feed : Feed) (progress after : Progress σ ρ α) (chunk : Arrival)
      (rest : List Arrival) (time : Time) (verdict : Verdict)
      (hreached : setting.Reaches feed progress (chunk :: rest))
      (hturn : setting.Turn feed progress chunk time after (some verdict))
      (hrests : setting.run.Rests after verdict)

theorem Setting.Reaches.finishes (hreached : setting.Reaches feed progress rest) :
    setting.Finishes := by
  obtain ⟨last, verdict, hcloses, hrests⟩ := hreached.closes
  cases hcloses with
  | halted _ rest hlast hstopped => exact .halted feed last rest hlast hstopped hrests
  | waited point rest outcome hlast hrunning houtcome hover =>
      exact .waited feed point rest outcome hlast hrunning houtcome hover hrests
  | handed point _ chunk rest time _ hlast hturn =>
      exact .handed feed point last chunk rest time verdict hlast hturn hrests

/-- **How a stream is over.** -/
theorem Setting.finishes (setting : Setting σ ρ α) : setting.Finishes := by
  cases hrunning : setting.start.session.isStopped with
  | true =>
      refine .early hrunning ?_
      rw [run_of_isStopped hrunning]
      exact Run.rests_self _
  | false =>
      cases hrequest : setting.request? with
      | none =>
          refine .unbuildable hrunning ?_
          rw [run_of_unbuildable hrunning hrequest]
          exact Run.rests_self _
      | some request =>
          rcases hconnect : setting.connect with _ | ⟨time, response | failure | _⟩
          · exact .silent hrunning hconnect (rests_of_silent hrunning hrequest hconnect)
          · cases hbody : response.body with
            | none =>
                exact .bodiless time response hrunning hconnect
                  (rests_of_bodiless hrunning hrequest hconnect hbody)
            | some feed =>
                have hopened := Reaches.opened request time response hrunning hrequest hconnect hbody
                exact hopened.finishes
          · exact .refused time failure hrunning hconnect
              (rests_of_refused hrunning hrequest hconnect)
          · exact .interrupted time hrunning hconnect
              (rests_of_interrupted hrunning hrequest hconnect)

/-- How a stream fails: without a request, with the wait for the connection or for a chunk, or with
a line of a chunk. -/
inductive Setting.Fails (setting : Setting σ ρ α) (failure : Failure) : Prop where
  | unbuildable (hfailure : failure = .unbuildable)
      (hrunning : setting.start.session.isStopped = false)
      (hrests : setting.run.Rests setting.start (.failed failure))
  | connecting (time : Time) (hrunning : setting.start.session.isStopped = false)
      (hconnect : setting.connect = some (time, .failed failure))
      (hrests : setting.run.Rests (setting.start.wait time) (.failed failure))
  | waiting (feed : Feed) (progress : Progress σ ρ α) (rest : List Arrival) (time : Time)
      (hrunning : progress.session.isStopped = false)
      (hawaits : progress.awaits setting.deadline feed rest.head? = some (time, .failed failure))
      (hrests : setting.run.Rests ((progress.begun rest.head?).wait time) (.failed failure))
  | handing (feed : Feed) (progress after : Progress σ ρ α) (chunk : Arrival)
      (rest : List Arrival) (time : Time)
      (hreached : setting.Reaches feed progress (chunk :: rest))
      (hturn : setting.Turn feed progress chunk time after (some (.failed failure)))
      (hrests : setting.run.Rests after (.failed failure))

theorem Setting.fails {failure : Failure} (hverdict : setting.run.verdict = .failed failure) :
    setting.Fails failure := by
  cases setting.finishes with
  | early _ hrests => simpa using hrests.of_verdict hverdict
  | unbuildable hrunning hrests =>
      obtain rfl := Verdict.failed.inj (hrests.of_verdict hverdict)
      exact .unbuildable rfl hrunning hrests
  | silent _ _ hrests => simpa using hrests.of_verdict hverdict
  | refused time failure hrunning hconnect hrests =>
      obtain rfl := Verdict.failed.inj (hrests.of_verdict hverdict)
      exact .connecting time hrunning hconnect hrests
  | interrupted time _ _ hrests => simpa using hrests.of_verdict hverdict
  | bodiless time response _ _ hrests => simpa using hrests.of_verdict hverdict
  | halted feed progress rest _ _ hrests => simpa using hrests.of_verdict hverdict
  | waited feed progress rest outcome hreached hrunning houtcome _ hrests =>
      have hfailed := hrests.of_verdict hverdict
      rcases outcome with _ | ⟨time, found | failure | _⟩
      · simp [settle] at hfailed
      · simp [settle] at hfailed
      · obtain rfl := Verdict.failed.inj hfailed
        exact .waiting feed progress rest time hrunning houtcome hrests
      · simp [settle] at hfailed
  | handed feed progress after chunk rest time verdict hreached hturn hrests =>
      obtain rfl := hrests.of_verdict hverdict
      exact .handing feed progress after chunk rest time hreached hturn hrests

end Client.Stream

end ResourceWatch
