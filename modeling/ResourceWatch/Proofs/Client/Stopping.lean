import ResourceWatch.Proofs.Client.Points
import ResourceWatch.Proofs.Client.Records

/-!
# How a stream stops

The stop signal ends the wait that it comes in, whatever else would end it later. While the consumer
holds an item nothing is waited for, and the signal is seen at the next point, behind the lines of
the chunk. So nothing is begun behind the signal, and nothing that comes behind it tells the end.
-/

namespace ResourceWatch

namespace Session

variable {σ α : Type} {session : Session σ α} {time : Time}

/-- A time that has come and is not behind the stop signal. -/
structure Precedes (time : Time) (session : Session σ α) : Prop where
  now : time ≤ session.now
  stop : ∀ stop ∈ session.stop, time ≤ stop

theorem precedes_now (hrunning : session.isStopped = false) : Precedes session.now session where
  now := Int.le_refl session.now
  stop stop hstop := Int.le_of_lt (lt_stop hrunning stop hstop)

theorem Precedes.wait (hprecedes : Precedes time session) {later : Time}
    (hle : session.now ≤ later) : Precedes time (session.wait later) where
  now := Int.le_trans hprecedes.now hle
  stop := hprecedes.stop

theorem Precedes.write (hprecedes : Precedes time session) (records : List Log.Record) :
    Precedes time (session.write records) where
  now := hprecedes.now
  stop := hprecedes.stop

/-- A consumer cannot give the signal for a time that has gone by. -/
theorem Precedes.offer (hprecedes : Precedes time session) (consumer : Consumer σ α) (value : α) :
    Precedes time (session.offer consumer value) where
  now := Int.le_trans hprecedes.now (Int.le_add_of_nonneg_right (Int.natCast_nonneg _))
  stop := by
    intro stop hstop
    cases hstopped : session.isStopped with
    | true =>
        simp only [Session.offer, hstopped, if_pos] at hstop
        exact hprecedes.stop stop hstop
    | false =>
        simp only [Session.offer, hstopped, Bool.false_eq_true, if_false] at hstop
        obtain ⟨found, -, rfl⟩ := Option.map_eq_some_iff.mp hstop
        exact Int.le_trans hprecedes.now (Int.le_max_left _ _)

theorem Precedes.offerAll (hprecedes : Precedes time session) (consumer : Consumer σ α)
    (values : List α) : Precedes time (session.offerAll consumer values) := by
  induction values generalizing session with
  | nil => exact hprecedes
  | cons value rest ih =>
      rw [Session.offerAll]
      split
      · exact hprecedes.offer consumer value
      · exact ih (hprecedes.offer consumer value)

/-- A wait that something else ends is over before the stop signal. -/
theorem isStopped_wait_of_cut (hrunning : session.isStopped = false)
    {deadline : Option Deadline} {β : Type} {outcome : Outcome β} {ended : Ended β}
    (hcut : Bounds.cut ⟨session.stop, deadline⟩ session.now outcome = some (time, ended))
    (hended : ended ≠ .stopped) : (session.wait time).isStopped = false := by
  rw [Bool.eq_false_iff, ne_eq, isStopped_iff]
  rintro ⟨stop, hstop, hle⟩
  have hlt := Bounds.lt_stop_of_cut hcut hended stop hstop (lt_stop hrunning stop hstop)
  exact Int.not_lt.mpr hle hlt

end Session

namespace Client.Stream

open Progress

variable {σ ρ α : Type}

/-! ### Nothing is begun behind the signal -/

namespace Progress

variable {progress : Progress σ ρ α} {times : List Time}

theorem precedes_hand {reading : Reading ρ α} {consumer : Consumer σ α} {time : Time}
    (hprecedes : Session.Precedes time progress.session) (lines : List Text) :
    Session.Precedes time (progress.hand reading consumer lines).1.session := by
  induction lines generalizing progress with
  | nil => exact hprecedes
  | cons line rest ih =>
      rw [hand]
      split
      · exact hprecedes
      · exact ih hprecedes
      · simp only
        split
        · exact hprecedes.offer consumer _
        · exact ih (hprecedes.offer consumer _)

theorem transcript_of_chunks {other : Progress σ ρ α} (hchunks : other.chunks = progress.chunks)
    (reading : Reading ρ α) (memory : ρ) :
    other.transcript reading memory = progress.transcript reading memory := by
  rw [Progress.transcript, Progress.transcript, lines, lines, bytes, bytes, hchunks]

/-- These times and those of all reads are not behind the stop signal. -/
def IsTimely (times : List Time) (progress : Progress σ ρ α) : Prop :=
  ∀ time ∈ times ++ progress.reads, Session.Precedes time progress.session

theorem IsTimely.begun (htimely : progress.IsTimely times)
    (hrunning : progress.session.isStopped = false) (next : Option Arrival) :
    (progress.begun next).IsTimely times := by
  intro time htime
  rw [Progress.begun, ← List.append_assoc, List.mem_append, List.mem_singleton] at htime
  rcases htime with htime | rfl
  · exact htimely time htime
  · exact Session.precedes_now hrunning

theorem IsTimely.wait (htimely : progress.IsTimely times) {later : Time}
    (hle : progress.session.now ≤ later) : (progress.wait later).IsTimely times :=
  fun time htime => (htimely time htime).wait hle

theorem IsTimely.hand (htimely : progress.IsTimely times) (reading : Reading ρ α)
    (consumer : Consumer σ α) (lines : List Text) :
    (progress.hand reading consumer lines).1.IsTimely times := by
  intro time htime
  rw [reads_hand] at htime
  exact precedes_hand (htimely time htime) lines

theorem IsTimely.settle (htimely : progress.IsTimely times) {outcome : Outcome (Option Bytes)}
    (hafter : Outcome.IsAfter progress.session.now outcome) :
    (progress.settle outcome).1.IsTimely times := by
  cases outcome with
  | none => exact htimely
  | some found =>
      rw [settle_some]
      exact htimely.wait (hafter found rfl)

end Progress

theorem Run.Rests.isTimely {run : Run σ ρ α} {progress : Progress σ ρ α} {verdict : Verdict}
    {times : List Time} (hrests : run.Rests progress verdict) (htimely : progress.IsTimely times) :
    run.progress.IsTimely times := by
  intro time htime
  rw [hrests.reads_eq] at htime
  obtain ⟨records, hsession⟩ := hrests.session_eq
  rw [hsession]
  exact (htimely time htime).write records

namespace Setting

variable {setting : Setting σ ρ α} {feed : Feed} {progress after : Progress σ ρ α}
  {chunk : Arrival} {rest : List Arrival} {time : Time} {verdict : Option Verdict}
  {times : List Time}

theorem Turn.isTimely (hturn : setting.Turn feed progress chunk time after verdict)
    (htimely : progress.IsTimely times) : after.IsTimely times := by
  have hreceived : ((progress.begun (some chunk)).receive time chunk.bytes).1.IsTimely times :=
    (htimely.begun hturn.running (some chunk)).wait (le_awaits hturn.read)
  have hhanded := hreceived.hand setting.reading setting.consumer
    (progress.buffer.feed chunk.bytes).2
  rwa [hturn.handed] at hhanded

theorem Reaches.isTimely (hreached : setting.Reaches feed progress rest)
    (hstart : setting.start.IsTimely times) : progress.IsTimely times := by
  induction hreached with
  | opened request time response hrunning hrequest hconnect hbody =>
      exact fun moment hmoment => ((hstart moment hmoment).write _).wait (le_connect hconnect)
  | turned progress after chunk rest time _ hturn ih => exact hturn.isTimely ih

/-- Times that are not behind the stop signal when a stream begins are so when it is over, and so
are those of its reads. -/
theorem isTimely_run (hstart : setting.start.IsTimely times) :
    setting.run.progress.IsTimely times := by
  cases setting.finishes with
  | early _ hrests => exact hrests.isTimely hstart
  | unbuildable _ hrests => exact hrests.isTimely hstart
  | silent _ _ hrests => exact hrests.isTimely hstart
  | refused time failure _ hconnect hrests =>
      exact hrests.isTimely (hstart.wait (le_connect hconnect))
  | interrupted time _ hconnect hrests =>
      exact hrests.isTimely (hstart.wait (le_connect hconnect))
  | bodiless time response _ hconnect hrests =>
      exact hrests.isTimely (hstart.wait (le_connect hconnect))
  | halted feed progress rest hreached _ hrests =>
      exact hrests.isTimely (hreached.isTimely hstart)
  | waited feed progress rest outcome hreached hrunning houtcome _ hrests =>
      have hbegun := (hreached.isTimely hstart).begun hrunning rest.head?
      refine hrests.isTimely (hbegun.settle ?_)
      exact houtcome ▸ Bounds.isAfter_cut _ (Outcome.isAfter_ofExcept.mpr Feed.le_answer?)
  | handed feed progress after chunk rest time verdict hreached hturn hrests =>
      exact hrests.isTimely (hturn.isTimely (hreached.isTimely hstart))

/-! ### The signal ends the wait that it comes in -/

/-- A stop signal that comes while a stream connects ends it. -/
theorem rests_of_stop (hrunning : setting.start.session.isStopped = false) {request : Request}
    (hrequest : setting.request? = some request) {stop : Time}
    (hstop : setting.start.session.stop = some stop)
    (hle : ∀ found ∈ send { deadline := setting.deadline } setting.start.session.now setting.reply,
      stop ≤ found.1) : setting.run.Rests (setting.start.wait stop) .stopped := by
  rw [send_eq_cut] at hle
  apply rests_of_interrupted hrunning hrequest
  rw [connect_eq_cut]
  exact Bounds.cut_of_le_stop hstop (Int.le_of_lt (Session.lt_stop hrunning stop hstop)) hle

/-- A stop signal that comes while a stream waits for a chunk ends it. -/
theorem Reaches.rests_of_stop (hreached : setting.Reaches feed progress rest)
    (hrunning : progress.session.isStopped = false) {stop : Time}
    (hstop : progress.session.stop = some stop)
    (hle : ∀ found ∈ Bounds.waitFor { deadline := setting.deadline } progress.session.now
      (feed.answer? progress.session.now rest.head?), stop ≤ found.1) :
    setting.run.Rests ((progress.begun rest.head?).wait stop) .stopped := by
  have hawaits : progress.awaits setting.deadline feed rest.head? = some (stop, .stopped) := by
    rw [Bounds.waitFor_eq_cut] at hle
    rw [awaits_eq_cut]
    exact Bounds.cut_of_le_stop hstop (Int.le_of_lt (Session.lt_stop hrunning stop hstop)) hle
  exact hreached.rests (follow_of_over hrunning hawaits (by simp))

theorem Reaches.rests_of_isStopped (hreached : setting.Reaches feed progress rest)
    (hstopped : progress.session.isStopped = true) : setting.run.Rests progress .stopped :=
  hreached.rests (follow_of_isStopped hstopped rest)

/-- A stop signal that came while the consumer held an item ends the stream behind the lines of the
chunk. -/
theorem Turn.rests_of_isStopped (hturn : setting.Turn feed progress chunk time after verdict)
    (hreached : setting.Reaches feed progress (chunk :: rest))
    (hstopped : after.session.isStopped = true) :
    setting.run.Rests after (verdict.getD .stopped) := by
  cases verdict with
  | some verdict =>
      exact hreached.rests (follow_of_chunk hturn.running hturn.read hturn.handed rest)
  | none =>
      have hlater := Reaches.turned progress after chunk rest time hreached hturn
      exact hlater.rests_of_isStopped hstopped

/-- At each point the consumer has all that is on the lines that were read. -/
theorem Reaches.isCurrent (hreached : setting.Reaches feed progress rest)
    (hfresh : setting.start.IsFresh) : IsCurrent setting.reading setting.start progress := by
  induction hreached with
  | opened request time response _ _ _ _ =>
      exact (hfresh.isCurrent setting.reading).congr rfl rfl rfl rfl
  | turned progress after chunk rest time _ hturn ih =>
      have hbegun : IsCurrent setting.reading setting.start (progress.begun (some chunk)) :=
        ih.congr rfl rfl rfl rfl
      exact (hbegun.hand_receive setting.consumer setting.deadline feed time chunk.bytes
        hturn.handed).2.1 rfl

theorem Turn.transcript_of_failed {failure : Failure}
    (hturn : setting.Turn feed progress chunk time after (some (.failed failure)))
    (hreached : setting.Reaches feed progress (chunk :: rest)) (hfresh : setting.start.IsFresh) :
    (after.transcript setting.reading setting.start.memory).failure = some failure := by
  have hbegun : IsCurrent setting.reading setting.start (progress.begun (some chunk)) :=
    (hreached.isCurrent hfresh).congr rfl rfl rfl rfl
  have hchunks : after.chunks =
      ((progress.begun (some chunk)).receive time chunk.bytes).1.chunks := hturn.chunks_eq
  rw [transcript_of_chunks hchunks, hbegun.transcript_receive]
  cases hturn.isHanded with
  | failed _ _ _ hfailure => exact hfailure

/-- The only failure behind the stop signal is that of a malformed line that was read. -/
theorem transcript_of_failed (hfresh : setting.start.IsFresh) {failure : Failure}
    (hverdict : setting.run.verdict = .failed failure)
    (hstopped : setting.run.progress.session.isStopped = true) :
    (setting.run.progress.transcript setting.reading setting.start.memory).failure =
      some failure := by
  cases fails hverdict with
  | unbuildable _ hrunning hrests => simp [hrests.isStopped_eq, hrunning] at hstopped
  | connecting time hrunning hconnect hrests =>
      rw [connect_eq_cut] at hconnect
      have hnever := Session.isStopped_wait_of_cut hrunning hconnect (by simp)
      simp [hrests.isStopped_eq, Progress.wait, hnever] at hstopped
  | waiting feed progress rest time hrunning hawaits hrests =>
      rw [awaits_eq_cut] at hawaits
      have hnever := Session.isStopped_wait_of_cut hrunning hawaits (by simp)
      simp [hrests.isStopped_eq, Progress.wait, begun, hnever] at hstopped
  | handing feed progress after chunk rest time hreached hturn hrests =>
      rw [transcript_of_chunks hrests.chunks_eq]
      exact hturn.transcript_of_failed hreached hfresh

/-- A stream that is never over has no stop signal and no time limit to wait for. -/
theorem of_pending (hverdict : setting.run.verdict = .pending) :
    setting.run.progress.session.stop = none ∧ setting.deadline = none := by
  cases setting.finishes with
  | early _ hrests => simpa using hrests.of_verdict hverdict
  | unbuildable _ hrests => simpa using hrests.of_verdict hverdict
  | silent _ hconnect hrests =>
      rw [connect_eq_cut, Bounds.cut_eq_none_iff] at hconnect
      exact ⟨hrests.stop_eq.trans hconnect.1, hconnect.2.1⟩
  | refused time failure _ _ hrests => simpa using hrests.of_verdict hverdict
  | interrupted time _ _ hrests => simpa using hrests.of_verdict hverdict
  | bodiless time response _ _ hrests => simpa using hrests.of_verdict hverdict
  | halted feed progress rest _ _ hrests => simpa using hrests.of_verdict hverdict
  | waited feed progress rest outcome hreached hrunning houtcome _ hrests =>
      have hpending := hrests.of_verdict hverdict
      rcases outcome with _ | ⟨time, found | failure | _⟩
      · rw [awaits_eq_cut, Bounds.cut_eq_none_iff] at houtcome
        exact ⟨hrests.stop_eq.trans houtcome.1, houtcome.2.1⟩
      · simp [settle] at hpending
      · simp [settle] at hpending
      · simp [settle] at hpending
  | handed feed progress after chunk rest time verdict hreached hturn hrests =>
      obtain rfl := hrests.of_verdict hverdict
      cases hturn.isHanded

theorem exchange_run (hfresh : setting.start.IsFresh) {exchange : Exchange}
    (hexchange : setting.run.exchange = some exchange) :
    setting.start.session.isStopped = false ∧ exchange.time = setting.start.session.now := by
  cases hrunning : setting.start.session.isStopped with
  | true => simp [run_of_isStopped hrunning] at hexchange
  | false =>
      cases hrequest : setting.request? with
      | none => simp [run_of_unbuildable hrunning hrequest] at hexchange
      | some request =>
          have hsent := (answered hrunning hrequest hfresh).1
          rw [hexchange, Option.map_some, Option.some.injEq, Prod.mk.injEq] at hsent
          exact ⟨rfl, hsent.1⟩

end Setting

/-! ### Streams of records -/

theorem Setting.Turn.values_records {setting : Setting σ Unit Json} {feed : Feed}
    {point after : Progress σ Unit Json} {chunk : Arrival} {time : Time} {verdict : Option Verdict}
    (hreading : setting.reading = records)
    (hturn : setting.Turn feed point chunk time after verdict) (hleft : verdict ≠ some .left) :
    after.session.values =
        point.session.values ++ Lines.values (point.buffer.feed chunk.bytes).2 ∧
      verdict = (Lines.malformed? (point.buffer.feed chunk.bytes).2).map
        fun line => .failed (.undecodable line) := by
  have hgot := hturn.isHanded
  rw [hreading, transcript_records] at hgot
  cases hgot with
  | done _ hvalues hfailure =>
      rw [Option.map_eq_none_iff] at hfailure
      exact ⟨hvalues, by rw [hfailure, Option.map_none]⟩
  | failed failure _ hvalues hfailure =>
      obtain ⟨line, hline, rfl⟩ := Option.map_eq_some_iff.mp hfailure
      exact ⟨hvalues, by rw [hline, Option.map_some]⟩
  | left => exact absurd rfl hleft

/-- How a stream of records stops. -/
structure Setting.Stops (setting : Setting σ Unit Json) : Prop where
  /-- The signal came before the stream. -/
  early : setting.start.session.isStopped = true →
    setting.run.exchange = none ∧ setting.run.EndsWith .stopped setting.start.session.now [] []
  /-- It comes while the stream connects, and at the latest when that would be over. -/
  connecting : setting.start.session.isStopped = false → setting.request?.isSome = true →
    ∀ stop ∈ setting.start.session.stop,
      (∀ found ∈ send { deadline := setting.deadline } setting.start.session.now setting.reply,
        stop ≤ found.1) →
      setting.run.EndsWith .stopped stop [] []
  /-- It comes while the stream waits for a chunk, and at the latest when that would be over. -/
  waiting : ∀ feed point rest, setting.Reaches feed point rest →
    point.session.isStopped = false → ∀ stop ∈ point.session.stop,
      (∀ found ∈ Bounds.waitFor { deadline := setting.deadline } point.session.now
        (feed.answer? point.session.now rest.head?), stop ≤ found.1) →
      setting.run.EndsWith .stopped stop point.session.items (point.reads ++ [point.session.now])
  /-- It came while the consumer held an item of a chunk. -/
  holding : ∀ feed point chunk rest time after verdict,
    setting.Reaches feed point (chunk :: rest) →
    setting.Turn feed point chunk time after verdict → after.session.isStopped = true →
      setting.run.EndsWith (verdict.getD .stopped) after.session.now after.session.items
        (point.reads ++ [point.session.now])
  /-- Whenever it came, the consumer gets all lines of a chunk that was read, unless it leaves. -/
  lines : ∀ feed point chunk rest time after verdict,
    setting.Reaches feed point (chunk :: rest) →
    setting.Turn feed point chunk time after verdict → verdict ≠ some .left →
      after.session.values =
          point.session.values ++ Lines.values (point.buffer.feed chunk.bytes).2 ∧
        verdict = (Lines.malformed? (point.buffer.feed chunk.bytes).2).map
          fun line => .failed (.undecodable line)
  /-- No request is sent and no read is begun behind it. -/
  begun : ∀ stop ∈ setting.run.progress.session.stop,
    (∀ exchange ∈ setting.run.exchange, exchange.time ≤ stop) ∧
      ∀ read ∈ setting.run.progress.reads, read ≤ stop
  /-- Nothing that comes behind it is the outcome; only a line that was read before it can be. -/
  failed : ∀ failure, setting.run.verdict = .failed failure →
    setting.run.progress.session.isStopped = true →
      ∃ line, failure = .undecodable line ∧
        Lines.malformed? setting.run.progress.lines = some line
  /-- With it a stream is over. -/
  pending : setting.run.verdict = .pending → setting.run.progress.session.stop = none

/-- **The stop law of a stream.** -/
theorem run_stops (client : Client) (consumer : Consumer σ Json) (url : Text)
    (headers : List (Text × Text)) (timeoutMs : Option Number) (reply : Reply) (now : Time)
    (stop : Option Time) (state : σ) :
    (Setting.ofRecords client consumer url headers timeoutMs reply now stop state).Stops := by
  generalize hsetting :
    Setting.ofRecords client consumer url headers timeoutMs reply now stop state = setting
  obtain ⟨hreading, hfresh, hitems, hreads⟩ : setting.IsOfRecords :=
    hsetting ▸ Setting.isOfRecords_ofRecords ..
  refine ⟨?_, ?_, ?_, ?_, ?_, ?_, ?_, fun hverdict => (Setting.of_pending hverdict).1⟩
  · intro hstopped
    rw [Setting.run_of_isStopped hstopped]
    exact ⟨rfl, rfl, rfl, hitems, hreads⟩
  · intro hrunning hrequest stop hstop hle
    obtain ⟨request, hrequest⟩ := Option.isSome_iff_exists.mp hrequest
    have hends := (Setting.rests_of_stop hrunning hrequest hstop hle).endsWith
    rwa [← hitems, ← hreads]
  · intro feed point rest hreached hrunning stop hstop hle
    exact (hreached.rests_of_stop hrunning hstop hle).endsWith
  · intro feed point chunk rest time after verdict hreached hturn hstopped
    have hends := (hturn.rests_of_isStopped hreached hstopped).endsWith
    rwa [hturn.reads_eq] at hends
  · intro feed point chunk rest time after verdict _ hturn hleft
    exact hturn.values_records hreading hleft
  · intro stop hstop
    refine ⟨fun exchange hexchange => ?_, fun read hread => ?_⟩
    · obtain ⟨hrunning, htime⟩ := Setting.exchange_run hfresh hexchange
      have hstart : setting.start.IsTimely [exchange.time] := by
        intro time hmem
        rw [hreads, List.append_nil, List.mem_singleton] at hmem
        rw [hmem, htime]
        exact Session.precedes_now hrunning
      exact (Setting.isTimely_run hstart _ List.mem_cons_self).stop stop hstop
    · have hstart : setting.start.IsTimely [] := by simp [IsTimely, hreads]
      exact (Setting.isTimely_run hstart read hread).stop stop hstop
  · intro failure hverdict hstopped
    have hfailure := Setting.transcript_of_failed hfresh hverdict hstopped
    rw [hreading, Progress.transcript, transcript_records] at hfailure
    obtain ⟨line, hline, rfl⟩ := Option.map_eq_some_iff.mp hfailure
    exact ⟨line, rfl, hline⟩

end Client.Stream

end ResourceWatch
