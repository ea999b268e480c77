import ResourceWatch.Proofs.Client.Stopping
import ResourceWatch.Proofs.Number.Timers
import ResourceWatch.Session.Plan

/-!
# Time limits of streams

A stream has one time limit from its beginning to its end. It ends each wait that is not over when
it runs out, and every wait that begins later. It does not touch the lines of a chunk that was read,
however long the consumer holds their items.
-/

namespace ResourceWatch

open Outcome

theorem Feed.isTimeless_answer? (feed : Feed) (now : Time) (next : Option Arrival) :
    IsTimeless (Outcome.ofExcept (feed.answer? now next)) := by
  apply isTimeless_ofExcept
  intro time limit hanswer
  obtain ⟨error, -, hfailure⟩ := answer?_eq_error hanswer
  simp at hfailure

namespace Client.Stream

open Progress

variable {σ ρ α : Type}

namespace Setting

variable {setting : Setting σ ρ α} {deadline : Deadline} {feed : Feed}
  {progress after : Progress σ ρ α} {chunk : Arrival} {rest : List Arrival} {time : Time}
  {verdict : Option Verdict}

theorem Turn.lt_expiry (hturn : setting.Turn feed progress chunk time after verdict)
    (hdeadline : setting.deadline = some deadline) : time < deadline.expiry :=
  Bounds.lt_expiry_of_cut (isAfter_ofExcept.mpr Feed.le_answer?) hturn.read deadline hdeadline

theorem Turn.lt_expiry_of_mem (hturn : setting.Turn feed progress chunk time after verdict)
    (hdeadline : setting.deadline = some deadline)
    (hlt : ∀ chunk ∈ progress.chunks, chunk.time < deadline.expiry) :
    ∀ chunk ∈ after.chunks, chunk.time < deadline.expiry := by
  intro other hother
  rw [hturn.chunks_eq, List.mem_append, List.mem_singleton] at hother
  rcases hother with hother | rfl
  · exact hlt other hother
  · exact hturn.lt_expiry hdeadline

/-- All chunks were read before the time limit ran out. -/
theorem Reaches.lt_expiry (hreached : setting.Reaches feed progress rest)
    (hdeadline : setting.deadline = some deadline) (hchunks : setting.start.chunks = []) :
    ∀ chunk ∈ progress.chunks, chunk.time < deadline.expiry := by
  induction hreached with
  | opened request time response hrunning hrequest hconnect hbody =>
      simp [Progress.wait, Progress.write, hchunks]
  | turned progress after chunk rest time _ hturn ih => exact hturn.lt_expiry_of_mem hdeadline ih

theorem lt_expiry_of_mem_chunks (hdeadline : setting.deadline = some deadline)
    (hchunks : setting.start.chunks = []) :
    ∀ chunk ∈ setting.run.progress.chunks, chunk.time < deadline.expiry := by
  have hstart : ∀ chunk ∈ setting.start.chunks, chunk.time < deadline.expiry := by simp [hchunks]
  cases setting.finishes with
  | early _ hrests => exact hrests.chunks_eq ▸ hstart
  | unbuildable _ hrests => exact hrests.chunks_eq ▸ hstart
  | silent _ _ hrests => exact hrests.chunks_eq ▸ hstart
  | refused _ _ _ _ hrests => exact hrests.chunks_eq ▸ hstart
  | interrupted _ _ _ hrests => exact hrests.chunks_eq ▸ hstart
  | bodiless _ _ _ _ hrests => exact hrests.chunks_eq ▸ hstart
  | halted feed progress rest hreached _ hrests =>
      exact hrests.chunks_eq ▸ hreached.lt_expiry hdeadline hchunks
  | waited feed progress rest outcome hreached _ _ _ hrests =>
      rw [hrests.chunks_eq, settle_chunks]
      exact hreached.lt_expiry hdeadline hchunks
  | handed feed progress after chunk rest time verdict hreached hturn hrests =>
      rw [hrests.chunks_eq]
      exact hturn.lt_expiry_of_mem hdeadline (hreached.lt_expiry hdeadline hchunks)

/-! ### The limit ends the wait that it runs out in -/

section Running

variable (hnever : setting.run.progress.session.isStopped = false)

include hnever

theorem isStopped_start : setting.start.session.isStopped = false := by
  cases hrunning : setting.start.session.isStopped with
  | false => rfl
  | true => simp [run_of_isStopped hrunning, hrunning] at hnever

theorem Reaches.isStopped_eq_false (hreached : setting.Reaches feed progress rest) :
    progress.session.isStopped = false := by
  cases hrunning : progress.session.isStopped with
  | false => rfl
  | true => simp [(hreached.rests_of_isStopped hrunning).isStopped_eq, hrunning] at hnever

variable (hdeadline : setting.deadline = some deadline)

include hdeadline

theorem rests_of_expiry {request : Request} (hrequest : setting.request? = some request)
    (hle : ∀ found ∈ send {} setting.start.session.now setting.reply, deadline.expiry ≤ found.1) :
    setting.run.Rests (setting.start.wait (max setting.start.session.now deadline.expiry))
      (.failed (.timedOut deadline.limit)) := by
  have hrunning := isStopped_start hnever
  have hconnect := setting.connect_eq_cut
  rcases Bounds.cut_of_le_expiry ⟨setting.start.session.stop, setting.deadline⟩ hdeadline
    (isAfter_send_unbounded _ _) hle with ⟨stop, hstop, hcut⟩ | hcut
  · have hrests := rests_of_interrupted hrunning hrequest (hconnect.trans hcut)
    have hstopped : (setting.start.session.wait (max setting.start.session.now stop)).isStopped =
      true := Session.isStopped_wait hstop (Int.le_max_right _ _)
    simp [hrests.isStopped_eq, Progress.wait, hstopped] at hnever
  · exact rests_of_refused hrunning hrequest (hconnect.trans hcut)

theorem Reaches.rests_of_expiry (hreached : setting.Reaches feed progress rest)
    (hle : ∀ found ∈ feed.answer? progress.session.now rest.head?, deadline.expiry ≤ found.1) :
    setting.run.Rests
      ((progress.begun rest.head?).wait (max progress.session.now deadline.expiry))
      (.failed (.timedOut deadline.limit)) := by
  have hrunning := hreached.isStopped_eq_false hnever
  have hawaits := progress.awaits_eq_cut setting.deadline feed rest.head?
  have hafter : IsAfter deadline.expiry
      (Outcome.ofExcept (feed.answer? progress.session.now rest.head?)) :=
    isAfter_ofExcept.mpr hle
  rcases Bounds.cut_of_le_expiry ⟨progress.session.stop, setting.deadline⟩ hdeadline
    (isAfter_ofExcept.mpr Feed.le_answer?) hafter with ⟨stop, hstop, hcut⟩ | hcut
  · have hrests : setting.run.Rests
        ((progress.begun rest.head?).wait (max progress.session.now stop)) .stopped :=
      hreached.rests (follow_of_over hrunning (hawaits.trans hcut) (by simp))
    have hstopped : (progress.session.wait (max progress.session.now stop)).isStopped = true :=
      Session.isStopped_wait hstop (Int.le_max_right _ _)
    simp [hrests.isStopped_eq, Progress.wait, begun, hstopped] at hnever
  · exact hreached.rests (follow_of_over hrunning (hawaits.trans hcut) (by simp))

end Running

end Setting

/-! ### Streams of records -/

/-- A stream of records yields what is on the lines that it read. -/
theorem Setting.yields {setting : Setting σ Unit Json} (hreading : setting.reading = records)
    (hfresh : setting.start.IsFresh) (hvalues : setting.start.session.values = []) :
    Yields setting.run.progress.bytes setting.run.progress.session.values setting.run.verdict := by
  have hcurrent := hfresh.isCurrent records
  cases hrunning : setting.start.session.isStopped with
  | true =>
      rw [run_of_isStopped hrunning]
      exact yields_of_current hcurrent hvalues (by simp)
  | false =>
      cases hrequest : setting.request? with
      | none =>
          rw [run_of_unbuildable hrunning hrequest]
          exact yields_of_current hcurrent hvalues (by simp)
      | some request =>
          have hanswered := (answered hrunning hrequest hfresh).2
          rw [hreading] at hanswered
          exact hanswered.yields hvalues

/-! ### When a stream fails with a time limit -/

/-- No line is read as a time limit. -/
def IsTimelessReading (reading : Reading ρ α) : Prop :=
  ∀ memory line limit, reading memory line ≠ .error (.timedOut limit)

theorem IsTimelessReading.transcript {reading : Reading ρ α}
    (htimeless : IsTimelessReading reading) (memory : ρ) (lines : List Text) (limit : Number) :
    (transcript reading memory lines).failure ≠ some (.timedOut limit) := by
  induction lines generalizing memory with
  | nil => simp [Client.transcript]
  | cons line rest ih =>
      rw [Client.transcript]
      cases hline : reading memory line with
      | error failure =>
          have hne := htimeless memory line limit
          simpa [hline] using hne
      | ok found => exact ih found.1

theorem isTimelessReading_records : IsTimelessReading records := by
  intro memory line limit
  cases hvalue : Json.parse? line <;> simp [records, Lines.record, hvalue, Except.map]

/-- A stream fails with a time limit only if it has one, and not before that has run out. -/
theorem Setting.expiry_le_of_isTimelessReading {setting : Setting σ ρ α}
    (htimeless : IsTimelessReading setting.reading) {limit : Number}
    (hverdict : setting.run.verdict = .failed (.timedOut limit)) :
    ∃ deadline, setting.deadline = some deadline ∧ limit = deadline.limit ∧
      deadline.expiry ≤ setting.run.progress.session.now := by
  cases fails hverdict with
  | unbuildable hfailure => cases hfailure
  | connecting time _ hconnect hrests =>
      rw [connect_eq_cut] at hconnect
      obtain ⟨deadline, hdeadline, hlimit, hle⟩ := Bounds.of_cut_timedOut
        (isAfter_send_unbounded _ _) (isTimeless_send _ _) hconnect
      exact ⟨deadline, hdeadline, hlimit, hrests.endsWith.now ▸ hle⟩
  | waiting feed progress rest time _ hawaits hrests =>
      rw [awaits_eq_cut] at hawaits
      obtain ⟨deadline, hdeadline, hlimit, hle⟩ := Bounds.of_cut_timedOut
        (isAfter_ofExcept.mpr Feed.le_answer?) (feed.isTimeless_answer? _ _) hawaits
      exact ⟨deadline, hdeadline, hlimit, hrests.endsWith.now ▸ hle⟩
  | handing feed progress after chunk rest time _ hturn =>
      -- A line that is not read as an item is no time limit.
      cases hturn.isHanded with
      | failed _ _ _ hfailure => exact absurd hfailure (htimeless.transcript _ _ _)

theorem Setting.expiry_le_of_timedOut {setting : Setting σ Unit Json}
    (hreading : setting.reading = records) {limit : Number}
    (hverdict : setting.run.verdict = .failed (.timedOut limit)) :
    ∃ deadline, setting.deadline = some deadline ∧ limit = deadline.limit ∧
      deadline.expiry ≤ setting.run.progress.session.now :=
  expiry_le_of_isTimelessReading (hreading ▸ isTimelessReading_records) hverdict

/-- How a stream of records keeps a time limit that runs out at `expiry`, if it is not stopped. -/
structure Setting.Expires (setting : Setting σ Unit Json) (limit : Number) (expiry : Time) :
    Prop where
  /-- All items are on the lines of chunks that were read before it has run out. -/
  items : (∀ chunk ∈ setting.run.progress.chunks, chunk.time < expiry) ∧
    setting.run.progress.session.values <+: Lines.values setting.run.progress.lines
  /-- It runs out before the connection or the body of an error is there. -/
  connecting : setting.request?.isSome = true →
    (∀ found ∈ send {} setting.start.session.now setting.reply, expiry ≤ found.1) →
    setting.run.EndsWith (.failed (.timedOut limit)) expiry [] []
  /-- It runs out before a read that has begun is answered. -/
  waiting : ∀ feed point rest, setting.Reaches feed point rest → point.session.now < expiry →
    (∀ found ∈ feed.answer? point.session.now rest.head?, expiry ≤ found.1) →
    setting.run.EndsWith (.failed (.timedOut limit)) expiry point.session.items
      (point.reads ++ [point.session.now])
  /-- It has run out before a read begins, whatever is there to be read. -/
  late : ∀ feed point rest, setting.Reaches feed point rest → expiry ≤ point.session.now →
    setting.run.EndsWith (.failed (.timedOut limit)) point.session.now point.session.items
      (point.reads ++ [point.session.now])
  /-- A chunk is read before it has run out, and the consumer gets all its lines even behind
  that. -/
  lines : ∀ feed point chunk rest time after verdict,
    setting.Reaches feed point (chunk :: rest) →
    setting.Turn feed point chunk time after verdict → time < expiry ∧ (verdict ≠ some .left →
      after.session.values =
          point.session.values ++ Lines.values (point.buffer.feed chunk.bytes).2 ∧
        verdict = (Lines.malformed? (point.buffer.feed chunk.bytes).2).map
          fun line => .failed (.undecodable line))
  /-- It is the outcome only when it has run out, and then as it is. -/
  timedOut : ∀ other, setting.run.verdict = .failed (.timedOut other) →
    other = limit ∧ expiry ≤ setting.run.progress.session.now
  /-- With it a stream is over. -/
  pending : setting.run.verdict ≠ .pending

theorem Setting.IsOfRecords.expires {setting : Setting σ Unit Json}
    (hrecords : setting.IsOfRecords) {deadline : Deadline}
    (hdeadline : setting.deadline = some deadline)
    (hstart : setting.start.session.now ≤ deadline.expiry)
    (hnever : setting.run.progress.session.isStopped = false) :
    setting.Expires deadline.limit deadline.expiry where
  items := by
    have hvalues : setting.start.session.values = [] := by
      rw [Session.values, hrecords.items, List.map_nil]
    exact ⟨lt_expiry_of_mem_chunks hdeadline hrecords.fresh.chunks,
      (setting.yields hrecords.reading hrecords.fresh hvalues).shown⟩
  connecting hrequest hle := by
    obtain ⟨request, hrequest⟩ := Option.isSome_iff_exists.mp hrequest
    have hends := (rests_of_expiry hnever hdeadline hrequest hle).endsWith
    rw [Int.max_eq_right hstart] at hends
    rwa [← hrecords.items, ← hrecords.reads]
  waiting feed point rest hreached hlt hle := by
    have hends := (hreached.rests_of_expiry hnever hdeadline hle).endsWith
    rwa [Int.max_eq_right (Int.le_of_lt hlt)] at hends
  late feed point rest hreached hle := by
    have hlater : ∀ found ∈ feed.answer? point.session.now rest.head?,
        deadline.expiry ≤ found.1 := fun found hfound =>
      Int.le_trans hle (Feed.le_answer? found hfound)
    have hends := (hreached.rests_of_expiry hnever hdeadline hlater).endsWith
    rwa [Int.max_eq_left hle] at hends
  lines feed point chunk rest time after verdict _ hturn :=
    ⟨hturn.lt_expiry hdeadline, hturn.values_records hrecords.reading⟩
  timedOut other hverdict := by
    obtain ⟨found, hfound, rfl, hle⟩ := expiry_le_of_timedOut hrecords.reading hverdict
    obtain rfl := Option.some.inj (hfound.symm.trans hdeadline)
    exact ⟨rfl, hle⟩
  pending hverdict := by
    rw [(of_pending hverdict).2] at hdeadline
    simp at hdeadline

/-- **The time limit of a stream.** It is the stream's own, and that of its client has no part in
it. -/
theorem run_expires (client : Client) (consumer : Consumer σ Json) (url : Text)
    (headers : List (Text × Text)) (reply : Reply) (now : Time) (stop : Option Time) (state : σ) :
    (∀ limit : Nat, 1 ≤ limit → limit ≤ 2147483647 →
      (Setting.ofRecords client consumer url headers (some (.ofNat limit)) reply now stop
        state).run.progress.session.isStopped = false →
      (Setting.ofRecords client consumer url headers (some (.ofNat limit)) reply now stop
        state).Expires (.ofNat limit) (now + limit)) ∧
    (∀ limit, (Setting.ofRecords client consumer url headers none reply now stop
      state).run.verdict ≠ .failed (.timedOut limit)) ∧
    ∀ timeoutMs requestTimeoutMs,
      (Setting.ofRecords { client with requestTimeoutMs } consumer url headers timeoutMs reply now
          stop state).run =
        (Setting.ofRecords client consumer url headers timeoutMs reply now stop state).run := by
  refine ⟨fun limit hlow hhigh hnever => ?_, fun limit hverdict => ?_, fun _ _ => rfl⟩
  · have hrecords := Setting.isOfRecords_ofRecords client consumer url headers
      (some (.ofNat limit)) reply now stop state
    have hdeadline : (Setting.ofRecords client consumer url headers (some (.ofNat limit)) reply now
        stop state).deadline = some ⟨.ofNat limit, now + limit⟩ := by
      rw [Setting.deadline, Setting.ofRecords, Deadline.start?, Option.map_some,
        Clock.timer_ofNat hlow hhigh]
    exact hrecords.expires hdeadline (Int.le_add_of_nonneg_right (Int.natCast_nonneg limit)) hnever
  · obtain ⟨deadline, hdeadline, -⟩ := Setting.expiry_le_of_timedOut rfl hverdict
    cases hdeadline

/-- The consumer holds the item of a chunk until the limit has run out. -/
theorem run_expires_held :
    1 ≤ 5 ∧ 5 ≤ 2147483647 ∧
      (Setting.ofRecords ⟨"http://[::1]", [], none, none, none⟩ (Plan.consumer { pauses := [4] })
        "/items" [] (some (.ofNat 5)) (.response 0 200 (some ⟨[⟨3, [0x31, 0x0A]⟩], 9, .closed⟩)) 0
        none {}).run.progress.session.isStopped = false ∧
      (Setting.ofRecords ⟨"http://[::1]", [], none, none, none⟩ (Plan.consumer { pauses := [4] })
        "/items" [] (some (.ofNat 5)) (.response 0 200 (some ⟨[⟨3, [0x31, 0x0A]⟩], 9, .closed⟩)) 0
        none {}).Expires (.ofNat 5) (0 + (5 : Nat)) := by
  have hnever : (Setting.ofRecords ⟨"http://[::1]", [], none, none, none⟩
      (Plan.consumer { pauses := [4] }) "/items" [] (some (.ofNat 5))
      (.response 0 200 (some ⟨[⟨3, [0x31, 0x0A]⟩], 9, .closed⟩)) 0 none
      {}).run.progress.session.isStopped = false := by decide +kernel
  have hexpires := run_expires ⟨"http://[::1]", [], none, none, none⟩
    (Plan.consumer { pauses := [4] }) "/items" []
    (.response 0 200 (some ⟨[⟨3, [0x31, 0x0A]⟩], 9, .closed⟩)) 0 none {}
  exact ⟨by decide, by decide, hnever, hexpires.1 5 (by decide) (by decide) hnever⟩

end Client.Stream

end ResourceWatch
