import ResourceWatch.Proofs.Client.Consumers
import ResourceWatch.Proofs.Json

/-!
# What a stream of records delivers

A stream of newline-delimited JSON delivers what is on the complete lines of the chunks that it has
read. A body that is closed is delivered as a whole, unless the consumer has left or the stop signal
or the time limit has come; and whether one of these comes is told by the consumer, by the times of
the signal and of the limit, and by how long the body takes and the items are held. So the chunks and
their times have no part in what is delivered, nor in how the stream is over.
-/

namespace ResourceWatch.Client.Stream

variable {σ : Type}

namespace Setting

/-- All of a body is handed over and nothing else, and the body tells why the stream is over. -/
structure DeliversWhole (setting : Setting σ Unit Json) (feed : Feed) : Prop where
  values : setting.run.progress.session.values =
    Lines.values (Lines.complete (Utf8.decode feed.bytes))
  verdict : setting.run.verdict = ending (Lines.complete (Utf8.decode feed.bytes))

/-- What a stream of records makes of a success with this body. -/
structure Delivers (setting : Setting σ Unit Json) (feed : Feed) : Prop where
  /-- It has read the first chunks, and hands over the records on their complete lines. -/
  read : ∃ k,
    setting.run.progress.chunks.map Arrival.bytes = (feed.chunks.take k).map Arrival.bytes ∧
      Yields ((feed.chunks.take k).flatMap Arrival.bytes) setting.run.progress.session.values
        setting.run.verdict
  /-- The signal and the leaving are what the consumer makes of the items. -/
  replays : setting.start.session.Replays setting.consumer setting.run.progress.session.items
    setting.run.progress.session
  /-- It stops only with the signal. -/
  stopped : setting.run.verdict = .stopped → setting.run.progress.session.isStopped = true
  /-- It is left only by the consumer. -/
  left : setting.run.verdict = .left → setting.run.progress.session.left = true
  /-- It fails with a time limit only when its own has run out. -/
  timedOut : ∀ limit, setting.run.verdict = .failed (.timedOut limit) →
    ∃ deadline ∈ setting.deadline, limit = deadline.limit ∧
      deadline.expiry ≤ setting.run.progress.session.now
  /-- It reads all of a body that is closed, if none of these has come by the end. -/
  whole : feed.ending = .closed → setting.request?.isSome = true →
    setting.run.progress.session.left = false →
    setting.run.progress.session.isStopped = false →
    (∀ deadline ∈ setting.deadline, setting.run.progress.session.now < deadline.expiry) →
    setting.DeliversWhole feed
  /-- None of them comes before the body is over, with the time for which its items are held. -/
  undisturbed : ∀ pause horizon, setting.IsUndisturbed pause horizon → feed.ending = .closed →
    setting.request?.isSome = true →
    feed.endTime +
      (pause * (Lines.values (Lines.complete (Utf8.decode feed.bytes))).length : Nat) ≤ horizon →
    setting.DeliversWhole feed

variable {setting : Setting σ Unit Json} {delay : Nat} {status : Number} {body : Body}

theorem IsOfRecords.values_start (hrecords : setting.IsOfRecords) :
    setting.start.session.values = [] := by
  rw [Session.values, hrecords.items, List.map_nil]

section Success

variable (hrecords : setting.IsOfRecords)
  (hreply : setting.reply = .response delay status (some body))
  (hsuccess : Response.isSuccess ⟨status, none⟩ = true)

include hrecords hreply

theorem IsOfRecords.exists_read :
    ∃ k, setting.run.progress.chunks.map Arrival.bytes =
        ((Feed.start body (setting.start.session.now + delay)).chunks.take k).map Arrival.bytes ∧
      Yields (((Feed.start body (setting.start.session.now + delay)).chunks.take k).flatMap
        Arrival.bytes) setting.run.progress.session.values setting.run.verdict := by
  have htake := List.prefix_iff_eq_take.mp (chunks_isPrefix hrecords.fresh hreply)
  rw [List.length_map, ← List.map_take] at htake
  have hyields := setting.yields hrecords.reading hrecords.fresh hrecords.values_start
  rw [Progress.bytes, List.flatMap_def, htake, ← List.flatMap_def] at hyields
  exact ⟨_, htake, hyields⟩

include hsuccess

theorem IsOfRecords.deliversWhole (hending : body.ending = .closed)
    (hrequest : setting.request?.isSome = true) (hstopped : setting.run.verdict ≠ .stopped)
    (hleft : setting.run.verdict ≠ .left)
    (htime : ∀ limit, setting.run.verdict ≠ .failed (.timedOut limit)) :
    setting.DeliversWhole (Feed.start body (setting.start.session.now + delay)) := by
  cases hrunning : setting.start.session.isStopped with
  | true => simp [run_of_isStopped hrunning] at hstopped
  | false =>
      obtain ⟨request, hrequest⟩ := Option.isSome_iff_exists.mp hrequest
      have hanswered := (answered hrunning hrequest hrecords.fresh).2
      rw [hreply, hrecords.reading] at hanswered
      obtain ⟨hvalues, hverdict⟩ :=
        hanswered.whole hsuccess hrecords.values_start hending hleft hstopped htime
      exact ⟨hvalues, hverdict⟩

theorem IsOfRecords.delivers :
    setting.Delivers (Feed.start body (setting.start.session.now + delay)) where
  read := hrecords.exists_read hreply
  replays := by
    obtain ⟨given, hreplays⟩ := setting.exists_replays
    obtain rfl : setting.run.progress.session.items = given := by
      rw [hreplays.items, hrecords.items, List.nil_append]
    exact hreplays
  stopped := isStopped_of_stopped
  left := left_of_left
  timedOut limit := expiry_le_of_timedOut hrecords.reading
  whole hending hrequest hleft hstopped htime := by
    refine hrecords.deliversWhole hreply hsuccess hending hrequest ?_ ?_ ?_
    · intro hverdict
      simpa [hstopped] using isStopped_of_stopped hverdict
    · intro hverdict
      simpa [hleft] using left_of_left hverdict
    · intro limit hverdict
      obtain ⟨deadline, hdeadline, -, hle⟩ := expiry_le_of_timedOut hrecords.reading hverdict
      exact Int.not_lt.mpr hle (htime deadline hdeadline)
  undisturbed pause horizon hundisturbed hending hrequest hhorizon := by
    have htimeless : IsTimelessReading setting.reading :=
      hrecords.reading ▸ isTimelessReading_records
    have hnone := hundisturbed.verdict_ne hreply hsuccess hending hrecords.fresh htimeless
    rw [hrecords.reading, transcript_records] at hnone
    rw [Feed.bytes_start] at hhorizon
    obtain ⟨hstopped, hleft, htime⟩ := hnone hhorizon
    exact hrecords.deliversWhole hreply hsuccess hending hrequest hstopped hleft htime

end Success

end Setting

/-- **What a stream of records hands over.** Whatever the chunks, their times, the time limit, the
stop signal and the consumer, a success is delivered up to where the stream ends; and a body that is
closed is delivered as a whole if nothing comes in between, so that only its bytes tell the records
and the end. -/
theorem run_delivers (client : Client) (consumer : Consumer σ Json) (url : Text)
    (headers : List (Text × Text)) (timeoutMs : Option Number) (delay : Nat) (status : Number)
    (body : Body) (now : Time) (stop : Option Time) (state : σ)
    (hsuccess : Response.isSuccess ⟨status, none⟩ = true) :
    (Setting.ofRecords client consumer url headers timeoutMs (.response delay status (some body))
      now stop state).Delivers (Feed.start body (now + delay)) :=
  (Setting.isOfRecords_ofRecords client consumer url headers timeoutMs
    (.response delay status (some body)) now stop state).delivers rfl hsuccess

def unterminated : Body :=
  ⟨[⟨3, [0x31, 0x0A, 0x32]⟩], 5, .closed⟩

/-- The second line has not come to its end when the body is closed, which is before the signal and
before the time limit. -/
def unterminatedStream : Setting Plan.State Unit Json :=
  .ofRecords ⟨"http://[::1]", [], none, none, none⟩ (Plan.consumer { pauses := [1] }) "/items" []
    (some 9) (.response 0 200 (some unterminated)) 0 (some 8) {}

theorem run_delivers_unterminated :
    Response.isSuccess ⟨200, none⟩ = true ∧
      unterminatedStream.Delivers (Feed.start unterminated 0) ∧
      unterminatedStream.run.progress.session.values = [.num 1] ∧
      unterminatedStream.run.verdict = .closed := by
  have hsuccess : Response.isSuccess ⟨200, none⟩ = true := by decide +kernel
  have hdelivers : unterminatedStream.Delivers (Feed.start unterminated 0) :=
    run_delivers ⟨"http://[::1]", [], none, none, none⟩ (Plan.consumer { pauses := [1] }) "/items" []
      (some 9) 0 200 unterminated 0 (some 8) {} hsuccess
  have hundisturbed : unterminatedStream.IsUndisturbed 1 7 :=
    ⟨Plan.isPatient rfl rfl rfl (by simp) 7, rfl, by decide +kernel, by decide +kernel⟩
  have hvalues : Lines.values (Lines.complete (Utf8.decode (Feed.start unterminated 0).bytes)) =
      [.num 1] := by decide +kernel
  have hmalformed : Lines.malformed? (Lines.complete
      (Utf8.decode (Feed.start unterminated 0).bytes)) = none := by decide +kernel
  have hwhole := hdelivers.undisturbed 1 7 hundisturbed rfl (by decide +kernel)
    (by decide +kernel)
  refine ⟨hsuccess, hdelivers, hwhole.values.trans hvalues, ?_⟩
  rw [hwhole.verdict, ending, hmalformed]

end ResourceWatch.Client.Stream
