import ResourceWatch.Proofs.Client.Reading

/-!
# The records of a stream

A stream of newline-delimited JSON hands over the values of the complete lines of what it has read,
up to the first line that is not JSON. How the bytes are cut into chunks, when these come, how long
the consumer holds an item and why the stream is over have no part in that; they only decide how
much of the body is read.
-/

namespace ResourceWatch

namespace Lines

/-- The values on lines, up to the first one that is not JSON. -/
def values (lines : List Text) : List Json :=
  (lines.takeWhile fun line => (Json.parse? line).isSome).filterMap Json.parse?

/-- The first line that is not JSON. -/
def malformed? (lines : List Text) : Option Text :=
  lines.find? fun line => (Json.parse? line).isNone

end Lines

namespace Client.Stream

open Progress

variable {σ : Type}

/-- Why a stream is over that has read all of a body that was closed: it was closed, or a line is
not JSON. -/
def ending (lines : List Text) : Verdict :=
  match Lines.malformed? lines with
  | none => .closed
  | some line => .failed (.undecodable line)

theorem transcript_records (memory : Unit) (lines : List Text) :
    Client.transcript records memory lines =
      { memory
        items := Lines.values lines
        failure := (Lines.malformed? lines).map .undecodable } := by
  induction lines with
  | nil => rfl
  | cons line rest ih =>
      simp only [Client.transcript, records, Lines.record]
      cases hline : Json.parse? line with
      | none => simp [Lines.values, Lines.malformed?, hline, Except.map]
      | some value => simp [Lines.values, Lines.malformed?, hline, Except.map, ih]

/-- What a stream of records has handed over that has read these bytes and is over for this
reason. -/
structure Yields (bytes : Bytes) (values : List Json) (verdict : Verdict) : Prop where
  /-- Whatever the reason, nothing but the values of complete lines, in order and each once. -/
  shown : values <+: Lines.values (Lines.complete (Utf8.decode bytes))
  all : verdict ≠ .left → values = Lines.values (Lines.complete (Utf8.decode bytes))
  malformed : verdict ≠ .left → ∀ line,
    Lines.malformed? (Lines.complete (Utf8.decode bytes)) = some line ↔
      verdict = .failed (.undecodable line)

variable {deadline : Option Deadline} {feed : Feed} {reply : Reply}
  {start progress : Progress σ Unit Json} {verdict : Verdict}

theorem yields_of_current (hcurrent : IsCurrent records start progress)
    (hstart : start.session.values = [])
    (hverdict : ∀ line, verdict ≠ .failed (.undecodable line)) :
    Yields progress.bytes progress.session.values verdict := by
  have hvalues := hcurrent.values
  have hfailure := hcurrent.failure
  rw [Progress.transcript, transcript_records, hstart, List.nil_append] at hvalues
  rw [Progress.transcript, transcript_records, Option.map_eq_none_iff] at hfailure
  refine ⟨by simp [hvalues, lines], fun _ => hvalues, fun _ line => ?_⟩
  rw [lines] at hfailure
  simp [hfailure, hverdict line]

theorem yields_of_broken {failure : Failure} (hbroken : IsBroken records start progress failure)
    (hstart : start.session.values = []) :
    Yields progress.bytes progress.session.values (.failed failure) := by
  have hvalues := hbroken.values
  have hfailure := hbroken.failure
  rw [Progress.transcript, transcript_records, hstart, List.nil_append] at hvalues
  rw [Progress.transcript, transcript_records, Option.map_eq_some_iff] at hfailure
  obtain ⟨malformed, hmalformed, rfl⟩ := hfailure
  refine ⟨by simp [hvalues, lines], fun _ => hvalues, fun _ line => ?_⟩
  rw [lines] at hmalformed
  simp [hmalformed]

theorem yields_of_partial (hpartial : IsPartial records start progress)
    (hstart : start.session.values = []) :
    Yields progress.bytes progress.session.values .left := by
  obtain ⟨shown, hshown, hvalues⟩ := hpartial
  rw [Progress.transcript, transcript_records] at hshown
  refine ⟨?_, fun h => absurd rfl h, fun h => absurd rfl h⟩
  rw [hvalues, hstart]
  exact hshown

theorem Progress.Concluded.yields
    (hconcluded : Concluded records deadline feed start progress verdict)
    (hstart : start.session.values = []) :
    Yields progress.bytes progress.session.values verdict := by
  cases hconcluded with
  | current hcurrent hends =>
      refine yields_of_current hcurrent hstart ?_
      cases hends <;> simp
  | broken failure hbroken => exact yields_of_broken hbroken hstart
  | left hpartial => exact yields_of_partial hpartial hstart

theorem Answered.yields (hanswered : Answered records deadline reply start progress verdict)
    (hstart : start.session.values = []) :
    Yields progress.bytes progress.session.values verdict := by
  cases hanswered with
  | silent hcurrent => exact yields_of_current hcurrent hstart (by simp)
  | stopped hcurrent => exact yields_of_current hcurrent hstart (by simp)
  | bodiless response hcurrent => exact yields_of_current hcurrent hstart (by simp)
  | body now response body hsuccess hreply hchunks hconcluded => exact hconcluded.yields hstart
  | refused time failure hcurrent hchunks hsend =>
      refine yields_of_current hcurrent hstart ?_
      rcases of_send_failed hsend with ⟨_, _, rfl⟩ | ⟨_, rfl, _⟩ | ⟨_, _, rfl, _⟩ <;> simp

/-- A body that was closed is handed over as a whole, unless the stop signal, the time limit or the
consumer comes in between. -/
theorem Progress.Concluded.whole
    (hconcluded : Concluded records deadline feed start progress verdict)
    (hstart : start.session.values = [])
    (hchunks : progress.chunks.map Arrival.bytes <+: feed.chunks.map Arrival.bytes)
    (hending : feed.ending = .closed) (hleft : verdict ≠ .left) (hstopped : verdict ≠ .stopped)
    (htime : ∀ limit, verdict ≠ .failed (.timedOut limit)) :
    progress.session.values = Lines.values (Lines.complete (Utf8.decode feed.bytes)) ∧
      verdict = ending (Lines.complete (Utf8.decode feed.bytes)) := by
  have hyields := hconcluded.yields hstart
  cases hconcluded with
  | left => exact absurd rfl hleft
  | current hcurrent hends =>
      cases hends with
      | stopped => exact absurd rfl hstopped
      | timedOut => exact absurd rfl (htime _)
      | failed error hfailed => simp [hending] at hfailed
      | pending hhanging => simp [hending] at hhanging
      | closed _ hbytes =>
          rw [← hbytes]
          refine ⟨hyields.all (by simp), ?_⟩
          have hmalformed : Lines.malformed? (Lines.complete (Utf8.decode progress.bytes)) = none :=
            Option.eq_none_iff_forall_ne_some.mpr fun line hline => by
              simpa using (hyields.malformed (by simp) line).mp hline
          simp [ending, hmalformed]
  | broken failure hbroken =>
      obtain ⟨more, hmore⟩ := LineBuffer.complete_decode_isPrefix (Progress.bytes_isPrefix hchunks)
      have hsame := transcript_append_of_failure hbroken.failure more
      rw [lines, hmore, transcript_records, transcript_records, Transcript.mk.injEq] at hsame
      obtain ⟨-, hvalues, hmalformed⟩ := hsame
      have hfailure := hbroken.failure
      rw [Progress.transcript, transcript_records, lines, ← hmalformed,
        Option.map_eq_some_iff] at hfailure
      obtain ⟨line, hline, rfl⟩ := hfailure
      rw [hyields.all hleft, ending, hline, hvalues]
      exact ⟨rfl, rfl⟩

section Response

variable {delay : Nat} {status : Number} {body : Body}

theorem Answered.whole (hsuccess : Response.isSuccess ⟨status, none⟩ = true)
    (hanswered : Answered records deadline (.response delay status (some body)) start progress
      verdict)
    (hstart : start.session.values = []) (hending : body.ending = .closed)
    (hleft : verdict ≠ .left) (hstopped : verdict ≠ .stopped)
    (htime : ∀ limit, verdict ≠ .failed (.timedOut limit)) :
    progress.session.values = Lines.values (Lines.complete
        (Utf8.decode (Feed.start body (start.session.now + delay)).bytes)) ∧
      verdict = ending (Lines.complete
        (Utf8.decode (Feed.start body (start.session.now + delay)).bytes)) := by
  have hsend := send_of_isSuccess ⟨start.session.stop, deadline⟩ start.session.now delay (some body)
    hsuccess
  cases hanswered with
  | stopped => exact absurd rfl hstopped
  | silent _ _ hnone => simp [hnone] at hsend
  | refused _ failure _ _ hfailed =>
      rcases hsend with ⟨_, heq⟩ | ⟨_, limit, heq⟩ | ⟨_, _, heq⟩ <;> rw [hfailed] at heq
      · simp at heq
      · simp only [Option.some.injEq, Prod.mk.injEq, Ended.failed.injEq] at heq
        exact absurd (congrArg Verdict.failed heq.2) (htime limit)
      · simp at heq
  | bodiless _ _ _ _ hreply => simp at hreply
  | body now _ other _ hreply hchunks hconcluded =>
      obtain ⟨late, hreply, rfl⟩ := hreply
      simp only [Reply.response.injEq, Option.some.injEq] at hreply
      obtain ⟨rfl, -, rfl⟩ := hreply
      exact hconcluded.whole hstart hchunks hending hleft hstopped htime

end Response

end Client.Stream

end ResourceWatch
