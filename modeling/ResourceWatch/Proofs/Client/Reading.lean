import ResourceWatch.Client.Stream
import ResourceWatch.Proofs.Client.Waiting
import ResourceWatch.Proofs.Framing

/-!
# What a stream reads

A stream takes chunks off a body, cuts them into lines and hands over the items on the lines, while
the consumer pauses, a signal may stop it and a time limit may run out. Apart from all that stand
the lines of the whole text that was read, and what is on them up to the first malformed one: their
transcript. The two agree at every point where the stream waits, and so in the end, unless the
consumer leaves in the middle of a chunk.
-/

namespace ResourceWatch

namespace Session

variable {σ α : Type}

/-- The items that were handed over, without the times. -/
def values (session : Session σ α) : List α :=
  session.items.map Prod.snd

@[simp]
theorem values_wait (session : Session σ α) (time : Time) :
    (session.wait time).values = session.values := rfl

@[simp]
theorem values_write (session : Session σ α) (records : List Log.Record) :
    (session.write records).values = session.values := rfl

@[simp]
theorem values_offer (consumer : Consumer σ α) (session : Session σ α) (value : α) :
    (session.offer consumer value).values = session.values ++ [value] := by
  simp [offer, values]

theorem isStopped_wait {session : Session σ α} {stop time : Time}
    (hstop : session.stop = some stop) (hle : stop ≤ time) :
    (session.wait time).isStopped = true := by
  simp [isStopped, wait, Clock.reached, hstop, hle]

end Session

namespace Feed

variable {feed : Feed} {now time : Time} {next : Option Arrival}

theorem failure?_eq_some {error : Thrown} (hfailure : feed.failure? now = some error) :
    feed.ending = .failed error := by
  unfold failure? at hfailure
  cases hending : feed.ending with
  | closed => simp [hending] at hfailure
  | hanging => simp [hending] at hfailure
  | failed other =>
      simp only [hending, Option.ite_none_right_eq_some, Option.some.injEq] at hfailure
      rw [hfailure.2]

theorem answer?_eq_ok {found : Option Bytes}
    (hanswer : feed.answer? now next = some (time, .ok found)) :
    found = next.map Arrival.bytes ∧ (next = none → feed.ending = .closed) := by
  unfold answer? at hanswer
  cases hfailure : feed.failure? now with
  | some error => simp [hfailure] at hanswer
  | none =>
      cases next with
      | some chunk =>
          simp only [hfailure, Option.some.injEq, Prod.mk.injEq, Except.ok.injEq] at hanswer
          simp [← hanswer.2]
      | none => cases hending : feed.ending <;> simp_all

theorem answer?_eq_error {failure : Failure}
    (hanswer : feed.answer? now next = some (time, .error failure)) :
    ∃ error, feed.ending = .failed error ∧ failure = .external error := by
  unfold answer? at hanswer
  cases hfailure : feed.failure? now with
  | some error =>
      simp only [hfailure, Option.some.injEq, Prod.mk.injEq, Except.error.injEq] at hanswer
      exact ⟨error, failure?_eq_some hfailure, hanswer.2.symm⟩
  | none =>
      cases next with
      | some chunk => simp [hfailure] at hanswer
      | none => cases hending : feed.ending <;> simp_all

theorem answer?_eq_none (hanswer : feed.answer? now next = none) : feed.ending = .hanging := by
  unfold answer? at hanswer
  cases hfailure : feed.failure? now with
  | some error => simp [hfailure] at hanswer
  | none =>
      cases next with
      | some chunk => simp [hfailure] at hanswer
      | none => cases hending : feed.ending <;> simp_all

end Feed

namespace Client

variable {σ ρ α : Type}

/-- What is on lines: the memory behind them, the items, and why the first malformed line is
none. -/
structure Transcript (ρ α : Type) where
  memory : ρ
  items : List α := []
  failure : Option Failure := none

/-- Reads lines up to the first malformed one. -/
def transcript (reading : Reading ρ α) (memory : ρ) : List Text → Transcript ρ α
  | [] => { memory }
  | line :: rest =>
    match reading memory line with
    | .error failure => { memory, failure := some failure }
    | .ok (memory, item) =>
      let later := transcript reading memory rest
      { later with items := item.toList ++ later.items }

theorem transcript_append_of_failure {reading : Reading ρ α} {memory : ρ} {lines : List Text}
    {failure : Failure} (hfailure : (transcript reading memory lines).failure = some failure)
    (more : List Text) :
    transcript reading memory (lines ++ more) = transcript reading memory lines := by
  induction lines generalizing memory with
  | nil => simp [transcript] at hfailure
  | cons line rest ih =>
      simp only [List.cons_append, transcript] at hfailure ⊢
      cases hline : reading memory line with
      | error failure => rfl
      | ok found =>
          simp only [hline] at hfailure ⊢
          rw [ih hfailure]

theorem transcript_append {reading : Reading ρ α} {memory : ρ} {lines : List Text}
    (hfailure : (transcript reading memory lines).failure = none) (more : List Text) :
    transcript reading memory (lines ++ more) =
      { transcript reading (transcript reading memory lines).memory more with
        items := (transcript reading memory lines).items ++
          (transcript reading (transcript reading memory lines).memory more).items } := by
  induction lines generalizing memory with
  | nil => simp [transcript]
  | cons line rest ih =>
      simp only [List.cons_append, transcript] at hfailure ⊢
      cases hline : reading memory line with
      | error failure => simp [hline] at hfailure
      | ok found =>
          simp only [hline] at hfailure ⊢
          rw [ih hfailure]
          simp

theorem items_transcript_isPrefix (reading : Reading ρ α) (memory : ρ) (lines more : List Text) :
    (transcript reading memory lines).items <+:
      (transcript reading memory (lines ++ more)).items := by
  cases hfailure : (transcript reading memory lines).failure with
  | some failure =>
      exact (transcript_append_of_failure hfailure more) ▸ List.prefix_rfl
  | none =>
      rw [transcript_append hfailure]
      exact List.prefix_append _ _

namespace Stream

namespace Progress

/-- All the bytes that were read. -/
def bytes (progress : Progress σ ρ α) : Bytes :=
  progress.chunks.flatMap Arrival.bytes

/-- The lines that the bytes that were read complete. -/
def lines (progress : Progress σ ρ α) : List Text :=
  Lines.complete (Utf8.decode progress.bytes)

/-- What is on the lines that were read, by a reading that began with `memory`. -/
def transcript (reading : Reading ρ α) (memory : ρ) (progress : Progress σ ρ α) :
    Transcript ρ α :=
  Client.transcript reading memory progress.lines

/-- Nothing was read yet. -/
structure IsFresh (progress : Progress σ ρ α) : Prop where
  buffer : progress.buffer = {}
  chunks : progress.chunks = []

/-- Everything on the lines that were read since `start` was handed over, and no line is
malformed. -/
structure IsCurrent (reading : Reading ρ α) (start progress : Progress σ ρ α) : Prop where
  buffer : progress.buffer = (({} : LineBuffer).feed progress.bytes).1
  memory : progress.memory = (progress.transcript reading start.memory).memory
  values : progress.session.values =
    start.session.values ++ (progress.transcript reading start.memory).items
  failure : (progress.transcript reading start.memory).failure = none

/-- Of the items on the lines that were read, the consumer got the first ones. -/
def IsPartial (reading : Reading ρ α) (start progress : Progress σ ρ α) : Prop :=
  ∃ shown, shown <+: (progress.transcript reading start.memory).items ∧
    progress.session.values = start.session.values ++ shown

/-- A malformed line was read, and all before it was handed over. -/
structure IsBroken (reading : Reading ρ α) (start progress : Progress σ ρ α) (failure : Failure) :
    Prop where
  memory : progress.memory = (progress.transcript reading start.memory).memory
  values : progress.session.values =
    start.session.values ++ (progress.transcript reading start.memory).items
  failure : (progress.transcript reading start.memory).failure = some failure

theorem transcript_of_fresh (reading : Reading ρ α) {progress : Progress σ ρ α}
    (hfresh : progress.IsFresh) (memory : ρ) : progress.transcript reading memory = { memory } := by
  simp [transcript, lines, bytes, hfresh.chunks, Utf8.decode, Utf8.decodePoints, Client.transcript]

theorem IsFresh.isCurrent (reading : Reading ρ α) {progress : Progress σ ρ α}
    (hfresh : progress.IsFresh) : IsCurrent reading progress progress where
  buffer := by simp [hfresh.buffer, bytes, hfresh.chunks, LineBuffer.feed]
  memory := by rw [transcript_of_fresh reading hfresh]
  values := by simp [transcript_of_fresh reading hfresh]
  failure := by rw [transcript_of_fresh reading hfresh]

/-- How handing over lines went, behind the items of `before`: all of them are done with, one is
malformed, or the consumer left. -/
inductive Handed (found : Transcript ρ α) (before : List α) (after : Progress σ ρ α) :
    Option Verdict → Prop where
  | done (hmemory : after.memory = found.memory)
      (hvalues : after.session.values = before ++ found.items)
      (hfailure : found.failure = none) : Handed found before after none
  | failed (failure : Failure) (hmemory : after.memory = found.memory)
      (hvalues : after.session.values = before ++ found.items)
      (hfailure : found.failure = some failure) :
      Handed found before after (some (.failed failure))
  | left (shown : List α) (hshown : shown <+: found.items)
      (hvalues : after.session.values = before ++ shown) (hleft : after.session.left = true) :
      Handed found before after (some .left)

theorem Handed.cons {found : Transcript ρ α} {before : List α} {value : α}
    {after : Progress σ ρ α} {verdict : Option Verdict}
    (hrest : Handed found (before ++ [value]) after verdict) :
    Handed { found with items := value :: found.items } before after verdict := by
  cases hrest with
  | done hmemory hvalues hfailure => exact .done hmemory (by simp [hvalues]) hfailure
  | failed failure hmemory hvalues hfailure =>
      exact .failed failure hmemory (by simp [hvalues]) hfailure
  | left shown hshown hvalues hleft =>
      exact .left (value :: shown) (by simpa using hshown) (by simp [hvalues]) hleft

theorem handed_hand (reading : Reading ρ α) (consumer : Consumer σ α) (progress : Progress σ ρ α)
    (lines : List Text) :
    Handed (Client.transcript reading progress.memory lines) progress.session.values
      (progress.hand reading consumer lines).1 (progress.hand reading consumer lines).2 := by
  induction lines generalizing progress with
  | nil => exact .done rfl (by simp [hand, Client.transcript]) rfl
  | cons line rest ih =>
      simp only [hand, Client.transcript]
      cases hline : reading progress.memory line with
      | error failure => exact .failed failure rfl (by simp) rfl
      | ok found =>
          obtain ⟨memory, item⟩ := found
          cases item with
          | none => exact ih { progress with memory }
          | some value =>
              simp only [Option.toList_some, List.singleton_append]
              split
              · rename_i hleft
                exact .left [value] (by simp) (by simp) hleft
              · refine Handed.cons ?_
                rw [← Session.values_offer consumer]
                exact ih { progress with memory, session := progress.session.offer consumer value }

/-- Handing over lines is nothing but a matter of the consumer and of the memory. -/
theorem hand_eq (reading : Reading ρ α) (consumer : Consumer σ α) (progress : Progress σ ρ α)
    (lines : List Text) :
    ∃ memory session, (progress.hand reading consumer lines).1 =
      { progress with memory, session } := by
  induction lines generalizing progress with
  | nil => exact ⟨_, _, rfl⟩
  | cons line rest ih =>
      simp only [hand]
      split
      · exact ⟨_, _, rfl⟩
      · exact ih _
      · split
        · exact ⟨_, _, rfl⟩
        · exact ih _

theorem hand_reads (reading : Reading ρ α) (consumer : Consumer σ α) (progress : Progress σ ρ α)
    (lines : List Text) :
    (progress.hand reading consumer lines).1.buffer = progress.buffer ∧
      (progress.hand reading consumer lines).1.chunks = progress.chunks := by
  obtain ⟨memory, session, hhand⟩ := progress.hand_eq reading consumer lines
  rw [hhand]
  exact ⟨rfl, rfl⟩

/-! ### The loop over the chunks -/

theorem IsCurrent.congr {reading : Reading ρ α} {start progress : Progress σ ρ α}
    (hcurrent : IsCurrent reading start progress) {other : Progress σ ρ α}
    (hbuffer : other.buffer = progress.buffer) (hmemory : other.memory = progress.memory)
    (hvalues : other.session.values = progress.session.values)
    (hchunks : other.chunks = progress.chunks) : IsCurrent reading start other := by
  have hbytes : other.bytes = progress.bytes := by rw [bytes, bytes, hchunks]
  have htranscript : other.transcript reading start.memory =
      progress.transcript reading start.memory := by
    rw [transcript, transcript, lines, lines, hbytes]
  constructor
  · rw [hbuffer, hbytes, hcurrent.buffer]
  · rw [hmemory, htranscript, hcurrent.memory]
  · rw [hvalues, htranscript, hcurrent.values]
  · rw [htranscript, hcurrent.failure]

theorem bytes_receive (progress : Progress σ ρ α) (time : Time) (chunk : Bytes) :
    (progress.receive time chunk).1.bytes = progress.bytes ++ chunk := by
  simp [receive, bytes]

theorem IsCurrent.lines_receive {reading : Reading ρ α} {start progress : Progress σ ρ α}
    (hcurrent : IsCurrent reading start progress) (time : Time) (chunk : Bytes) :
    (progress.receive time chunk).1.lines =
      progress.lines ++ (progress.receive time chunk).2 := by
  simp only [lines, ← LineBuffer.feed_empty_snd, bytes_receive]
  rw [LineBuffer.feed_append, ← hcurrent.buffer]
  rfl

theorem IsCurrent.buffer_receive {reading : Reading ρ α} {start progress : Progress σ ρ α}
    (hcurrent : IsCurrent reading start progress) (time : Time) (chunk : Bytes) :
    (progress.receive time chunk).1.buffer =
      (({} : LineBuffer).feed (progress.receive time chunk).1.bytes).1 := by
  rw [bytes_receive, LineBuffer.feed_append, ← hcurrent.buffer]
  rfl

theorem IsCurrent.transcript_receive {reading : Reading ρ α} {start progress : Progress σ ρ α}
    (hcurrent : IsCurrent reading start progress) (time : Time) (chunk : Bytes) :
    (progress.receive time chunk).1.transcript reading start.memory =
      { Client.transcript reading progress.memory (progress.receive time chunk).2 with
        items := (progress.transcript reading start.memory).items ++
          (Client.transcript reading progress.memory (progress.receive time chunk).2).items } := by
  have hfailure := hcurrent.failure
  rw [transcript] at hfailure
  rw [transcript, hcurrent.lines_receive, transcript_append hfailure, hcurrent.memory]
  rfl

/-- Why a stream is over that handed over everything on the lines it read. -/
inductive Ends (deadline : Option Deadline) (feed : Feed) (progress : Progress σ ρ α) :
    Verdict → Prop where
  | closed (hending : feed.ending = .closed) (hbytes : progress.bytes = feed.bytes) :
      Ends deadline feed progress .closed
  | stopped (hstopped : progress.session.isStopped = true) : Ends deadline feed progress .stopped
  | timedOut (passed : Deadline) (hdeadline : deadline = some passed) :
      Ends deadline feed progress (.failed (.timedOut passed.limit))
  | failed (error : Thrown) (hending : feed.ending = .failed error) :
      Ends deadline feed progress (.failed (.external error))
  | pending (hending : feed.ending = .hanging) : Ends deadline feed progress .pending

/-- What a stream over a body came to that stood as in `start`. -/
inductive Concluded (reading : Reading ρ α) (deadline : Option Deadline) (feed : Feed)
    (start progress : Progress σ ρ α) : Verdict → Prop where
  | current {verdict : Verdict} (hcurrent : IsCurrent reading start progress)
      (hends : Ends deadline feed progress verdict) :
      Concluded reading deadline feed start progress verdict
  | broken (failure : Failure) (hbroken : IsBroken reading start progress failure) :
      Concluded reading deadline feed start progress (.failed failure)
  | left (hpartial : IsPartial reading start progress) (hleft : progress.session.left = true) :
      Concluded reading deadline feed start progress .left

/-- One chunk is taken in: either the stream goes on, with all its lines handed over, or it is
over. -/
theorem IsCurrent.hand_receive {reading : Reading ρ α} {start progress : Progress σ ρ α}
    (hcurrent : IsCurrent reading start progress) (consumer : Consumer σ α)
    (deadline : Option Deadline) (feed : Feed) (time : Time) (chunk : Bytes)
    {handed : Progress σ ρ α} {verdict : Option Verdict}
    (hhand : (progress.receive time chunk).1.hand reading consumer (progress.receive time chunk).2 =
      (handed, verdict)) :
    handed.chunks.map Arrival.bytes = progress.chunks.map Arrival.bytes ++ [chunk] ∧
      (verdict = none → IsCurrent reading start handed) ∧
      ∀ final, verdict = some final → Concluded reading deadline feed start handed final := by
  have hsame := hand_reads reading consumer (progress.receive time chunk).1
    (progress.receive time chunk).2
  have hgot : Handed (Client.transcript reading progress.memory (progress.receive time chunk).2)
      progress.session.values _ _ := handed_hand reading consumer (progress.receive time chunk).1 _
  rw [hhand] at hsame hgot
  rw [hcurrent.values] at hgot
  obtain ⟨hbuffer, hchunks⟩ : handed.buffer = _ ∧ handed.chunks = _ := hsame
  have hbytes : handed.bytes = (progress.receive time chunk).1.bytes := by
    rw [bytes, bytes, hchunks]
  have htranscript : handed.transcript reading start.memory =
      (progress.receive time chunk).1.transcript reading start.memory := by
    rw [transcript, transcript, lines, lines, hbytes]
  rw [hcurrent.transcript_receive] at htranscript
  refine ⟨by simp [hchunks, receive], ?_, ?_⟩
  · rintro rfl
    cases hgot with
    | done hmemory hvalues hfailure =>
        constructor
        · rw [hbuffer, hbytes, hcurrent.buffer_receive]
        · rw [htranscript, hmemory]
        · rw [htranscript, hvalues, List.append_assoc]
        · rw [htranscript, hfailure]
  · rintro final rfl
    cases hgot with
    | failed failure hmemory hvalues hfailure =>
        refine .broken failure ⟨?_, ?_, ?_⟩
        · rw [htranscript, hmemory]
        · rw [htranscript, hvalues, List.append_assoc]
        · rw [htranscript, hfailure]
    | left shown hshown hvalues hleft =>
        refine .left ⟨(progress.transcript reading start.memory).items ++ shown, ?_, ?_⟩ hleft
        · rw [htranscript]
          exact List.prefix_append_right_inj _ |>.mpr hshown
        · rw [hvalues, List.append_assoc]

theorem read_cases (deadline : Option Deadline) (feed : Feed) (next : Option Arrival)
    (progress : Progress σ ρ α) :
    (progress.session.isStopped = true ∧
        progress.read deadline feed next = (progress, some (progress.session.now, .stopped))) ∨
      ∃ reads taken, progress.read deadline feed next =
        ({ progress with reads, taken },
          Bounds.waitFor ⟨progress.session.stop, deadline⟩ progress.session.now
            (feed.answer? progress.session.now next)) := by
  unfold read
  cases hstopped : progress.session.isStopped with
  | true => simp
  | false =>
      exact Or.inr ⟨progress.reads ++ [progress.session.now],
        progress.chunks.length +
          (next.any fun chunk => chunk.time ≤ progress.session.now).toNat, rfl⟩

theorem ends_settle {deadline : Option Deadline} {feed : Feed} {next : Option Arrival}
    {progress : Progress σ ρ α} {now : Time} {outcome : Outcome (Option Bytes)}
    (hwait : Bounds.waitFor ⟨progress.session.stop, deadline⟩ now (feed.answer? now next) = outcome)
    (hnext : ∀ time found, outcome = some (time, .value found) → next = none)
    (hbytes : next = none → progress.bytes = feed.bytes) :
    Ends deadline feed (progress.settle outcome).1 (progress.settle outcome).2 := by
  rcases outcome with _ | ⟨time, found | failure | _⟩
  · exact .pending (Feed.answer?_eq_none (Bounds.of_waitFor_none hwait))
  · have hnone := hnext time found rfl
    exact .closed ((Feed.answer?_eq_ok (Bounds.of_waitFor_value hwait)).2 hnone) (hbytes hnone)
  · rcases Bounds.of_waitFor_failed hwait with ⟨passed, hdeadline, rfl⟩ | hanswer
    · exact .timedOut passed hdeadline
    · obtain ⟨error, hending, rfl⟩ := Feed.answer?_eq_error hanswer
      exact .failed error hending
  · obtain ⟨stop, hstop, hle⟩ := Bounds.of_waitFor_stopped hwait
    exact .stopped (Session.isStopped_wait hstop hle)

theorem IsCurrent.settle {reading : Reading ρ α} {start progress : Progress σ ρ α}
    (hcurrent : IsCurrent reading start progress) (outcome : Outcome (Option Bytes)) :
    IsCurrent reading start (progress.settle outcome).1 := by
  rcases outcome with _ | ⟨time, found | failure | _⟩ <;>
    exact hcurrent.congr rfl rfl rfl rfl

theorem settle_chunks (progress : Progress σ ρ α) (outcome : Outcome (Option Bytes)) :
    (progress.settle outcome).1.chunks = progress.chunks := by
  rcases outcome with _ | ⟨time, found | failure | _⟩ <;> rfl

/-- **What a stream hands over.** However chunks, pauses, stop signal and time limit interleave, a
stream ends with what is on the lines that it read. -/
theorem concluded_follow (reading : Reading ρ α) (consumer : Consumer σ α)
    (deadline : Option Deadline) (feed : Feed) (start progress : Progress σ ρ α)
    (rest : List Arrival) (hcurrent : IsCurrent reading start progress)
    (hchunks : progress.chunks.map Arrival.bytes ++ rest.map Arrival.bytes =
      feed.chunks.map Arrival.bytes) :
    Concluded reading deadline feed start
        (progress.follow reading consumer deadline feed rest).1
        (progress.follow reading consumer deadline feed rest).2 ∧
      (progress.follow reading consumer deadline feed rest).1.chunks.map Arrival.bytes <+:
        feed.chunks.map Arrival.bytes := by
  -- On the chunks that are left; between two reads the stream is current.
  induction rest generalizing progress with
  | nil =>
      have hinitial : progress.chunks.map Arrival.bytes <+: feed.chunks.map Arrival.bytes :=
        ⟨_, hchunks⟩
      simp only [follow]
      rcases progress.read_cases deadline feed none with ⟨hstopped, hread⟩ | ⟨reads, taken, hread⟩
      · rw [hread]
        exact ⟨.current (hcurrent.settle _) (.stopped hstopped), hinitial⟩
      · rw [hread]
        have hreading : IsCurrent reading start { progress with reads, taken } :=
          hcurrent.congr rfl rfl rfl rfl
        refine ⟨.current (hreading.settle _) (ends_settle rfl (fun _ _ _ => rfl) fun _ => ?_), ?_⟩
        · simpa [bytes, List.flatMap_def, Feed.bytes] using congrArg List.flatten hchunks
        · rw [settle_chunks]
          exact hinitial
  | cons chunk rest ih =>
      have hinitial : progress.chunks.map Arrival.bytes <+: feed.chunks.map Arrival.bytes :=
        ⟨_, hchunks⟩
      simp only [follow]
      rcases progress.read_cases deadline feed (some chunk) with
        ⟨hstopped, hread⟩ | ⟨reads, taken, hread⟩
      · rw [hread]
        exact ⟨.current (hcurrent.settle _) (.stopped hstopped), hinitial⟩
      · rw [hread]
        have hreading : IsCurrent reading start { progress with reads, taken } :=
          hcurrent.congr rfl rfl rfl rfl
        generalize houtcome : Bounds.waitFor _ _ _ = outcome
        have hsettled (hnone : ∀ time found, outcome ≠ some (time, .value found)) :
            Concluded reading deadline feed start
                (settle { progress with reads, taken } outcome).1
                (settle { progress with reads, taken } outcome).2 ∧
              (settle { progress with reads, taken } outcome).1.chunks.map Arrival.bytes <+:
                feed.chunks.map Arrival.bytes := by
          refine ⟨.current (hreading.settle _) (ends_settle houtcome ?_ (by simp)), ?_⟩
          · exact fun time found heq => absurd heq (hnone time found)
          · rw [settle_chunks]
            exact hinitial
        rcases outcome with _ | ⟨time, (_ | found) | failure | _⟩
        · exact hsettled (by simp)
        · exact absurd (Feed.answer?_eq_ok (Bounds.of_waitFor_value houtcome)).1 (by simp)
        · have hfound : found = chunk.bytes := by
            simpa using (Feed.answer?_eq_ok (Bounds.of_waitFor_value houtcome)).1
          rcases hhand : hand reading consumer (receive { progress with reads, taken } time found).1
            (receive { progress with reads, taken } time found).2 with ⟨handed, verdict⟩
          obtain ⟨hread, hgoes, hover⟩ :=
            hreading.hand_receive consumer deadline feed time found hhand
          have hhanded : handed.chunks.map Arrival.bytes ++ rest.map Arrival.bytes =
              feed.chunks.map Arrival.bytes := by
            rw [hread, hfound, ← hchunks]
            simp
          simp only [hhand]
          cases verdict with
          | some final => exact ⟨hover final rfl, _, hhanded⟩
          | none => exact ih handed (hgoes rfl) hhanded
        · exact hsettled (by simp)
        · exact hsettled (by simp)

theorem Concluded.write {reading : Reading ρ α} {deadline : Option Deadline} {feed : Feed}
    {start progress : Progress σ ρ α} {verdict : Verdict}
    (hconcluded : Concluded reading deadline feed start progress verdict)
    (records : List Log.Record) :
    Concluded reading deadline feed start (progress.write records) verdict := by
  cases hconcluded with
  | current hcurrent hends =>
      refine .current (hcurrent.congr rfl rfl rfl rfl) ?_
      cases hends with
      | closed hending hbytes => exact .closed hending hbytes
      | stopped hstopped => exact .stopped hstopped
      | timedOut passed hdeadline => exact .timedOut passed hdeadline
      | failed error hending => exact .failed error hending
      | pending hending => exact .pending hending
  | broken failure hbroken =>
      exact .broken failure ⟨hbroken.memory, hbroken.values, hbroken.failure⟩
  | left hpartial hleft => exact .left hpartial hleft

end Progress

open Progress

/-- What a stream came to whose request was sent at `now` and got this reply. -/
inductive Answered (reading : Reading ρ α) (deadline : Option Deadline) (reply : Reply)
    (start progress : Progress σ ρ α) : Verdict → Prop where
  | silent (hcurrent : IsCurrent reading start progress) (hchunks : progress.chunks = [])
      (hsend : send ⟨start.session.stop, deadline⟩ start.session.now reply = none) :
      Answered reading deadline reply start progress .pending
  | stopped (hcurrent : IsCurrent reading start progress) (hchunks : progress.chunks = [])
      (hstopped : progress.session.isStopped = true) :
      Answered reading deadline reply start progress .stopped
  | refused (time : Time) (failure : Failure) (hcurrent : IsCurrent reading start progress)
      (hchunks : progress.chunks = [])
      (hsend : send ⟨start.session.stop, deadline⟩ start.session.now reply =
        some (time, .failed failure)) :
      Answered reading deadline reply start progress (.failed failure)
  | bodiless (response : Response) (hcurrent : IsCurrent reading start progress)
      (hchunks : progress.chunks = []) (hsuccess : response.isSuccess = true)
      (hreply : ∃ delay, reply = .response delay response.status none) :
      Answered reading deadline reply start progress .closed
  | body (now : Time) (response : Response) (body : Body) {verdict : Verdict}
      (hsuccess : response.isSuccess = true)
      (hreply : ∃ delay : Nat, reply = .response delay response.status (some body) ∧
        now = start.session.now + delay)
      (hchunks : progress.chunks.map Arrival.bytes <+:
        (Feed.start body now).chunks.map Arrival.bytes)
      (hconcluded : Concluded reading deadline (Feed.start body now) start progress verdict) :
      Answered reading deadline reply start progress verdict

/-- What the consumer has in the end: everything on the lines that were read, or all before a
malformed line, or a part because it left. -/
theorem Answered.handed {reading : Reading ρ α} {deadline : Option Deadline} {reply : Reply}
    {start progress : Progress σ ρ α} {verdict : Verdict}
    (hanswered : Answered reading deadline reply start progress verdict) :
    IsCurrent reading start progress ∨
      (∃ failure, verdict = .failed failure ∧ IsBroken reading start progress failure) ∨
      verdict = .left ∧ IsPartial reading start progress := by
  cases hanswered with
  | silent hcurrent => exact Or.inl hcurrent
  | stopped hcurrent => exact Or.inl hcurrent
  | refused _ _ hcurrent => exact Or.inl hcurrent
  | bodiless _ hcurrent => exact Or.inl hcurrent
  | body _ _ _ _ _ _ hconcluded =>
      cases hconcluded with
      | current hcurrent => exact Or.inl hcurrent
      | broken failure hbroken => exact Or.inr (Or.inl ⟨failure, rfl, hbroken⟩)
      | left hpartial => exact Or.inr (Or.inr ⟨rfl, hpartial⟩)

theorem Answered.of_refusal {reading : Reading ρ α} {deadline : Option Deadline} {delay : Nat}
    {error : Thrown} {start progress : Progress σ ρ α} {verdict : Verdict}
    (hanswered : Answered reading deadline (.refusal delay error) start progress verdict) :
    progress.chunks = [] ∧ progress.session.values = start.session.values ∧ verdict ≠ .closed := by
  have hsame (hcurrent : IsCurrent reading start progress) (hchunks : progress.chunks = []) :
      progress.session.values = start.session.values := by
    rw [hcurrent.values, Progress.transcript, Progress.lines, Progress.bytes, hchunks]
    simp [Utf8.decode, Utf8.decodePoints, Client.transcript]
  cases hanswered with
  | silent hcurrent hchunks => exact ⟨hchunks, hsame hcurrent hchunks, by simp⟩
  | stopped hcurrent hchunks => exact ⟨hchunks, hsame hcurrent hchunks, by simp⟩
  | refused _ _ hcurrent hchunks => exact ⟨hchunks, hsame hcurrent hchunks, by simp⟩
  | bodiless _ _ _ _ hreply => simp at hreply
  | body _ _ _ _ hreply => simp at hreply

theorem Answered.chunks_isPrefix {reading : Reading ρ α} {deadline : Option Deadline} {delay : Nat}
    {status : Number} {body : Body} {start progress : Progress σ ρ α} {verdict : Verdict}
    (hanswered : Answered reading deadline (.response delay status (some body)) start progress
      verdict) :
    progress.chunks.map Arrival.bytes <+:
      (Feed.start body (start.session.now + delay)).chunks.map Arrival.bytes := by
  cases hanswered with
  | silent _ hchunks => simp [hchunks]
  | stopped _ hchunks => simp [hchunks]
  | refused _ _ _ hchunks => simp [hchunks]
  | bodiless _ _ hchunks => simp [hchunks]
  | body now _ other _ hreply hchunks =>
      obtain ⟨late, hreply, rfl⟩ := hreply
      simp only [Reply.response.injEq, Option.some.injEq] at hreply
      obtain ⟨rfl, -, rfl⟩ := hreply
      exact hchunks

theorem Progress.bytes_isPrefix {progress : Progress σ ρ α} {feed : Feed}
    (hchunks : progress.chunks.map Arrival.bytes <+: feed.chunks.map Arrival.bytes) :
    progress.bytes <+: feed.bytes := by
  obtain ⟨rest, hrest⟩ := hchunks
  refine ⟨rest.flatten, ?_⟩
  simpa [bytes, Feed.bytes, List.flatMap_def] using congrArg List.flatten hrest

namespace Run

@[simp]
theorem verdict_release (url : Text) (run : Run σ ρ α) :
    (run.release url).verdict = run.verdict := by
  unfold release
  split <;> rfl

/-- A stream that lets go of everything reads no more. -/
theorem progress_release (url : Text) (run : Run σ ρ α) :
    ∃ records, (run.release url).progress = run.progress.write records := by
  unfold release
  split
  · exact ⟨[], by simp [Progress.write, Session.write]⟩
  · exact ⟨_, rfl⟩

theorem exchange_release (url : Text) (run : Run σ ρ α) :
    (run.release url).exchange.map (fun exchange => (exchange.time, exchange.request)) =
      run.exchange.map (fun exchange => (exchange.time, exchange.request)) := by
  unfold release
  split
  · rfl
  · simp only [Option.map_map]
    rfl

end Run

/-- A stream without a request lets go of its timer. -/
theorem Run.release_unsent (url : Text) (timer : Option Time) (progress : Progress σ ρ α)
    {verdict : Verdict} (hover : verdict ≠ .pending) :
    Run.release url { timer, progress, verdict } = { timer := none, progress, verdict } := by
  cases verdict <;> simp_all [release, Progress.write, Session.write]

theorem run_of_isStopped (client : Client) (reading : Reading ρ α) (consumer : Consumer σ α)
    (url : Text) (headers : List (Text × Text)) (timeoutMs : Option Number) (reply : Reply)
    {start : Progress σ ρ α} (hstopped : start.session.isStopped = true) :
    run client reading consumer url headers timeoutMs reply start =
      { timer := none, progress := start, verdict := .stopped } := by
  simp only [run, attempt, hstopped, if_true]
  exact Run.release_unsent url _ start (by simp)

theorem run_of_unbuildable {client : Client} (reading : Reading ρ α) (consumer : Consumer σ α)
    {url : Text} {headers : List (Text × Text)} (timeoutMs : Option Number) (reply : Reply)
    {start : Progress σ ρ α} (hstopped : start.session.isStopped = false)
    (hrequest : client.build? .get url { headers } = none) :
    run client reading consumer url headers timeoutMs reply start =
      { timer := none, progress := start, verdict := .failed .unbuildable } := by
  simp only [run, attempt, hstopped, hrequest, Bool.false_eq_true, if_false]
  exact Run.release_unsent url _ start (by simp)

theorem Answered.write {reading : Reading ρ α} {deadline : Option Deadline} {reply : Reply}
    {start progress : Progress σ ρ α} {verdict : Verdict}
    (hanswered : Answered reading deadline reply start progress verdict)
    (records : List Log.Record) :
    Answered reading deadline reply start (progress.write records) verdict := by
  cases hanswered with
  | silent hcurrent hchunks hsend => exact .silent (hcurrent.congr rfl rfl rfl rfl) hchunks hsend
  | stopped hcurrent hchunks hstopped =>
      exact .stopped (hcurrent.congr rfl rfl rfl rfl) hchunks hstopped
  | refused time failure hcurrent hchunks hsend =>
      exact .refused time failure (hcurrent.congr rfl rfl rfl rfl) hchunks hsend
  | bodiless response hcurrent hchunks hsuccess hreply =>
      exact .bodiless response (hcurrent.congr rfl rfl rfl rfl) hchunks hsuccess hreply
  | body now response body hsuccess hreply hchunks hconcluded =>
      exact .body now response body hsuccess hreply hchunks (hconcluded.write records)

theorem answered_attempt (client : Client) (reading : Reading ρ α) (consumer : Consumer σ α)
    (url : Text) (headers : List (Text × Text)) (deadline : Option Deadline) (reply : Reply)
    {start : Progress σ ρ α} (hfresh : start.IsFresh) (hstopped : start.session.isStopped = false)
    {request : Request} (hrequest : client.build? .get url { headers } = some request) :
    (attempt client reading consumer url headers deadline reply start).exchange.map
        (fun exchange => (exchange.time, exchange.request)) = some (start.session.now, request) ∧
      Answered reading deadline reply start
        (attempt client reading consumer url headers deadline reply start).progress
        (attempt client reading consumer url headers deadline reply start).verdict := by
  have hcurrent := hfresh.isCurrent reading
  have hstop (records : List Log.Record) :
      (start.write records).session.stop = start.session.stop := rfl
  simp only [attempt, hstopped, hrequest, Bool.false_eq_true, if_false, hstop]
  rcases hsend : send ⟨start.session.stop, deadline⟩ start.session.now reply with
    _ | ⟨time, response | failure | _⟩ <;> simp only
  · exact ⟨rfl, .silent (hcurrent.congr rfl rfl rfl rfl) hfresh.chunks hsend⟩
  · obtain ⟨hsuccess, hanswer⟩ := of_send_value hsend
    obtain ⟨delay, body, hreply, htime, hbody⟩ := Reply.answer?_eq_ok hanswer
    cases body with
    | none =>
        simp only [hbody, Option.map_none]
        exact ⟨rfl, .bodiless response (hcurrent.congr rfl rfl rfl rfl) hfresh.chunks hsuccess
          ⟨delay, hreply⟩⟩
    | some body =>
        simp only [hbody, Option.map_some, conclude, ← htime]
        generalize hopened : (start.write _).wait time = opened
        have hopenedCurrent : IsCurrent reading start opened :=
          hopened ▸ hcurrent.congr rfl rfl rfl rfl
        have hopenedChunks : opened.chunks = [] := hopened ▸ hfresh.chunks
        obtain ⟨hconcluded, hchunks⟩ := concluded_follow reading consumer deadline
          (Feed.start body time) start opened (Feed.start body time).chunks hopenedCurrent
          (by simp [hopenedChunks])
        exact ⟨trivial, .body time response body hsuccess ⟨delay, hreply, htime⟩ hchunks
          (hconcluded.write _)⟩
  · exact ⟨rfl, .refused time failure (hcurrent.congr rfl rfl rfl rfl) hfresh.chunks hsend⟩
  · obtain ⟨stop, hstop, hle⟩ := of_send_stopped hsend
    exact ⟨rfl, .stopped (hcurrent.congr rfl rfl rfl rfl) hfresh.chunks
      (Session.isStopped_wait hstop hle)⟩

/-- **What a stream comes to.** Its request is sent, and it ends with the reply in one of these
ways. -/
theorem answered_run (client : Client) (reading : Reading ρ α) (consumer : Consumer σ α)
    (url : Text) (headers : List (Text × Text)) (timeoutMs : Option Number) (reply : Reply)
    {start : Progress σ ρ α} (hfresh : start.IsFresh) (hstopped : start.session.isStopped = false)
    {request : Request} (hrequest : client.build? .get url { headers } = some request) :
    (run client reading consumer url headers timeoutMs reply start).exchange.map
        (fun exchange => (exchange.time, exchange.request)) = some (start.session.now, request) ∧
      Answered reading (Deadline.start? start.session.now timeoutMs) reply start
        (run client reading consumer url headers timeoutMs reply start).progress
        (run client reading consumer url headers timeoutMs reply start).verdict := by
  obtain ⟨hexchange, hanswered⟩ := answered_attempt client reading consumer url headers
    (Deadline.start? start.session.now timeoutMs) reply hfresh hstopped hrequest
  obtain ⟨records, hprogress⟩ := (attempt client reading consumer url headers
    (Deadline.start? start.session.now timeoutMs) reply start).progress_release url
  rw [run, Run.exchange_release, Run.verdict_release, hprogress]
  exact ⟨hexchange, hanswered.write records⟩

end Stream

end Client

end ResourceWatch
