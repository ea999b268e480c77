import ResourceWatch.Proofs.Client.Consumers

/-!
# How a stream breaks

A line that cannot be read ends a stream with its failure, behind the items of all lines before it.
Only the consumer can leave earlier. In a body that was opened the line is come to, unless the stop
signal, the time limit or a failure of the body is met before; and if nothing comes between the
stream and its body, it fails with the line.
-/

namespace ResourceWatch.Client.Stream

open Progress

variable {σ ρ α : Type}

/-- What becomes of a stream with a line that fails: the consumer has had all items before the line,
or it has left. -/
inductive Breaks (failure : Failure) (before items : List α) (session : Session σ α) :
    Verdict → Prop where
  | failed (hvalues : session.values = before ++ items) :
      Breaks failure before items session (.failed failure)
  | left (hleft : session.left = true) (shown : List α) (hshown : shown <+: items)
      (hvalues : session.values = before ++ shown) : Breaks failure before items session .left

theorem Breaks.write {failure : Failure} {before items : List α} {session : Session σ α}
    {verdict : Verdict} (hbreaks : Breaks failure before items session verdict)
    (records : List Log.Record) : Breaks failure before items (session.write records) verdict := by
  cases hbreaks with
  | failed hvalues => exact .failed hvalues
  | left hleft shown hshown hvalues => exact .left hleft shown hshown hvalues

namespace Setting

variable {setting : Setting σ ρ α} {feed : Feed} {progress last : Progress σ ρ α}
  {rest : List Arrival} {verdict : Verdict} {failure : Failure}

theorem Reaches.bytes_eq (hreached : setting.Reaches feed progress rest)
    (hchunks : setting.start.chunks = []) (htaken : setting.start.taken = 0)
    (hall : rest = []) : progress.bytes = feed.bytes := by
  have hleaves := hreached.leaves hchunks htaken
  have hdrop := hleaves.rest
  rw [hall, eq_comm, List.drop_eq_nil_iff] at hdrop
  have hread := hleaves.read
  rw [List.take_of_length_le hdrop] at hread
  rw [bytes, Feed.bytes, List.flatMap_def, List.flatMap_def, hread]

/-- **A line that fails is the end of the stream that reads it.** -/
theorem breaks (hfresh : setting.start.IsFresh)
    (hfailure : (setting.run.progress.transcript setting.reading
      setting.start.memory).failure = some failure) :
    Breaks failure setting.start.session.values
      (setting.run.progress.transcript setting.reading setting.start.memory).items
      setting.run.progress.session setting.run.verdict := by
  rcases handed hfresh with hcurrent | ⟨found, hverdict, hbroken⟩ | ⟨hverdict, shown, hshown, hvalues⟩
  · simp [hcurrent.failure] at hfailure
  · obtain rfl : found = failure := by
      simpa [hbroken.failure] using hfailure
    rw [hverdict]
    exact .failed hbroken.values
  · have hleft := left_of_left hverdict
    rw [hverdict]
    exact .left hleft shown hshown hvalues

/-- What cuts a stream off that reads this body: the stop signal has come, the time limit has run
out, or the body has failed. -/
inductive CutOff (setting : Setting σ ρ α) (feed : Feed) (session : Session σ α) : Verdict → Prop where
  | stopped (hstopped : session.isStopped = true) : CutOff setting feed session .stopped
  | timedOut (deadline : Deadline) (hdeadline : setting.deadline = some deadline)
      (hpassed : deadline.expiry ≤ session.now) :
      CutOff setting feed session (.failed (.timedOut deadline.limit))
  | failed (error : Thrown) (hending : feed.ending = .failed error)
      (hover : feed.endTime ≤ session.now) :
      CutOff setting feed session (.failed (.external error))

theorem CutOff.write {session : Session σ α} (hcut : setting.CutOff feed session verdict)
    (records : List Log.Record) : setting.CutOff feed (session.write records) verdict := by
  cases hcut with
  | stopped hstopped => exact .stopped hstopped
  | timedOut deadline hdeadline hpassed => exact .timedOut deadline hdeadline hpassed
  | failed error hending hover => exact .failed error hending hover

/-- A stream that was not cut off, was not left and met no line that fails has read its body as a
whole. -/
theorem Closes.bytes_eq (hcloses : setting.Closes feed last verdict)
    (hrests : setting.run.Rests last verdict) (hfresh : setting.start.IsFresh)
    (htaken : setting.start.taken = 0)
    (hcut : ¬setting.CutOff feed setting.run.progress.session setting.run.verdict)
    (hleft : setting.run.verdict ≠ .left)
    (hfailure : (last.transcript setting.reading setting.start.memory).failure = none) :
    last.bytes = feed.bytes := by
  have hnow := hrests.endsWith.now
  rw [hrests.verdict] at hcut hleft
  cases hcloses with
  | halted _ rest hreached hstopped =>
      exact absurd (.stopped (isStopped_of_stopped hrests.verdict)) hcut
  | waited progress rest outcome hreached hrunning houtcome hover =>
      have hsettled : ((progress.begun rest.head?).settle outcome).1.bytes = progress.bytes := by
        rw [bytes, settle_chunks]
        rfl
      rw [hsettled]
      apply hreached.bytes_eq hfresh.chunks htaken
      -- Of all that a wait can come to, only the end of the body leaves no chunk behind.
      rcases outcome with _ | ⟨time, found | failure | _⟩
      · have hanswer := Bounds.of_waitFor_none houtcome
        cases hhead : rest.head? with
        | none => exact List.head?_eq_none_iff.mp hhead
        | some chunk =>
            have hending := Feed.answer?_eq_none hanswer
            simp [Feed.answer?, Feed.failure?, hending, hhead] at hanswer
      · cases found with
        | some bytes => exact absurd rfl (hover time bytes)
        | none =>
            have hnone := (Feed.answer?_eq_ok (Bounds.of_waitFor_value houtcome)).1
            exact List.head?_eq_none_iff.mp (by simpa using hnone.symm)
      · refine absurd ?_ hcut
        rcases Bounds.of_waitFor_failed houtcome with ⟨deadline, hdeadline, rfl⟩ | hanswer
        · rw [awaits_eq_cut] at houtcome
          obtain ⟨other, hother, -, hle⟩ := Bounds.of_cut_timedOut
            (Outcome.isAfter_ofExcept.mpr Feed.le_answer?) (feed.isTimeless_answer? _ _) houtcome
          obtain rfl := Option.some.inj (hdeadline.symm.trans hother)
          exact .timedOut deadline hdeadline (hnow ▸ hle)
        · obtain ⟨error, hending, hended, rfl⟩ := Feed.of_answer?_error hanswer
          exact .failed error hending (hnow ▸ hended)
      · exact absurd (.stopped (isStopped_of_stopped hrests.verdict)) hcut
  | handed progress _ chunk rest time _ hreached hturn =>
      cases hturn.isHanded with
      | failed failure =>
          have hbroken := hturn.transcript_of_failed hreached hfresh
          simp [hbroken] at hfailure
      | left => exact absurd rfl hleft

/-- **A line that fails is come to.** -/
theorem Opens.breaks (hopens : setting.Opens feed) (hfresh : setting.start.IsFresh)
    (htaken : setting.start.taken = 0)
    (hfailure : (transcript setting.reading setting.start.memory
      (Lines.complete (Utf8.decode feed.bytes))).failure = some failure)
    (hcut : ¬setting.CutOff feed setting.run.progress.session setting.run.verdict) :
    Breaks failure setting.start.session.values
      (transcript setting.reading setting.start.memory
        (Lines.complete (Utf8.decode feed.bytes))).items
      setting.run.progress.session setting.run.verdict := by
  obtain ⟨opened, hreached⟩ := hopens.reaches
  obtain ⟨last, verdict, hcloses, hrests⟩ := hreached.closes
  have hread := (hcloses.leaves hfresh.chunks htaken).read
  rw [← hrests.chunks_eq] at hread
  have hbytes : setting.run.progress.bytes <+: feed.bytes := by
    apply bytes_isPrefix
    rw [hread]
    exact (List.take_prefix _ _).map _
  obtain ⟨more, hmore⟩ := LineBuffer.complete_decode_isPrefix hbytes
  cases hfound : (setting.run.progress.transcript setting.reading setting.start.memory).failure with
  | some found =>
      have hsame := transcript_append_of_failure hfound more
      rw [Progress.lines, hmore] at hsame
      rw [hsame] at hfailure ⊢
      exact Setting.breaks hfresh hfailure
  | none =>
      -- All that was read is without a failure, so not all was read: the consumer has left.
      have hleft : setting.run.verdict = .left := by
        apply Classical.byContradiction
        intro hstays
        rw [transcript_of_chunks hrests.chunks_eq] at hfound
        have hall := hcloses.bytes_eq hrests hfresh htaken hcut hstays hfound
        rw [Progress.transcript, Progress.lines, hall, hfailure] at hfound
        cases hfound
      have hitems := items_transcript_isPrefix setting.reading setting.start.memory
        setting.run.progress.lines more
      rw [Progress.lines, hmore] at hitems
      have hgone := left_of_left hleft
      rw [hleft]
      rcases handed hfresh with hcurrent | ⟨_, hfailed, _⟩ | ⟨_, shown, hshown, hvalues⟩
      · exact .left hgone _ hitems hcurrent.values
      · simp [hleft] at hfailed
      · exact .left hgone shown (hshown.trans hitems) hvalues

/-- **A stream fails with a line of its body**, if nothing comes between them. -/
theorem IsUndisturbed.breaks {pause : Nat} {horizon : Time} {delay : Nat} {status : Number}
    {body : Body} (hundisturbed : setting.IsUndisturbed pause horizon)
    (hreply : setting.reply = .response delay status (some body))
    (hsuccess : Response.isSuccess ⟨status, none⟩ = true) (hending : body.ending = .closed)
    (hrequest : setting.request?.isSome = true) (hfresh : setting.start.IsFresh)
    (htaken : setting.start.taken = 0) (htimeless : IsTimelessReading setting.reading)
    (hfailure : (transcript setting.reading setting.start.memory body.lines).failure = some failure)
    (hhorizon : setting.start.session.now + delay + body.endDelay +
      (pause * (transcript setting.reading setting.start.memory body.lines).items.length : Nat) ≤
        horizon) :
    setting.run.verdict = .failed failure ∧
      setting.run.progress.session.values = setting.start.session.values ++
        (transcript setting.reading setting.start.memory body.lines).items := by
  have hopens := hundisturbed.opens hreply hsuccess hrequest (by simp only [Time] at *; omega)
  obtain ⟨hstopped, hleft, htime⟩ :=
    hundisturbed.verdict_ne hreply hsuccess hending hfresh htimeless hhorizon
  have hclosed : (Feed.start body (setting.start.session.now + delay)).ending = .closed := hending
  rw [Body.lines, ← Feed.bytes_start body (setting.start.session.now + delay)] at hfailure ⊢
  have hbreaks := hopens.breaks hfresh htaken hfailure
  generalize setting.run.verdict = verdict at hbreaks hstopped hleft htime
  have hcut : ¬setting.CutOff (Feed.start body (setting.start.session.now + delay))
      setting.run.progress.session verdict := by
    rintro (_ | ⟨deadline⟩ | ⟨error, hfailed⟩)
    · exact hstopped rfl
    · exact htime deadline.limit rfl
    · simp [hclosed] at hfailed
  cases hbreaks hcut with
  | failed hvalues => exact ⟨rfl, hvalues⟩
  | left => exact absurd rfl hleft

end Setting

end ResourceWatch.Client.Stream
