import ResourceWatch.Proofs.Client.Expiry
import ResourceWatch.Proofs.Client.Release

/-!
# What a consumer has a part in

A stream changes its session by waits, by records, and by items that it hands over. What all of
these keep holds when the stream is over. So the stop signal and the leaving are those of the
consumer, which a replay of the items shows; and as long as the consumer neither leaves nor gives the
signal, a body that is closed is over when its end and the time for which the items were held are.
-/

namespace ResourceWatch

/-- The state of a consumer that has been handed these items at these times. -/
def Consumer.after {σ α : Type} (consumer : Consumer σ α) (state : σ)
    (given : List (Time × α)) : σ :=
  given.foldl (fun state item => (consumer state item.1 item.2).1) state

/-- Whatever it is handed and when, it holds no item longer than `pause`, does not leave, and gives
no signal up to the horizon. -/
structure Consumer.IsPatient {σ α : Type} (consumer : Consumer σ α) (state : σ) (pause : Nat)
    (horizon : Time) : Prop where
  stays : ∀ given time value, ∃ held ≤ pause,
    (consumer (consumer.after state given) time value).2.pause = some held
  signal : ∀ given time value,
    ∀ stop ∈ (consumer (consumer.after state given) time value).2.stop, horizon < stop

/-- A consumer that knows beforehand to take every item. -/
theorem Plan.isPatient {α : Type} {plan : Plan} {pause : Nat} (hstop : plan.stopAfter = none)
    (hthrow : plan.throwAfter = none) (hbreak : plan.breakAfter = none)
    (hpauses : ∀ held ∈ plan.pauses, held ≤ pause) (horizon : Time) :
    (plan.consumer : Consumer State α).IsPatient {} pause horizon := by
  have hafter (given : List (Time × α)) (state : State) (hstate : state.stop = none) :
      (plan.consumer.after state given).stop = none := by
    induction given generalizing state with
    | nil => exact hstate
    | cons item rest ih => exact ih _ (by simp [consumer, hstop, hstate])
  constructor
  · intro given time value
    refine ⟨plan.pauses.getD (plan.consumer.after {} given).taken 0, ?_, ?_⟩
    · rw [List.getD_eq_getElem?_getD]
      cases hheld : plan.pauses[(plan.consumer.after {} given).taken]? with
      | none => exact Nat.zero_le pause
      | some held => exact hpauses held (List.mem_of_getElem? hheld)
    · simp [consumer, hthrow, hbreak]
  · intro given time value stop
    simp [consumer, hstop, hafter given {} rfl]

namespace Session

variable {σ α : Type} {consumer : Consumer σ α} {start session : Session σ α}
  {given : List (Time × α)}

/-- Hands items over once more, at the times at which they were handed over. -/
def replay (consumer : Consumer σ α) (session : Session σ α) (given : List (Time × α)) :
    Session σ α :=
  given.foldl (fun session item => (session.wait item.1).offer consumer item.2) session

theorem replay_concat (consumer : Consumer σ α) (session : Session σ α)
    (given : List (Time × α)) (item : Time × α) :
    session.replay consumer (given ++ [item]) =
      ((session.replay consumer given).wait item.1).offer consumer item.2 := by
  rw [replay, List.foldl_append]
  rfl

theorem state_replay (consumer : Consumer σ α) (session : Session σ α)
    (given : List (Time × α)) :
    (session.replay consumer given).state = consumer.after session.state given := by
  induction given generalizing session with
  | nil => rfl
  | cons item rest ih => exact ih _

/-- Behind what was handed over before, these items were, and the consumer, the stop signal and the
leaving are as a replay of them leaves them. -/
structure Replays (consumer : Consumer σ α) (start : Session σ α) (given : List (Time × α))
    (session : Session σ α) : Prop where
  items : session.items = start.items ++ given
  state : session.state = (start.replay consumer given).state
  stop : session.stop = (start.replay consumer given).stop
  left : session.left = (start.replay consumer given).left

theorem Replays.refl (consumer : Consumer σ α) (session : Session σ α) :
    Replays consumer session [] session :=
  ⟨(List.append_nil _).symm, rfl, rfl, rfl⟩

theorem Replays.wait (hreplays : Replays consumer start given session) (time : Time) :
    Replays consumer start given (session.wait time) :=
  ⟨hreplays.items, hreplays.state, hreplays.stop, hreplays.left⟩

theorem Replays.write (hreplays : Replays consumer start given session)
    (records : List Log.Record) : Replays consumer start given (session.write records) :=
  ⟨hreplays.items, hreplays.state, hreplays.stop, hreplays.left⟩

theorem Replays.offer (hreplays : Replays consumer start given session) (value : α) :
    Replays consumer start (given ++ [(session.now, value)]) (session.offer consumer value) := by
  have hstopped : ((start.replay consumer given).wait session.now).isStopped =
      session.isStopped := by
    rw [isStopped, isStopped, hreplays.stop]
    rfl
  constructor
  · simp only [Session.offer, hreplays.items, List.append_assoc]
  · rw [replay_concat, Session.offer, Session.offer, hreplays.state]
    rfl
  · rw [replay_concat, Session.offer, Session.offer, hstopped, hreplays.state, hreplays.stop]
    rfl
  · rw [replay_concat, Session.offer, Session.offer, hreplays.state]
    rfl

/-- Nothing has come between: there is no signal up to the horizon, the consumer has not left, and
it is no later than `base` but for the time for which this many items were held. -/
structure IsCalm (pause : Nat) (base horizon : Time) (count : Nat) (session : Session σ α) :
    Prop where
  signal : ∀ stop ∈ session.stop, horizon < stop
  stays : session.left = false
  now : session.now ≤ base + (pause * count : Nat)

variable {pause count : Nat} {base horizon : Time}

theorem IsCalm.write (hcalm : session.IsCalm pause base horizon count)
    (records : List Log.Record) : (session.write records).IsCalm pause base horizon count :=
  ⟨hcalm.signal, hcalm.stays, hcalm.now⟩

theorem IsCalm.wait (hcalm : session.IsCalm pause base horizon count) {time : Time}
    (htime : time ≤ max session.now base) :
    (session.wait time).IsCalm pause base horizon count where
  signal := hcalm.signal
  stays := hcalm.stays
  now := Int.le_trans htime
    (Int.max_le.mpr ⟨hcalm.now, Int.le_add_of_nonneg_right (Int.natCast_nonneg _)⟩)

theorem IsCalm.offer (hcalm : session.IsCalm pause base horizon count)
    (hreplays : Replays consumer start given session)
    (hpatient : consumer.IsPatient start.state pause horizon) (value : α) :
    (session.offer consumer value).IsCalm pause base horizon (count + 1) := by
  have hstate : session.state = consumer.after start.state given :=
    hreplays.state.trans (state_replay consumer start given)
  obtain ⟨held, hheld, hpause⟩ := hpatient.stays given session.now value
  rw [← hstate] at hpause
  constructor
  · intro stop hstop
    simp only [Session.offer] at hstop
    split at hstop
    · exact hcalm.signal stop hstop
    · obtain ⟨found, hfound, rfl⟩ := Option.map_eq_some_iff.mp hstop
      rw [hstate] at hfound
      exact Int.lt_of_lt_of_le (hpatient.signal given session.now value found hfound)
        (Int.le_max_right _ _)
  · simp [Session.offer, hpause]
  · have hnow : session.now + (held : Int) ≤ base + (pause * count : Nat) + (pause : Int) :=
      Int.add_le_add hcalm.now (Int.ofNat_le.mpr hheld)
    simpa [Session.offer, hpause, Nat.mul_succ, Int.add_assoc] using hnow

end Session

/-- The lines that come to their end in a body. -/
def Body.lines (body : Body) : List Text :=
  Lines.complete (Utf8.decode body.bytes)

namespace Feed

theorem time_le_of_mem_start {body : Body} (hending : body.ending = .closed) {now : Time}
    {chunk : Arrival} (hchunk : chunk ∈ (start body now).chunks) :
    chunk.time ≤ now + body.endDelay := by
  simp only [start, hending, List.mem_filter, decide_eq_true_eq] at hchunk
  exact hchunk.2

/-- A body that is closed answers every read when it is over, at the latest. -/
theorem exists_answer?_of_closed {body : Body} {opened : Time} (now : Time)
    (hending : body.ending = .closed) {next : Option Arrival}
    (hnext : ∀ chunk ∈ next, chunk ∈ (start body opened).chunks) :
    ∃ time found, (start body opened).answer? now next = some (time, .ok found) ∧
      time ≤ max now (opened + body.endDelay) := by
  have hclosed : (start body opened).ending = .closed := hending
  cases next with
  | none =>
      exact ⟨max now (start body opened).endTime, none, by simp [answer?, failure?, hclosed],
        Int.le_refl _⟩
  | some chunk =>
      have htime := time_le_of_mem_start hending (hnext chunk rfl)
      refine ⟨max now chunk.time, some chunk.bytes, by simp [answer?, failure?, hclosed], ?_⟩
      exact Int.max_le.mpr ⟨Int.le_max_left _ _, Int.le_trans htime (Int.le_max_right _ _)⟩

end Feed

namespace Client.Stream

open Progress

variable {σ ρ α : Type} {setting : Setting σ ρ α} {P : Session σ α → Prop} {feed : Feed}
  {progress : Progress σ ρ α} {rest : List Arrival}

/-! ### What holds of the session of a stream -/

/-- Records, items, and the waits of a stream keep a property of its session. -/
structure Setting.Keeps (setting : Setting σ ρ α) (P : Session σ α → Prop) : Prop where
  write : ∀ session records, P session → P (session.write records)
  offer : ∀ session value, P session → P (session.offer setting.consumer value)
  connect : ∀ time ended, setting.connect = some (time, ended) → P setting.start.session →
    P (setting.start.session.wait time)
  await : ∀ feed progress rest time ended, setting.Reaches feed progress rest →
    progress.awaits setting.deadline feed rest.head? = some (time, ended) → P progress.session →
    P (progress.session.wait time)

namespace Setting.Keeps

variable (hkeeps : setting.Keeps P)

include hkeeps

theorem hand (hprogress : P progress.session) (lines : List Text) :
    P (progress.hand setting.reading setting.consumer lines).1.session := by
  induction lines generalizing progress with
  | nil => exact hprogress
  | cons line rest ih =>
      rw [Progress.hand]
      split
      · exact hprogress
      · exact ih hprogress
      · rename_i memory value _
        have hoffered := hkeeps.offer progress.session value hprogress
        simp only
        split
        · exact hoffered
        · exact ih hoffered

theorem turn {chunk : Arrival} {time : Time} {after : Progress σ ρ α} {verdict : Option Verdict}
    (hturn : setting.Turn feed progress chunk time after verdict)
    (hreached : setting.Reaches feed progress (chunk :: rest)) (hprogress : P progress.session) :
    P after.session := by
  have hread := hkeeps.await feed progress _ time _ hreached hturn.read hprogress
  have hhanded : P (((progress.begun (some chunk)).receive time chunk.bytes).1.hand setting.reading
      setting.consumer (progress.buffer.feed chunk.bytes).2).1.session :=
    hkeeps.hand hread (progress.buffer.feed chunk.bytes).2
  rwa [hturn.handed] at hhanded

theorem reaches (hreached : setting.Reaches feed progress rest) (hstart : P setting.start.session) :
    P progress.session := by
  induction hreached with
  | opened request time response _ _ hconnect _ =>
      exact hkeeps.write _ _ (hkeeps.connect time _ hconnect hstart)
  | turned progress after chunk rest time hreached hturn ih =>
      exact hkeeps.turn hturn hreached ih

theorem settle (hreached : setting.Reaches feed progress rest) {outcome : Outcome (Option Bytes)}
    (houtcome : progress.awaits setting.deadline feed rest.head? = outcome)
    (hprogress : P progress.session) :
    P ((progress.begun rest.head?).settle outcome).1.session := by
  cases outcome with
  | none => exact hprogress
  | some found =>
      rw [settle_some]
      exact hkeeps.await feed progress rest found.1 found.2 hreached houtcome hprogress

/-- **What the waits, the records and the items keep, a stream keeps.** -/
theorem run (hstart : P setting.start.session) : P setting.run.progress.session := by
  have hrests {last : Progress σ ρ α} {verdict : Verdict} (hlast : P last.session)
      (hrests : setting.run.Rests last verdict) : P setting.run.progress.session := by
    obtain ⟨records, hsession⟩ := hrests.session_eq
    rw [hsession]
    exact hkeeps.write _ _ hlast
  cases setting.finishes with
  | early _ hlast => exact hrests hstart hlast
  | unbuildable _ hlast => exact hrests hstart hlast
  | silent _ _ hlast => exact hrests hstart hlast
  | refused time failure _ hconnect hlast =>
      exact hrests (hkeeps.connect time _ hconnect hstart) hlast
  | interrupted time _ hconnect hlast =>
      exact hrests (hkeeps.connect time _ hconnect hstart) hlast
  | bodiless time response _ hconnect hlast =>
      exact hrests (hkeeps.connect time _ hconnect hstart) hlast
  | halted feed progress rest hreached _ hlast =>
      exact hrests (hkeeps.reaches hreached hstart) hlast
  | waited feed progress rest outcome hreached _ houtcome _ hlast =>
      exact hrests (hkeeps.settle hreached houtcome (hkeeps.reaches hreached hstart)) hlast
  | handed feed progress after chunk rest time verdict hreached hturn hlast =>
      exact hrests (hkeeps.turn hturn hreached (hkeeps.reaches hreached hstart)) hlast

end Setting.Keeps

namespace Setting

/-- **The signal and the leaving are those of the consumer.** -/
theorem exists_replays (setting : Setting σ ρ α) :
    ∃ items, setting.start.session.Replays setting.consumer items setting.run.progress.session := by
  have hkeeps : setting.Keeps fun session =>
      ∃ items, setting.start.session.Replays setting.consumer items session := by
    constructor
    · rintro session records ⟨items, hreplays⟩
      exact ⟨items, hreplays.write records⟩
    · rintro session value ⟨items, hreplays⟩
      exact ⟨_, hreplays.offer value⟩
    · rintro time ended - ⟨items, hreplays⟩
      exact ⟨items, hreplays.wait time⟩
    · rintro feed progress rest time ended - - ⟨items, hreplays⟩
      exact ⟨items, hreplays.wait time⟩
  exact hkeeps.run ⟨[], Session.Replays.refl _ _⟩

/-- A stream stops only with the signal. -/
theorem isStopped_of_stopped (hverdict : setting.run.verdict = .stopped) :
    setting.run.progress.session.isStopped = true := by
  cases setting.finishes with
  | early hstopped hrests => rw [hrests.isStopped_eq, hstopped]
  | unbuildable _ hrests => simpa using hrests.of_verdict hverdict
  | silent _ _ hrests => simpa using hrests.of_verdict hverdict
  | refused time failure _ _ hrests => simpa using hrests.of_verdict hverdict
  | interrupted time _ hconnect hrests =>
      obtain ⟨stop, hstop, hle⟩ := of_send_stopped hconnect
      rw [hrests.isStopped_eq]
      exact Session.isStopped_wait hstop hle
  | bodiless time response _ _ hrests => simpa using hrests.of_verdict hverdict
  | halted feed progress rest _ hstopped hrests => rw [hrests.isStopped_eq, hstopped]
  | waited feed progress rest outcome _ _ houtcome _ hrests =>
      have hstopped := hrests.of_verdict hverdict
      rcases outcome with _ | ⟨time, found | failure | _⟩
      · simp [Progress.settle] at hstopped
      · simp [Progress.settle] at hstopped
      · simp [Progress.settle] at hstopped
      · obtain ⟨stop, hstop, hle⟩ := Bounds.of_waitFor_stopped houtcome
        rw [hrests.isStopped_eq, settle_some]
        exact Session.isStopped_wait hstop hle
  | handed feed progress after chunk rest time verdict _ hturn hrests =>
      obtain rfl := hrests.of_verdict hverdict
      cases hturn.isHanded

/-- A stream is left only by its consumer. -/
theorem left_of_left (hverdict : setting.run.verdict = .left) :
    setting.run.progress.session.left = true := by
  cases setting.finishes with
  | early _ hrests => simpa using hrests.of_verdict hverdict
  | unbuildable _ hrests => simpa using hrests.of_verdict hverdict
  | silent _ _ hrests => simpa using hrests.of_verdict hverdict
  | refused time failure _ _ hrests => simpa using hrests.of_verdict hverdict
  | interrupted time _ _ hrests => simpa using hrests.of_verdict hverdict
  | bodiless time response _ _ hrests => simpa using hrests.of_verdict hverdict
  | halted feed progress rest _ _ hrests => simpa using hrests.of_verdict hverdict
  | waited feed progress rest outcome _ _ _ _ hrests =>
      have hleft := hrests.of_verdict hverdict
      rcases outcome with _ | ⟨time, found | failure | _⟩ <;> simp [Progress.settle] at hleft
  | handed feed progress after chunk rest time verdict _ hturn hrests =>
      obtain rfl := hrests.of_verdict hverdict
      obtain ⟨records, hsession⟩ := hrests.session_eq
      rw [hsession]
      cases hturn.isHanded with
      | left _ _ _ hleft => exact hleft

end Setting

/-! ### What comes in between -/

namespace Setting

/-- Up to the horizon nothing comes between a stream and its body: neither the consumer nor anything
else gives the stop signal, the time limit does not run out, and the consumer stays. -/
structure IsUndisturbed (setting : Setting σ ρ α) (pause : Nat) (horizon : Time) : Prop where
  consumer : setting.consumer.IsPatient setting.start.session.state pause horizon
  stays : setting.start.session.left = false
  stop : ∀ stop ∈ setting.start.session.stop, horizon < stop
  deadline : ∀ deadline ∈ setting.deadline, horizon < deadline.expiry

theorem Reaches.isSuffix (hreached : setting.Reaches feed progress rest) :
    rest <:+ feed.chunks := by
  induction hreached with
  | opened => exact List.suffix_rfl
  | turned progress after chunk rest time _ _ ih => exact (List.suffix_cons chunk rest).trans ih

theorem Reaches.feed_eq (hreached : setting.Reaches feed progress rest) {delay : Nat}
    {status : Number} {body : Body} (hreply : setting.reply = .response delay status (some body)) :
    feed = Feed.start body (setting.start.session.now + delay) := by
  induction hreached with
  | opened request time response _ _ hconnect hbody =>
      obtain ⟨late, found, hfound, -, hopened⟩ := Reply.answer?_eq_ok (of_send_value hconnect).2
      rw [hreply, Reply.response.injEq] at hfound
      obtain ⟨rfl, -, rfl⟩ := hfound
      rw [hbody] at hopened
      exact Option.some.inj hopened
  | turned _ _ _ _ _ _ _ ih => exact ih

/-- What a stream waits for in a body that is closed is there when the body is over. -/
theorem Reaches.awaits_le (hreached : setting.Reaches feed progress rest) {delay : Nat}
    {status : Number} {body : Body} (hreply : setting.reply = .response delay status (some body))
    (hending : body.ending = .closed) {time : Time} {ended : Ended (Option Bytes)}
    (hawaits : progress.awaits setting.deadline feed rest.head? = some (time, ended)) :
    time ≤ max progress.session.now (setting.start.session.now + delay + body.endDelay) := by
  obtain rfl := hreached.feed_eq hreply
  obtain ⟨reached, answer, hanswer, hle⟩ :=
    Feed.exists_answer?_of_closed progress.session.now hending fun chunk hchunk =>
      hreached.isSuffix.mem (List.mem_of_mem_head? hchunk)
  rw [awaits_eq_cut, hanswer] at hawaits
  exact Int.le_trans (Bounds.le_of_cut hawaits _ rfl) hle

section Fresh

variable (hfresh : setting.start.IsFresh)

include hfresh

/-- Also without a request, the consumer has what is on the lines that were read. -/
theorem handed :
    IsCurrent setting.reading setting.start setting.run.progress ∨
      (∃ failure, setting.run.verdict = .failed failure ∧
        IsBroken setting.reading setting.start setting.run.progress failure) ∨
      setting.run.verdict = .left ∧
        IsPartial setting.reading setting.start setting.run.progress := by
  cases hrunning : setting.start.session.isStopped with
  | true => exact Or.inl (by rw [run_of_isStopped hrunning]; exact hfresh.isCurrent _)
  | false =>
      cases hrequest : setting.request? with
      | none => exact Or.inl (by rw [run_of_unbuildable hrunning hrequest]; exact hfresh.isCurrent _)
      | some request => exact (answered hrunning hrequest hfresh).2.handed

variable {delay : Nat} {status : Number} {body : Body}
  (hreply : setting.reply = .response delay status (some body))

include hreply

theorem chunks_isPrefix :
    setting.run.progress.chunks.map Arrival.bytes <+:
      (Feed.start body (setting.start.session.now + delay)).chunks.map Arrival.bytes := by
  cases hrunning : setting.start.session.isStopped with
  | true => simp [run_of_isStopped hrunning, hfresh.chunks]
  | false =>
      cases hrequest : setting.request? with
      | none => simp [run_of_unbuildable hrunning hrequest, hfresh.chunks]
      | some request =>
          have hanswered := (answered hrunning hrequest hfresh).2
          rw [hreply] at hanswered
          exact hanswered.chunks_isPrefix

/-- Whatever comes in between, nothing but the first items in the body is handed over. -/
theorem exists_shown :
    ∃ shown, setting.run.progress.session.values = setting.start.session.values ++ shown ∧
      shown <+: (transcript setting.reading setting.start.memory body.lines).items := by
  obtain ⟨more, hmore⟩ :=
    LineBuffer.complete_decode_isPrefix (bytes_isPrefix (chunks_isPrefix hfresh hreply))
  rw [Feed.bytes_start, ← Body.lines] at hmore
  have hitems := items_transcript_isPrefix setting.reading setting.start.memory
    setting.run.progress.lines more
  rw [Progress.lines, hmore] at hitems
  rcases handed hfresh with hcurrent | ⟨_, _, hbroken⟩ | ⟨_, shown, hshown, hvalues⟩
  · exact ⟨_, hcurrent.values, hitems⟩
  · exact ⟨_, hbroken.values, hitems⟩
  · exact ⟨shown, hvalues, hshown.trans hitems⟩

end Fresh

section Success

variable {delay : Nat} {status : Number} {body : Body}
  (hreply : setting.reply = .response delay status (some body))
  (hsuccess : Response.isSuccess ⟨status, none⟩ = true)

include hreply hsuccess

theorem send_of_success :
    send {} setting.start.session.now setting.reply =
      some (setting.start.session.now + delay,
        .value ⟨status, some (Feed.start body (setting.start.session.now + delay))⟩) := by
  have hstatus (feed : Option Feed) : Response.isSuccess ⟨status, feed⟩ = true := hsuccess
  rw [hreply]
  simp [send, Reply.answer?, Bounds.waitFor, Clock.sooner, Outcome.ofExcept, Outcome.andThen,
    hstatus]

/-- The wait for a success is over when the success is there, at the latest. -/
theorem connect_le {time : Time} {ended : Ended Response}
    (hconnect : setting.connect = some (time, ended)) :
    time ≤ setting.start.session.now + delay := by
  rw [connect_eq_cut, send_of_success hreply hsuccess] at hconnect
  exact Bounds.le_of_cut hconnect _ rfl

/-- A success that comes up to the horizon is opened. -/
theorem IsUndisturbed.opens {pause : Nat} {horizon : Time}
    (hundisturbed : setting.IsUndisturbed pause horizon) (hrequest : setting.request?.isSome = true)
    (hhorizon : setting.start.session.now + delay ≤ horizon) :
    setting.Opens (Feed.start body (setting.start.session.now + delay)) where
  running := by
    rw [← Bool.not_eq_true, Session.isStopped_iff]
    rintro ⟨stop, hstop, hle⟩
    have hlt := hundisturbed.stop stop hstop
    simp only [Time] at *
    omega
  sent := hrequest
  connected := by
    have hopen : Bounds.IsOpen ⟨setting.start.session.stop, setting.deadline⟩
        (setting.start.session.now + delay) :=
      ⟨fun stop hstop => Int.lt_of_le_of_lt hhorizon (hundisturbed.stop stop hstop),
        fun deadline hdeadline =>
          Int.lt_of_le_of_lt hhorizon (hundisturbed.deadline deadline hdeadline)⟩
    have hconnect := setting.connect_eq_cut
    rw [send_of_success hreply hsuccess, Bounds.cut_of_isOpen hopen] at hconnect
    exact ⟨_, _, hconnect, rfl⟩

/-- As long as nothing comes in between, a body that is closed is over when its end and the time for
which its items were held are. -/
theorem IsUndisturbed.isCalm {pause : Nat} {horizon : Time}
    (hundisturbed : setting.IsUndisturbed pause horizon) (hending : body.ending = .closed) :
    ∃ given, setting.start.session.Replays setting.consumer given setting.run.progress.session ∧
      setting.run.progress.session.IsCalm pause
        (setting.start.session.now + delay + body.endDelay) horizon given.length := by
  let base := setting.start.session.now + delay + body.endDelay
  have hkeeps : setting.Keeps fun session => ∃ given,
      setting.start.session.Replays setting.consumer given session ∧
        session.IsCalm pause base horizon given.length := by
    constructor
    · rintro session records ⟨given, hreplays, hcalm⟩
      exact ⟨given, hreplays.write records, hcalm.write records⟩
    · rintro session value ⟨given, hreplays, hcalm⟩
      refine ⟨_, hreplays.offer value, ?_⟩
      rw [List.length_append, List.length_singleton]
      exact hcalm.offer hreplays hundisturbed.consumer value
    · rintro time ended hconnect ⟨given, hreplays, hcalm⟩
      have hle := connect_le hreply hsuccess hconnect
      refine ⟨given, hreplays.wait time, hcalm.wait (Int.le_trans hle ?_)⟩
      exact Int.le_trans (Int.le_add_of_nonneg_right (Int.natCast_nonneg _)) (Int.le_max_right _ _)
    · rintro feed progress rest time ended hreached hawaits ⟨given, hreplays, hcalm⟩
      exact ⟨given, hreplays.wait time,
        hcalm.wait (hreached.awaits_le hreply hending hawaits)⟩
  refine hkeeps.run ⟨[], .refl _ _, hundisturbed.stop, hundisturbed.stays, ?_⟩
  rw [List.length_nil, Nat.mul_zero]
  simp only [base, Time] at *
  omega

/-- **What is undisturbed is not cut short.** The horizon is not before the end of the body, with
the time for which its items may be held. -/
theorem IsUndisturbed.verdict_ne {pause : Nat} {horizon : Time}
    (hundisturbed : setting.IsUndisturbed pause horizon) (hending : body.ending = .closed)
    (hfresh : setting.start.IsFresh) (htimeless : IsTimelessReading setting.reading)
    (hhorizon : setting.start.session.now + delay + body.endDelay +
      (pause * (transcript setting.reading setting.start.memory body.lines).items.length : Nat) ≤
        horizon) :
    setting.run.verdict ≠ .stopped ∧ setting.run.verdict ≠ .left ∧
      ∀ limit, setting.run.verdict ≠ .failed (.timedOut limit) := by
  obtain ⟨given, hreplays, hcalm⟩ := hundisturbed.isCalm hreply hsuccess hending
  obtain ⟨shown, hvalues, hshown⟩ := exists_shown hfresh hreply
  have hgiven : given.map Prod.snd = shown := by
    rw [Session.values, hreplays.items, List.map_append] at hvalues
    exact List.append_cancel_left hvalues
  have hlength := hshown.length_le
  rw [← hgiven, List.length_map] at hlength
  have hnow : setting.run.progress.session.now ≤ horizon := by
    have hpauses := Int.ofNat_le.mpr (Nat.mul_le_mul_left pause hlength)
    exact Int.le_trans hcalm.now (Int.le_trans (Int.add_le_add_left hpauses _) hhorizon)
  refine ⟨fun hverdict => ?_, fun hverdict => ?_, fun limit hverdict => ?_⟩
  · obtain ⟨stop, hstop, hle⟩ := Session.isStopped_iff.mp (isStopped_of_stopped hverdict)
    exact absurd (Int.lt_of_lt_of_le (hcalm.signal stop hstop) hle) (Int.not_lt.mpr hnow)
  · simpa [hcalm.stays] using left_of_left hverdict
  · obtain ⟨deadline, hdeadline, -, hle⟩ := expiry_le_of_isTimelessReading htimeless hverdict
    exact absurd (Int.lt_of_lt_of_le (hundisturbed.deadline deadline hdeadline) hle)
      (Int.not_lt.mpr hnow)

end Success

end Setting

end Client.Stream

end ResourceWatch
