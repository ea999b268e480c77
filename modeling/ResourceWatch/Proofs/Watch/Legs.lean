import ResourceWatch.Proofs.Client.Answers
import ResourceWatch.Proofs.Client.Consumers
import ResourceWatch.Proofs.Url.Appending
import ResourceWatch.Proofs.Watch.Changes
import ResourceWatch.Watch.Continuous

/-!
# One request of a run

A run that follows a collection is made of legs, one for each request. Here is all that the run
needs to know of a leg: which request it sends, what it hands over, and what comes behind it.
-/

namespace ResourceWatch

namespace Session

variable {σ α : Type}

/-- Items are handed over in order, and all of them if the consumer stays. -/
theorem values_offerAll (consumer : Consumer σ α) (session : Session σ α) (items : List α) :
    ∃ shown, shown <+: items ∧
      (session.offerAll consumer items).values = session.values ++ shown ∧
      ((session.offerAll consumer items).left = false → shown = items) := by
  induction items generalizing session with
  | nil => exact ⟨[], List.prefix_refl _, by simp [offerAll], fun _ => rfl⟩
  | cons value rest ih =>
      simp only [offerAll]
      split
      · rename_i hleft
        exact ⟨[value], by simp, values_offer consumer session value, by simp [hleft]⟩
      · obtain ⟨shown, hshown, hvalues, hall⟩ := ih (session.offer consumer value)
        refine ⟨value :: shown, by simpa using hshown, by simp [hvalues], fun hleft => ?_⟩
        rw [hall hleft]

end Session

theorem Outcome.andThen_eq_stopped {α β : Type} {outcome : Outcome α}
    {next : Time → α → Outcome β} {time : Time}
    (hstopped : outcome.andThen next = some (time, .stopped)) :
    outcome = some (time, .stopped) ∨
      ∃ reached value, outcome = some (reached, .value value) ∧
        next reached value = some (time, .stopped) := by
  rcases outcome with _ | ⟨reached, value | failure | _⟩
  · simp [andThen] at hstopped
  · exact Or.inr ⟨reached, value, rfl, hstopped⟩
  · simp [andThen] at hstopped
  · exact Or.inl (by simpa [andThen] using hstopped)

theorem Outcome.andThen_eq_value {α β : Type} {outcome : Outcome α}
    {next : Time → α → Outcome β} {time : Time} {result : β}
    (hvalue : outcome.andThen next = some (time, .value result)) :
    ∃ reached value, outcome = some (reached, .value value) ∧
      next reached value = some (time, .value result) := by
  rcases outcome with _ | ⟨reached, value | failure | _⟩
  · simp [andThen] at hvalue
  · exact ⟨reached, value, rfl, hvalue⟩
  · simp [andThen] at hvalue
  · simp [andThen] at hvalue

namespace Client.Call

theorem check_ne_stopped {α β : Type} {call : Call α} {next : α → Except Failure β}
    (hcall : ∀ time, call.outcome ≠ some (time, .stopped)) (time : Time) :
    (call.check next).outcome ≠ some (time, .stopped) := by
  intro hstopped
  rcases Outcome.andThen_eq_stopped hstopped with houtcome | ⟨reached, value, -, hnext⟩
  · exact hcall time houtcome
  · cases hvalue : next value <;> simp [hvalue, Outcome.ofExcept] at hnext

theorem list_ne_stopped (client : Client) (now : Time) (url : Text)
    (headers : List (Text × Text)) (timeoutMs : Option Number) (reply : Reply) (time : Time) :
    (list client now url headers timeoutMs reply).outcome ≠ some (time, .stopped) := by
  refine check_ne_stopped (check_ne_stopped fun time hstopped => ?_) time
  simp only [run] at hstopped
  split at hstopped
  · simp at hstopped
  · rcases Outcome.andThen_eq_stopped hstopped with hsend | ⟨reached, response, -, hread⟩
    · obtain ⟨stop, hstop, -⟩ := of_send_stopped hsend
      simp at hstop
    · obtain ⟨stop, hstop, -⟩ := Bounds.of_waitFor_stopped hread
      simp at hstop

theorem list_exchange (client : Client) (now : Time) (url : Text)
    (headers : List (Text × Text)) (timeoutMs : Option Number) (reply : Reply) :
    (list client now url headers timeoutMs reply).exchange.map
        (fun exchange => (exchange.time, exchange.request)) =
      (client.build? .get url { headers }).map (now, ·) := by
  simp only [list, get_eq_json, json, check, run]
  cases client.build? .get url { headers } <;> rfl

/-- A listing that is there was asked for, and the server has responded. -/
theorem of_list_value {client : Client} {now : Time} {url : Text} {headers : List (Text × Text)}
    {timeoutMs : Option Number} {reply : Reply} {time : Time} {found : ObjectList}
    (hlist : (list client now url headers timeoutMs reply).outcome = some (time, .value found)) :
    (client.build? .get url { headers }).isSome = true ∧
      ∃ delay status body, reply = .response delay status body := by
  rw [list, get_eq_json] at hlist
  obtain ⟨_, value, hjson, -⟩ := Outcome.andThen_eq_value hlist
  obtain ⟨_, text, hrun, -⟩ := Outcome.andThen_eq_value hjson
  simp only [run] at hrun
  cases hrequest : client.build? .get url { headers } with
  | none => simp [hrequest] at hrun
  | some request =>
      simp only [hrequest] at hrun
      obtain ⟨_, response, hsend, -⟩ := Outcome.andThen_eq_value hrun
      obtain ⟨delay, body, hreply, -⟩ := Reply.answer?_eq_ok (of_send_value hsend).2
      exact ⟨rfl, delay, response.status, body, hreply⟩

/-- A listing without a time limit has the objects that its body spells. -/
theorem list_of_closed {client : Client} {now : Time} {url : Text} {delay : Nat} {status : Number}
    {body : Body} {value : Json} {found : ObjectList} (htimeout : client.requestTimeoutMs = none)
    (hrequest : (client.build? .get url {}).isSome = true)
    (hsuccess : Response.isSuccess ⟨status, none⟩ = true) (hclosed : body.ending = .closed)
    (hparse : Json.parse? (Response.decode body.bytes) = some value)
    (hcheck : ObjectList.check (some value) = .ok found) :
    (list client now url [] none (.response delay status (some body))).outcome =
      some (now + delay + body.endDelay, .value found) := by
  obtain ⟨request, hrequest⟩ := Option.isSome_iff_exists.mp hrequest
  have hwhole : Feed.whole? (Feed.start body (now + delay)) (now + delay) =
      some (now + delay + body.endDelay, .ok body.bytes) := by
    have hend : (Feed.start body (now + delay)).ending = .closed := hclosed
    rw [Feed.whole?, hend, Feed.bytes_start]
    simp only [Feed.start, Option.some.injEq, Prod.mk.injEq, and_true, Time]
    omega
  have hstatus (feed : Option Feed) : Response.isSuccess ⟨status, feed⟩ = true := hsuccess
  have hdeadline :
      Deadline.start? now ((none : Option Number).or client.requestTimeoutMs) = none := by
    rw [htimeout]
    rfl
  simp only [list, get_eq_json, json, check, run, send, hrequest, hdeadline, Reply.answer?,
    Bounds.waitFor, Clock.sooner, Outcome.ofExcept, Outcome.andThen, hstatus, Response.text?,
    hwhole, Except.map, Lines.record, hparse, hcheck, Option.map_some, Option.map_none, if_true]
  rfl

end Client.Call

/-- The bytes that a stream can read of a reply: those of the body of a success. -/
def Reply.streamed : Reply → Bytes
  | .response _ status (some body) =>
    if Response.isSuccess ⟨status, none⟩ then body.bytes else []
  | _ => []

namespace Watch

open Client

variable {σ : Type} {client : Client} {url : Text} {consumer : Consumer σ Event}
  {version : Option Text} {reply : Reply} {session : Session σ Event}

namespace Leg

/-- The request that was sent, if one was. -/
def request? (leg : Leg σ) : Option Request :=
  leg.exchange.map Exchange.request

/-- The bytes that a watch read. -/
def bytes (leg : Leg σ) : Bytes :=
  leg.chunks.flatMap Arrival.bytes

/-- The lines that a watch received. -/
def lines (leg : Leg σ) : List Text :=
  Lines.complete (Utf8.decode leg.bytes)

/-- The events and bookmarks that a watch received. -/
def received (leg : Leg σ) : List WatchEvent :=
  eventsOf leg.lines

end Leg

/-! ### Listings -/

/-- What became of a listing. -/
inductive Listed (client : Client) (url : Text) (reply : Reply) (session : Session σ Event)
    (leg : Leg σ) : Prop where
  | listed (time : Time) (found : ObjectList)
      (hlist : (Call.list client session.now url [] none reply).outcome = some (time, .value found))
      (hverdict : leg.verdict = .closed) (hnext : leg.next = some (.watching found.resourceVersion))
      (hvalues : leg.session.values = session.values ++ found.items.map .listed)
      (hstays : leg.session.left = false)
  | left (time : Time) (found : ObjectList) (shown : List Event)
      (hlist : (Call.list client session.now url [] none reply).outcome = some (time, .value found))
      (hverdict : leg.verdict = .left) (hnext : leg.next = none)
      (hshown : shown <+: found.items.map .listed)
      (hvalues : leg.session.values = session.values ++ shown) (hleft : leg.session.left = true)
  | failed (time : Time) (failure : Failure)
      (hlist : (Call.list client session.now url [] none reply).outcome =
        some (time, .failed failure))
      (hverdict : leg.verdict = .failed failure) (hnext : leg.next = none)
  | pending (hlist : (Call.list client session.now url [] none reply).outcome = none)
      (hverdict : leg.verdict = .pending) (hnext : leg.next = none)

/-- **What a listing does.** -/
theorem listed_list (client : Client) (url : Text) (consumer : Consumer σ Event) (reply : Reply)
    (session : Session σ Event) :
    Listed client url reply session (list client url consumer reply session) := by
  simp only [list]
  rcases houtcome : (Call.list client session.now url [] none reply).outcome with
    _ | ⟨time, found | failure | _⟩
  · exact .pending houtcome rfl rfl
  · simp only
    obtain ⟨shown, hshown, hvalues, hall⟩ := Session.values_offerAll consumer
      ((session.write (Call.list client session.now url [] none reply).log).wait time)
      (found.items.map .listed)
    simp only [Session.values_wait, Session.values_write] at hvalues
    split
    · rename_i hleft
      exact .left time found shown houtcome rfl rfl hshown hvalues hleft
    · rename_i hleft
      refine .listed time found houtcome rfl rfl ?_ (by simpa using hleft)
      rw [hvalues, hall (by simpa using hleft)]
  · exact .failed time failure houtcome rfl rfl
  · exact absurd houtcome (Call.list_ne_stopped client session.now url [] none reply time)

/-- What a listing does with its response is told by its session, its end and what comes next. -/
theorem list_eq (client : Client) (url : Text) (consumer : Consumer σ Event) (reply : Reply)
    (session : Session σ Event) :
    ∃ after verdict next, list client url consumer reply session =
      { phase := .listing
        exchange := (Call.list client session.now url [] none reply).exchange
        timer := (Call.list client session.now url [] none reply).timer
        chunks := []
        session := after
        verdict
        next } := by
  simp only [list]
  split
  · exact ⟨_, _, _, rfl⟩
  · exact ⟨_, _, _, rfl⟩
  · exact ⟨_, _, _, rfl⟩
  · split <;> exact ⟨_, _, _, rfl⟩

theorem phase_list (client : Client) (url : Text) (consumer : Consumer σ Event) (reply : Reply)
    (session : Session σ Event) : (list client url consumer reply session).phase = .listing := by
  obtain ⟨after, verdict, next, hlist⟩ := list_eq client url consumer reply session
  rw [hlist]

theorem list_chunks (client : Client) (url : Text) (consumer : Consumer σ Event) (reply : Reply)
    (session : Session σ Event) : (list client url consumer reply session).chunks = [] := by
  obtain ⟨after, verdict, next, hlist⟩ := list_eq client url consumer reply session
  rw [hlist]

theorem list_eq_exchange (client : Client) (url : Text) (consumer : Consumer σ Event)
    (reply : Reply) (session : Session σ Event) :
    (list client url consumer reply session).exchange.map
        (fun exchange => (exchange.time, exchange.request)) =
      (client.build? .get url {}).map (session.now, ·) := by
  obtain ⟨after, verdict, next, hlist⟩ := list_eq client url consumer reply session
  rw [hlist]
  exact Call.list_exchange client session.now url [] none reply

/-- What comes behind a watch with this end that remembers this version. -/
def nextOf (last : Option Text) : Verdict → Option Phase
  | .closed | .stopped => some (.watching last)
  | .failed failure => if failure.isGone then some .listing else none
  | .left | .pending => none

/-- A watch whose request was sent, and how its stream stands in the end. -/
structure Watched (reply : Reply) (version : Option Text) (session : Session σ Event)
    (progress : Stream.Progress σ (Option Text) Event) (leg : Leg σ) : Prop where
  chunks : leg.chunks = progress.chunks
  values : leg.session.values = progress.session.values
  stopped : leg.verdict = .stopped → leg.session.isStopped = true
  left : leg.verdict = .left → leg.session.left = true
  next : leg.next = nextOf progress.memory leg.verdict
  answered : Stream.Answered changes none reply { session, memory := version } progress leg.verdict

/-- The stream of a watch. -/
def streamOf (client : Client) (url : Text) (consumer : Consumer σ Event) (version : Option Text)
    (reply : Reply) (session : Session σ Event) : Stream.Setting σ (Option Text) Event :=
  ⟨client, changes, consumer, address client.watchTimeoutSeconds url version, [], none, reply,
    { session, memory := version }⟩

/-- Behind its stream a watch only writes records. -/
theorem watch_eq (client : Client) (url : Text) (consumer : Consumer σ Event)
    (version : Option Text) (reply : Reply) (session : Session σ Event) :
    ∃ records, watch client url consumer version reply session =
      { phase := .watching version
        exchange := (streamOf client url consumer version reply session).run.exchange
        timer := (streamOf client url consumer version reply session).run.timer
        chunks := (streamOf client url consumer version reply session).run.progress.chunks
        session :=
          (streamOf client url consumer version reply session).run.progress.session.write records
        verdict := (streamOf client url consumer version reply session).run.verdict
        next := nextOf (streamOf client url consumer version reply session).run.progress.memory
          (streamOf client url consumer version reply session).run.verdict } := by
  have hwrite (found : Session σ Event) : found.write [] = found := by simp [Session.write]
  have hstream : Stream.run client changes consumer
      (address client.watchTimeoutSeconds url version) [] none reply { session, memory := version } =
        (streamOf client url consumer version reply session).run := rfl
  unfold watch
  simp only
  rw [hstream]
  generalize (streamOf client url consumer version reply session).run = stream
  cases hverdict : stream.verdict with
  | closed => exact ⟨[], by rw [hwrite, nextOf]⟩
  | stopped => exact ⟨[], by rw [hwrite, nextOf]⟩
  | left => exact ⟨[], by rw [hwrite, nextOf]⟩
  | pending => exact ⟨[], by rw [hwrite, nextOf]⟩
  | failed failure =>
      simp only [nextOf]
      split
      · exact ⟨_, rfl⟩
      · exact ⟨[], by rw [hwrite]⟩

/-- **What a watch does.** Its request is built, sent and answered, or the watch fails. -/
theorem watched_watch (client : Client) (url : Text) (consumer : Consumer σ Event)
    (version : Option Text) (reply : Reply) (hstopped : session.isStopped = false) :
    (watch client url consumer version reply session).request? =
        client.build? .get (address client.watchTimeoutSeconds url version) {} ∧
      ((client.build? .get (address client.watchTimeoutSeconds url version) {} = none ∧
          watch client url consumer version reply session =
            { phase := .watching version, exchange := none, timer := none, chunks := [], session
              verdict := .failed .unbuildable, next := none }) ∨
        (client.build? .get (address client.watchTimeoutSeconds url version) {}).isSome = true ∧
          ∃ progress, Watched reply version session progress
            (watch client url consumer version reply session)) := by
  obtain ⟨records, hwatch⟩ := watch_eq client url consumer version reply session
  cases hrequest : client.build? .get (address client.watchTimeoutSeconds url version) {} with
  | none =>
      have hstream : Stream.run client changes consumer
          (address client.watchTimeoutSeconds url version) [] none reply
          { session, memory := version } =
            { timer := none, progress := { session, memory := version }
              verdict := .failed .unbuildable } :=
        Stream.run_of_unbuildable changes consumer none reply hstopped hrequest
      have hleg : watch client url consumer version reply session =
          { phase := .watching version, exchange := none, timer := none, chunks := [], session
            verdict := .failed .unbuildable, next := none } := by
        simp [watch, hstream, Failure.isGone]
      exact ⟨by rw [hleg]; rfl, Or.inl ⟨rfl, hleg⟩⟩
  | some request =>
      have hsent : (streamOf client url consumer version reply session).request? = some request :=
        hrequest
      obtain ⟨hexchange, hanswered⟩ := Stream.Setting.answered hstopped hsent ⟨rfl, rfl⟩
      rw [hwatch]
      refine ⟨?_, Or.inr ⟨rfl, (streamOf client url consumer version reply session).run.progress,
        ⟨rfl, rfl, Stream.Setting.isStopped_of_stopped, Stream.Setting.left_of_left, rfl,
          hanswered⟩⟩⟩
      have hrequests := congrArg (Option.map Prod.snd) hexchange
      simpa [Leg.request?, Function.comp_def] using hrequests

/-- Why a watch is over whose request was sent and got this reply: with the stop signal or without
the consumer, or as the server refuses the request, or with a line or the end of the body. -/
inductive Leg.IsOver (reply : Reply) (leg : Leg σ) : Verdict → Prop where
  | stopped (hstopped : leg.session.isStopped = true) : IsOver reply leg .stopped
  | left (hleft : leg.session.left = true) : IsOver reply leg .left
  | refused (failure : Failure) (hrefuses : reply.Refuses failure) :
      IsOver reply leg (.failed failure)
  | line (failure : Failure) (hline : (refused? leg.lines).bind refusal? = some failure) :
      IsOver reply leg (.failed failure)
  | torn (delay : Nat) (status : Number) (body : Body) (error : Thrown)
      (hreply : reply = .response delay status (some body))
      (hsuccess : Response.isSuccess ⟨status, none⟩ = true) (hending : body.ending = .failed error)
      (hlines : refused? leg.lines = none) : IsOver reply leg (.failed (.external error))
  | closed (delay : Nat) (status : Number) (body : Option Body)
      (hreply : reply = .response delay status body)
      (hsuccess : Response.isSuccess ⟨status, none⟩ = true)
      (hending : ∀ whole ∈ body, whole.ending = .closed) (hbytes : leg.bytes = reply.streamed)
      (hlines : refused? leg.lines = none) : IsOver reply leg .closed
  | pending (hhangs : reply.Hangs) (hlines : refused? leg.lines = none) :
      IsOver reply leg .pending

/-- A watch that is answered with the status of a version that is gone. -/
def RefusesGone (reply : Reply) : Prop :=
  ∃ status, reply.AnswersWhole status ∧ Number.same status 410 = true

/-- A watch that reads an error event with the status of a version that is gone. -/
def Leg.RaisesGone (leg : Leg σ) : Prop :=
  ∃ line object code, refused? leg.lines = some line ∧ errorObject? line = some object ∧
    statusCode? object = some code ∧ Number.same code 410 = true

theorem raisesGone_iff (leg : Leg σ) :
    leg.RaisesGone ↔
      ∃ failure, (refused? leg.lines).bind refusal? = some failure ∧ failure.isGone = true := by
  constructor
  · rintro ⟨line, object, code, hline, hobject⟩
    obtain ⟨failure, hfailure, hgone⟩ := (isGone_refusal? line).mpr ⟨object, code, hobject⟩
    exact ⟨failure, by rw [hline, Option.bind_some, hfailure], hgone⟩
  · rintro ⟨failure, hfailure, hgone⟩
    obtain ⟨line, hline, hfailure⟩ := Option.bind_eq_some_iff.mp hfailure
    obtain ⟨object, code, hobject⟩ := (isGone_refusal? line).mp ⟨failure, hfailure, hgone⟩
    exact ⟨line, object, code, hline, hobject⟩

theorem not_raisesGone_of_chunks {leg : Leg σ} (hchunks : leg.chunks = []) : ¬leg.RaisesGone := by
  rintro ⟨line, _, _, hline, -⟩
  simp [Leg.lines, Leg.bytes, hchunks, Utf8.decode, Utf8.decodePoints, refused?] at hline

namespace Watched

variable {progress : Stream.Progress σ (Option Text) Event} {leg : Leg σ}

theorem lines_eq (hwatched : Watched reply version session progress leg) :
    leg.lines = progress.lines := by
  rw [Leg.lines, Leg.bytes, hwatched.chunks]
  rfl

theorem bytes_eq (hwatched : Watched reply version session progress leg) :
    leg.bytes = progress.bytes := by
  rw [Leg.bytes, hwatched.chunks]
  rfl

theorem isCurrent (hwatched : Watched reply version session progress leg)
    (hover : leg.verdict = .closed ∨ leg.verdict = .stopped) :
    Stream.Progress.IsCurrent changes { session, memory := version } progress := by
  rcases hwatched.answered.handed with hcurrent | ⟨failure, hfailed, -⟩ | ⟨hleft, -⟩
  · exact hcurrent
  · simp [hfailed] at hover
  · simp [hleft] at hover

theorem next_of_over (hwatched : Watched reply version session progress leg)
    (hover : leg.verdict = .closed ∨ leg.verdict = .stopped) :
    leg.next = some (.watching ((lastVersion? leg.received).or version)) := by
  have hmemory := (hwatched.isCurrent hover).memory
  rw [Stream.Progress.transcript, transcript_changes, ← hwatched.lines_eq, ← Leg.received] at hmemory
  rw [hwatched.next, hmemory]
  rcases hover with hverdict | hverdict <;> rw [hverdict, nextOf]

/-- Without a failure no line was refused. -/
theorem refused?_eq_none (hwatched : Watched reply version session progress leg)
    (hcurrent : Stream.Progress.IsCurrent changes { session, memory := version } progress) :
    refused? leg.lines = none := by
  have hfailure := hcurrent.failure
  rw [Stream.Progress.transcript, transcript_changes] at hfailure
  rw [hwatched.lines_eq]
  exact Watch.refused?_eq_none hfailure

theorem bytes_of_chunks (hwatched : Watched reply version session progress leg)
    (hchunks : progress.chunks = []) : leg.bytes = [] := by
  rw [Leg.bytes, hwatched.chunks, hchunks]
  rfl

/-- A watch reads nothing but the first bytes of a success. -/
theorem bytes_isPrefix (hwatched : Watched reply version session progress leg) :
    leg.bytes <+: reply.streamed := by
  have hnothing (hchunks : progress.chunks = []) : leg.bytes <+: reply.streamed := by
    rw [hwatched.bytes_of_chunks hchunks]
    exact List.nil_prefix
  have hanswered := hwatched.answered
  generalize leg.verdict = verdict at hanswered
  cases hanswered with
  | silent _ hchunks => exact hnothing hchunks
  | stopped _ hchunks => exact hnothing hchunks
  | refused _ _ _ hchunks => exact hnothing hchunks
  | bodiless _ _ hchunks => exact hnothing hchunks
  | body now response body hsuccess hreply hchunks =>
      obtain ⟨delay, rfl, -⟩ := hreply
      have hstatus : Response.isSuccess ⟨response.status, none⟩ = true := hsuccess
      have hread := Stream.Progress.bytes_isPrefix hchunks
      rw [Feed.bytes_start] at hread
      rwa [Reply.streamed, if_pos hstatus, hwatched.bytes_eq]

/-- **Why a watch is over is told by its reply**, if neither the signal nor the consumer ends it. -/
theorem isOver (hwatched : Watched reply version session progress leg) :
    leg.IsOver reply leg.verdict := by
  have hanswered := hwatched.answered
  have hstopped := hwatched.stopped
  have hleft := hwatched.left
  generalize leg.verdict = verdict at hanswered hstopped hleft
  cases hanswered with
  | silent hcurrent hchunks hsend =>
      rw [send_eq_cut, Bounds.cut_eq_none_iff] at hsend
      exact .pending (hangs_of_send hsend.2.2) (hwatched.refused?_eq_none hcurrent)
  | stopped => exact .stopped (hstopped rfl)
  | refused time failure hcurrent hchunks hsend => exact .refused failure (refuses_of_send hsend)
  | bodiless response hcurrent hchunks hsuccess hreply =>
      obtain ⟨delay, rfl⟩ := hreply
      exact .closed delay response.status none rfl hsuccess (by simp)
        (hwatched.bytes_of_chunks hchunks) (hwatched.refused?_eq_none hcurrent)
  | body now response body hsuccess hreply hchunks hconcluded =>
      obtain ⟨delay, rfl, -⟩ := hreply
      have hstatus : Response.isSuccess ⟨response.status, none⟩ = true := hsuccess
      cases hconcluded with
      | left => exact .left (hleft rfl)
      | broken failure hbroken =>
          have hfailure := hbroken.failure
          rw [Stream.Progress.transcript, transcript_changes, ← hwatched.lines_eq] at hfailure
          exact .line failure hfailure
      | current hcurrent hends =>
          have hlines := hwatched.refused?_eq_none hcurrent
          cases hends with
          | closed hending hbytes =>
              refine .closed delay response.status (some body) rfl hstatus ?_ ?_ hlines
              · rintro _ ⟨⟩
                exact hending
              · rw [hwatched.bytes_eq, hbytes, Feed.bytes_start, Reply.streamed, if_pos hstatus]
          | stopped => exact .stopped (hstopped rfl)
          | timedOut _ hdeadline => simp at hdeadline
          | failed error hending => exact .torn delay _ body error rfl hstatus hending hlines
          | pending hending => exact .pending (Or.inr ⟨delay, _, body, rfl, hending⟩) hlines

/-- **When the version is gone.** A watch fails so if it is answered so, or if it reads that. -/
theorem isGone_iff (hwatched : Watched reply version session progress leg) {failure : Failure}
    (hverdict : leg.verdict = .failed failure) :
    failure.isGone = true ↔ RefusesGone reply ∨ leg.RaisesGone := by
  have hanswered := hwatched.answered
  have hchunks := hwatched.chunks
  have hlines := hwatched.lines_eq
  rw [hverdict] at hanswered
  cases hanswered with
  | refused time failure hcurrent hnone hsend =>
      have hraises : ¬leg.RaisesGone := not_raisesGone_of_chunks (hchunks.trans hnone)
      rcases of_send_failed hsend with ⟨_, hdeadline, -⟩ | ⟨error, rfl, hnever⟩ |
        ⟨status, payload, rfl, hwhole⟩
      · simp at hdeadline
      · have hrefuses : ¬RefusesGone reply := fun ⟨status, hwhole, _⟩ => hnever status hwhole
        simp [Failure.isGone, hrefuses, hraises]
      · have hrefuses : RefusesGone reply ↔ Number.same status 410 = true := by
          refine ⟨?_, fun hsame => ⟨status, hwhole, hsame⟩⟩
          rintro ⟨other, hother, hsame⟩
          obtain ⟨_, _, hreply, -⟩ := hwhole
          obtain ⟨_, _, hreply', -⟩ := hother
          rw [hreply, Reply.response.injEq] at hreply'
          rw [hreply'.2.1]
          exact hsame
        simp [Failure.isGone, ApiError.errorClass, ErrorClass.ofStatus_eq_gone, hrefuses, hraises]
  | body now response body hsuccess hreply hinitial hconcluded =>
      have hrefuses : ¬RefusesGone reply := by
        rintro ⟨status, ⟨_, _, hwhole, -⟩, hsame⟩
        obtain ⟨_, hreply, -⟩ := hreply
        rw [hreply, Reply.response.injEq] at hwhole
        rw [← hwhole.2.1, Response.not_same_of_isSuccess hsuccess] at hsame
        simp at hsame
      have hraises : leg.RaisesGone ↔ ∃ found,
          (progress.transcript changes version).failure = some found ∧ found.isGone = true := by
        rw [raisesGone_iff, hlines, Stream.Progress.transcript, transcript_changes]
      rw [hraises, or_iff_right hrefuses]
      cases hconcluded with
      | broken _ hbroken => simp [hbroken.failure]
      | current hcurrent hends =>
          cases hends with
          | timedOut _ hdeadline => simp at hdeadline
          | failed error => simp [hcurrent.failure, Failure.isGone]

theorem of_refusal {delay : Nat} {error : Thrown}
    (hwatched : Watched (.refusal delay error) version session progress leg) :
    leg.chunks = [] ∧ leg.session.values = session.values ∧ leg.verdict ≠ .closed ∧
      ∀ failure, leg.verdict = .failed failure → failure.isGone = false := by
  obtain ⟨hchunks, hvalues, hclosed⟩ := hwatched.answered.of_refusal
  refine ⟨hwatched.chunks.trans hchunks, hwatched.values.trans hvalues, hclosed, ?_⟩
  intro failure hverdict
  have hraises : ¬leg.RaisesGone := not_raisesGone_of_chunks (hwatched.chunks.trans hchunks)
  have hrefuses : ¬RefusesGone (.refusal delay error) := by
    rintro ⟨status, ⟨_, _, hreply, -⟩, -⟩
    simp at hreply
  rw [Bool.eq_false_iff, ne_eq, hwatched.isGone_iff hverdict]
  exact not_or.mpr ⟨hrefuses, hraises⟩

end Watched

/-- Which of its ends a watch has, and what comes behind it. -/
theorem watch_cases (client : Client) (url : Text) (consumer : Consumer σ Event)
    (version : Option Text) (reply : Reply) (hstopped : session.isStopped = false) {leg : Leg σ}
    (hleg : watch client url consumer version reply session = leg) :
    (leg.next = none ∧ leg.verdict ≠ .closed ∧ leg.verdict ≠ .stopped ∧
        (leg.verdict = .left → leg.session.left = true) ∧
        ∀ failure, leg.verdict = .failed failure → failure.isGone = false) ∨
      ((leg.verdict = .closed ∨ leg.verdict = .stopped) ∧
        leg.next = some (.watching ((lastVersion? leg.received).or version))) ∨
      ((∃ failure, leg.verdict = .failed failure ∧ failure.isGone = true) ∧
        leg.next = some .listing) := by
  rcases (watched_watch client url consumer version reply hstopped).2 with
    ⟨-, hunsent⟩ | ⟨-, progress, hwatched⟩
  · rw [hleg] at hunsent
    refine Or.inl ?_
    rw [hunsent]
    simp [Failure.isGone]
  · rw [hleg] at hwatched
    have hnext := hwatched.next
    cases hverdict : leg.verdict with
    | closed => exact Or.inr (Or.inl ⟨Or.inl rfl, hwatched.next_of_over (Or.inl hverdict)⟩)
    | stopped => exact Or.inr (Or.inl ⟨Or.inr rfl, hwatched.next_of_over (Or.inr hverdict)⟩)
    | left =>
        rw [hverdict, nextOf] at hnext
        exact Or.inl ⟨hnext, by simp, by simp, fun _ => hwatched.left hverdict, by simp⟩
    | pending =>
        rw [hverdict, nextOf] at hnext
        exact Or.inl ⟨hnext, by simp, by simp, by simp, by simp⟩
    | failed failure =>
        rw [hverdict, nextOf] at hnext
        cases hgone : failure.isGone with
        | true =>
            rw [hgone, if_pos rfl] at hnext
            exact Or.inr (Or.inr ⟨⟨failure, rfl, hgone⟩, hnext⟩)
        | false =>
            rw [hgone, if_neg Bool.false_ne_true] at hnext
            exact Or.inl ⟨hnext, by simp, by simp, by simp, by simp [hgone]⟩

end Watch

end ResourceWatch
