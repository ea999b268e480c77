import ResourceWatch.Proofs.Client.Breaking
import ResourceWatch.Proofs.Client.Timeouts
import ResourceWatch.Proofs.Json
import ResourceWatch.Proofs.Status
import ResourceWatch.Proofs.Watch.Release

/-!
# Error events

A watch that comes to an error event raises the error that its object stands for, behind all events
before it. The error has the code of the object if that is a status that can be read; otherwise the
code is not seen, and the error is one of the server. Only an error with the code of a version that
is gone lets a run list the collection again, and any other one is its end.
-/

namespace ResourceWatch.Watch

open Client

variable {σ : Type} {lines : List Text} {object : Object} {code : Number}

/-- The object of the error event that lines come to before any other line without an event. -/
def firstError? (lines : List Text) : Option Object :=
  (refused? lines).bind errorObject?

theorem refusal?_of_firstError (herror : firstError? lines = some object) :
    (refused? lines).bind refusal? = some (.api (errorOf object)) := by
  obtain ⟨line, hline, hobject⟩ := Option.bind_eq_some_iff.mp herror
  rw [hline, Option.bind_some]
  exact refusal?_of_errorObject hobject

/-- **What watching once reads off lines.** -/
theorem transcript_events (memory : Unit) (lines : List Text) :
    transcript events memory lines =
      { memory, items := eventsOf lines, failure := (refused? lines).bind refusal? } := by
  induction lines with
  | nil => rfl
  | cons line rest ih =>
      simp only [transcript, events]
      cases hline : event line with
      | error failure =>
          obtain ⟨hevents, hrefused⟩ := of_event_error hline rest
          simp [hevents, hrefused, Except.map]
      | ok found => simp [Except.map, ih, eventsOf_cons hline, refused?_cons hline]

/-! ### The code of an error -/

theorem errorOf_eq (hcoded : Status.IsCoded object code) :
    errorOf object = ⟨if Status.isReadable object then code else 500, some (.obj object)⟩ := by
  rw [errorOf, Status.bind_code_of? hcoded]
  cases Status.isReadable object <;> rfl

theorem isGone_errorOf_iff (hcoded : Status.IsCoded object code) :
    Failure.isGone (.api (errorOf object)) = true ↔
      Status.isReadable object = true ∧ Number.same code 410 = true := by
  rw [isGone_errorOf, statusCode?, Status.bind_code_of? hcoded]
  cases Status.isReadable object <;> simp

/-! ### Watching once -/

/-- What a stream of events does with an error event. -/
structure RaisesErrors (setting : Stream.Setting σ Unit WatchEvent) : Prop where
  /-- The signal and the leaving are what the consumer makes of the events. -/
  replays : ∃ given,
    setting.start.session.Replays setting.consumer given setting.run.progress.session
  /-- It has read one. -/
  read : ∀ object, firstError? setting.run.progress.lines = some object →
    Stream.Breaks (.api (errorOf object)) setting.start.session.values
      (eventsOf setting.run.progress.lines) setting.run.progress.session setting.run.verdict
  /-- One is in the body that it has opened, and nothing cuts it off. -/
  opened : ∀ feed object, setting.Opens feed →
    firstError? (Lines.complete (Utf8.decode feed.bytes)) = some object →
    ¬setting.CutOff feed setting.run.progress.session setting.run.verdict →
    Stream.Breaks (.api (errorOf object)) setting.start.session.values
      (eventsOf (Lines.complete (Utf8.decode feed.bytes))) setting.run.progress.session
      setting.run.verdict
  /-- One is in the body of a success, and nothing comes in between before that is over. -/
  undisturbed : ∀ pause horizon delay status body object,
    setting.IsUndisturbed pause horizon → setting.request?.isSome = true →
    setting.reply = .response delay status (some body) →
    Response.isSuccess ⟨status, none⟩ = true → body.ending = .closed →
    firstError? body.lines = some object →
    setting.start.session.now + delay + body.endDelay +
      (pause * (eventsOf body.lines).length : Nat) ≤ horizon →
    setting.run.verdict = .failed (.api (errorOf object)) ∧
      setting.run.progress.session.values =
        setting.start.session.values ++ eventsOf body.lines

theorem raisesErrors_setting (client : Client) (consumer : Consumer σ WatchEvent) (url : Text)
    (version : Option Text) (timeoutMs : Option Number) (reply : Reply)
    (session : Session σ WatchEvent) :
    RaisesErrors (setting client consumer url version timeoutMs reply session) := by
  generalize hsetting : setting client consumer url version timeoutMs reply session = setting
  have hreading : setting.reading = events := hsetting ▸ rfl
  have hfresh : setting.start.IsFresh := hsetting ▸ ⟨rfl, rfl⟩
  have htaken : setting.start.taken = 0 := hsetting ▸ rfl
  have hfailure {lines : List Text} {object : Object} (herror : firstError? lines = some object) :
      (transcript setting.reading setting.start.memory lines).failure =
        some (.api (errorOf object)) := by
    rw [hreading, transcript_events]
    exact refusal?_of_firstError herror
  have hitems (lines : List Text) :
      (transcript setting.reading setting.start.memory lines).items = eventsOf lines := by
    rw [hreading, transcript_events]
  refine ⟨setting.exists_replays, ?_, ?_, ?_⟩
  · intro object herror
    have hbreaks := Stream.Setting.breaks hfresh (hfailure herror)
    rwa [Stream.Progress.transcript, hitems] at hbreaks
  · intro feed object hopens herror hcut
    have hbreaks := hopens.breaks hfresh htaken (hfailure herror) hcut
    rwa [hitems] at hbreaks
  · intro pause horizon delay status body object hundisturbed hrequest hreply hsuccess hending
      herror hhorizon
    have htimeless : Stream.IsTimelessReading setting.reading :=
      hreading ▸ isTimelessReading_events
    rw [← hitems] at hhorizon ⊢
    exact hundisturbed.breaks hreply hsuccess hending hrequest hfresh htaken htimeless
      (hfailure herror) hhorizon

/-! ### Following -/

namespace Course

variable {course : Course σ} {phase : Phase} {session : Session σ Event} {left : List Reply}
  {legs : List (Leg σ)} {version : Option Text}

theorem Stands.exists_next (hstands : course.Stands phase session left legs)
    (hrunning : session.isStopped = false) :
    ∃ more, course.run.legs = legs ++ course.leg phase session left :: more := by
  rw [hstands.run_eq]
  cases left with
  | nil =>
      simp only [continueWith, hrunning, Bool.false_eq_true, if_false]
      exact ⟨[], rfl⟩
  | cons reply rest =>
      simp only [continueWith, hrunning, Bool.false_eq_true, if_false]
      split
      · exact ⟨[], rfl⟩
      · exact ⟨_, rfl⟩

/-- What a run does with error events and with the errors that they are raised as. -/
structure RaisesErrors (course : Course σ) : Prop where
  /-- The signal and the leaving are what the consumer makes of the items of a watch. -/
  replays : ∀ version session left legs, course.Stands (.watching version) session left legs →
    ∃ given,
      session.Replays course.consumer given (course.leg (.watching version) session left).session
  /-- A watch has read one. -/
  read : ∀ version session left legs object,
    course.Stands (.watching version) session left legs → session.isStopped = false →
    firstError? (course.leg (.watching version) session left).lines = some object →
    Stream.Breaks (.api (errorOf object)) session.values
      (((eventsOf (course.leg (.watching version) session left).lines).filter isItem).map .ofWatch)
      (course.leg (.watching version) session left).session
      (course.leg (.watching version) session left).verdict
  /-- One is in the body that a watch has opened, and nothing cuts it off. -/
  opened : ∀ version session left legs feed object,
    course.Stands (.watching version) session left legs →
    (course.stream version session left).Opens feed →
    firstError? (Lines.complete (Utf8.decode feed.bytes)) = some object →
    ¬(course.stream version session left).CutOff feed
      (course.leg (.watching version) session left).session
      (course.leg (.watching version) session left).verdict →
    Stream.Breaks (.api (errorOf object)) session.values
      (((eventsOf (Lines.complete (Utf8.decode feed.bytes))).filter isItem).map .ofWatch)
      (course.leg (.watching version) session left).session
      (course.leg (.watching version) session left).verdict
  /-- One is in the body of a success, and nothing comes in between before that is over. -/
  undisturbed : ∀ version session left legs pause horizon delay status body object,
    course.Stands (.watching version) session (.response delay status (some body) :: left) legs →
    (course.stream version session (.response delay status (some body) :: left)).IsUndisturbed
      pause horizon →
    (course.stream version session (.response delay status (some body) :: left)).request?.isSome =
      true →
    Response.isSuccess ⟨status, none⟩ = true → body.ending = .closed →
    firstError? body.lines = some object →
    session.now + delay + body.endDelay +
      (pause * ((eventsOf body.lines).filter isItem).length : Nat) ≤ horizon →
    (course.leg (.watching version) session
        (.response delay status (some body) :: left)).verdict =
      .failed (.api (errorOf object)) ∧
    (course.leg (.watching version) session
        (.response delay status (some body) :: left)).session.values =
      session.values ++ ((eventsOf body.lines).filter isItem).map .ofWatch
  /-- The version is gone: the collection is listed again, unless the stop signal has come. -/
  again : ∀ version session left legs object,
    course.Stands (.watching version) session left legs → session.isStopped = false →
    (course.leg (.watching version) session left).verdict = .failed (.api (errorOf object)) →
    Failure.isGone (.api (errorOf object)) = true →
    ((course.leg (.watching version) session left).session.isStopped = true →
        course.run = ⟨legs ++ [course.leg (.watching version) session left],
          (course.leg (.watching version) session left).session, .stopped⟩) ∧
      ((course.leg (.watching version) session left).session.isStopped = false →
        ∃ more, course.run.legs = legs ++ course.leg (.watching version) session left ::
          course.leg .listing (course.leg (.watching version) session left).session left.tail ::
            more)
  /-- Any other error is the end. -/
  fails : ∀ version session left legs object,
    course.Stands (.watching version) session left legs → session.isStopped = false →
    (course.leg (.watching version) session left).verdict = .failed (.api (errorOf object)) →
    Failure.isGone (.api (errorOf object)) = false →
    course.run = ⟨legs ++ [course.leg (.watching version) session left],
      (course.leg (.watching version) session left).session, .failed (.api (errorOf object))⟩

/-- Whatever a watch does, it is over as its stream is, but for records in the log. -/
theorem leg_eq_stream (course : Course σ) (version : Option Text) (session : Session σ Event)
    (left : List Reply) :
    (∃ records, (course.leg (.watching version) session left).session =
        (course.stream version session left).run.progress.session.write records) ∧
      (course.leg (.watching version) session left).verdict =
        (course.stream version session left).run.verdict ∧
      (course.leg (.watching version) session left).next =
        nextOf (course.stream version session left).run.progress.memory
          (course.stream version session left).run.verdict := by
  obtain ⟨records, hleg⟩ := course.watch_eq version session left
  rw [hleg]
  exact ⟨⟨records, rfl⟩, rfl, rfl⟩

theorem next_of_failed {failure : Failure}
    (hverdict : (course.leg (.watching version) session left).verdict = .failed failure) :
    (course.leg (.watching version) session left).next =
      if failure.isGone then some .listing else none := by
  obtain ⟨-, hstream, hnext⟩ := course.leg_eq_stream version session left
  rw [hnext, ← hstream, hverdict, nextOf]

/-- A request without a reply in the script does not find that the version is gone. -/
theorem ne_nil_of_isGone (hrunning : session.isStopped = false) {failure : Failure}
    (hverdict : (course.leg (.watching version) session left).verdict = .failed failure)
    (hgone : failure.isGone = true) : left ≠ [] := by
  rintro rfl
  rcases (watched_watch course.client course.url course.consumer version .unscripted
    hrunning).2 with ⟨-, hunsent⟩ | ⟨-, progress, hwatched⟩
  · have hfailed : (course.leg (.watching version) session []).verdict = .failed .unbuildable :=
      congrArg Leg.verdict hunsent
    obtain rfl := Verdict.failed.inj (hfailed.symm.trans hverdict)
    cases hgone
  · have hnever := hwatched.of_refusal.2.2.2 failure hverdict
    simp [hgone] at hnever

theorem failure_of_firstError {lines : List Text} {object : Object}
    (herror : firstError? lines = some object) (version : Option Text) :
    (transcript changes version lines).failure = some (.api (errorOf object)) := by
  rw [transcript_changes]
  exact refusal?_of_firstError herror

theorem items_changes (version : Option Text) (lines : List Text) :
    (transcript changes version lines).items =
      ((eventsOf lines).filter isItem).map .ofWatch := by
  rw [transcript_changes]

theorem raisesErrors (course : Course σ) : course.RaisesErrors := by
  constructor
  · intro version session left legs _
    obtain ⟨⟨records, hsession⟩, -, -⟩ := course.leg_eq_stream version session left
    obtain ⟨given, hreplays⟩ := (course.stream version session left).exists_replays
    rw [hsession]
    exact ⟨given, hreplays.write records⟩
  · intro version session left legs object _ _ herror
    obtain ⟨⟨records, hsession⟩, hverdict, -⟩ := course.leg_eq_stream version session left
    rw [lines_leg] at herror ⊢
    rw [hsession, hverdict, ← items_changes version]
    exact (Stream.Setting.breaks (course.isFresh_stream version session left)
      (failure_of_firstError herror version)).write records
  · intro version session left legs feed object _ hopens herror hcut
    obtain ⟨⟨records, hsession⟩, hverdict, -⟩ := course.leg_eq_stream version session left
    rw [hsession, hverdict] at hcut
    rw [hsession, hverdict, ← items_changes version]
    exact (hopens.breaks (course.isFresh_stream version session left) rfl
      (failure_of_firstError herror version) (mt (·.write records) hcut)).write records
  · intro version session left legs pause horizon delay status body object _ hundisturbed hrequest
      hsuccess hending herror hhorizon
    obtain ⟨⟨records, hsession⟩, hverdict, -⟩ :=
      course.leg_eq_stream version session (.response delay status (some body) :: left)
    rw [hsession, hverdict, Session.values_write, ← items_changes version]
    have hitems := congrArg List.length (items_changes version body.lines)
    rw [List.length_map] at hitems
    rw [← hitems] at hhorizon
    exact hundisturbed.breaks rfl hsuccess hending hrequest (course.isFresh_stream ..) rfl
      isTimelessReading_changes (failure_of_firstError herror version) hhorizon
  · intro version session left legs object hstands hrunning hverdict hgone
    have hnext := next_of_failed hverdict
    rw [hgone, if_pos rfl] at hnext
    cases left with
    | nil => exact absurd rfl (ne_nil_of_isGone hrunning hverdict hgone)
    | cons reply rest =>
        have hlater := hstands.goesOn _ _ session reply rest legs hrunning hnext
        refine ⟨hlater.run_of_isStopped, fun hgoes => ?_⟩
        obtain ⟨more, hlegs⟩ := hlater.exists_next hgoes
        exact ⟨more, by simpa using hlegs⟩
  · intro version session left legs object hstands hrunning hverdict hgone
    have hnext := next_of_failed hverdict
    rw [hgone, if_neg Bool.false_ne_true] at hnext
    rw [hstands.run_of_last hrunning (Or.inr hnext), hverdict]

end Course

/-- **Error events are raised with the code that is seen.** An error event whose object is a status
with a whole code is raised with that code if the other members can be read, and with 500 otherwise;
everything before it is handed over and nothing from it on; and only with the code of a version that
is gone, seen so, the collection is listed again. -/
theorem errors_raise {σ τ : Type} (object : Object) (code : Number) (client : Client)
    (consumer : Consumer σ WatchEvent) (url : Text) (version : Option Text)
    (timeoutMs : Option Number) (reply : Reply) (session : Session σ WatchEvent)
    (course : Course τ) :
    (Status.IsCoded object code →
      errorOf object = ⟨if Status.isReadable object then code else 500, some (.obj object)⟩ ∧
        (Failure.isGone (.api (errorOf object)) = true ↔
          Status.isReadable object = true ∧ Number.same code 410 = true)) ∧
    (Watch.run client consumer url version timeoutMs reply session =
        (setting client consumer url version timeoutMs reply session).run ∧
      RaisesErrors (setting client consumer url version timeoutMs reply session)) ∧
    course.RaisesErrors := by
  refine ⟨?_, ⟨rfl, ?_⟩, ?_⟩
  · intro hcoded
    exact ⟨errorOf_eq hcoded, isGone_errorOf_iff hcoded⟩
  · exact raisesErrors_setting client consumer url version timeoutMs reply session
  · exact course.raisesErrors

def expiredStatus : Object :=
  [("kind", .str "Status"), ("code", .num 410), ("reason", .str "Expired")]

def expiredError : Text :=
  ("\x7b\"type\":\"ERROR\"," : Text) ++
    "\"object\":\x7b\"kind\":\"Status\",\"code\":410,\"reason\":\"Expired\"\x7d\x7d"

def expiredBody : Body :=
  ⟨[⟨0, Utf8.encode (expiredError ++ [0x0A])⟩], 0, .closed⟩

/-- A watch that is told so by its server. -/
def expiredWatch : Stream.Setting Plan.State Unit WatchEvent :=
  setting ⟨"http://[::1]", [], none, none, none⟩ (Plan.consumer {}) "/pods" none none
    (.response 0 200 (some expiredBody)) { now := 0, stop := none, state := {} }

theorem errors_raise_expired :
    Status.IsCoded expiredStatus 410 ∧
      errorOf expiredStatus = ⟨410, some (.obj expiredStatus)⟩ ∧
      Failure.isGone (.api (errorOf expiredStatus)) = true ∧
      RaisesErrors expiredWatch ∧
      expiredWatch.run.verdict = .failed (.api (errorOf expiredStatus)) ∧
      expiredWatch.run.progress.session.values = [] := by
  have hcoded : Status.IsCoded expiredStatus 410 :=
    ⟨by decide +kernel, by decide +kernel, by decide +kernel⟩
  have hreadable : Status.isReadable expiredStatus = true := by decide +kernel
  obtain ⟨hcodes, ⟨-, hwatch⟩, -⟩ := errors_raise expiredStatus 410
    ⟨"http://[::1]", [], none, none, none⟩ (Plan.consumer {}) "/pods" none none
    (.response 0 200 (some expiredBody)) { now := 0, stop := none, state := {} }
    ⟨⟨"http://[::1]", [], none, none, none⟩, "/pods", Plan.consumer {},
      [.response 0 200 (some expiredBody)], { now := 0, stop := none, state := {} }⟩
  obtain ⟨herror, hgone⟩ := hcodes hcoded
  rw [hreadable, if_pos rfl] at herror
  have hraises : RaisesErrors expiredWatch := hwatch
  have hfirst : firstError? expiredBody.lines = some expiredStatus := by decide +kernel
  have hundisturbed : expiredWatch.IsUndisturbed 0 0 :=
    ⟨Plan.isPatient rfl rfl rfl (by simp) 0, rfl, nofun, nofun⟩
  have hnothing : eventsOf expiredBody.lines = [] := List.isEmpty_iff.mp (by decide +kernel)
  have hhorizon : expiredWatch.start.session.now + (0 : Nat) + expiredBody.endDelay +
      (0 * (eventsOf expiredBody.lines).length : Nat) ≤ 0 := by
    simp [expiredWatch, setting, expiredBody]
  obtain ⟨hverdict, hvalues⟩ := hraises.undisturbed 0 0 0 200 expiredBody expiredStatus hundisturbed
    (by decide +kernel) rfl (by decide +kernel) rfl hfirst hhorizon
  rw [hnothing] at hvalues
  exact ⟨hcoded, herror, hgone.mpr ⟨hreadable, by decide +kernel⟩, hraises, hverdict, hvalues⟩

/-- A status with the code of a version that is gone whose message is no text. -/
def unreadStatus : Object :=
  [("kind", .str "Status"), ("code", .num 410), ("message", .null)]

def unreadError : Text :=
  ("\x7b\"type\":\"ERROR\"," : Text) ++
    "\"object\":\x7b\"kind\":\"Status\",\"code\":410,\"message\":null\x7d\x7d"

/-- Whether a verdict is an error with this status. -/
def hasStatus (status : Number) : Verdict → Bool
  | .failed (.api error) => Number.same error.status status
  | _ => false

/-- It is raised as an error of the server, and a run that follows the collection fails with it,
though the server would list the collection again. -/
theorem not_gone_of_unread :
    Status.IsCoded unreadStatus 410 ∧ firstError? [unreadError] = some unreadStatus ∧
      hasStatus 500 (Watch.run ⟨"http://[::1]", [], none, none, none⟩ (Plan.consumer {}) "/pods"
        none none (.response 0 200 (some ⟨[⟨0, Utf8.encode (unreadError ++ [0x0A])⟩], 0, .closed⟩))
        { now := 0, stop := none, state := {} }).verdict = true ∧
      hasStatus 500 (follow ⟨"http://[::1]", [], none, none, none⟩ "/pods" (Plan.consumer {})
        [.response 0 200 (some ⟨[⟨0, Utf8.encode "\x7b\"items\":[]\x7d"⟩], 0, .closed⟩),
          .response 0 200 (some ⟨[⟨0, Utf8.encode (unreadError ++ [0x0A])⟩], 0, .closed⟩),
          .response 0 200 (some ⟨[⟨0, Utf8.encode "\x7b\"items\":[]\x7d"⟩], 0, .closed⟩)]
        { now := 0, stop := none, state := {} }).verdict = true := by
  refine ⟨⟨?_, ?_, ?_⟩, ?_, ?_, ?_⟩ <;> decide +kernel

end ResourceWatch.Watch
