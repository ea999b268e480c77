import ResourceWatch.Proofs.Client.Stopping
import ResourceWatch.Proofs.Watch.Legs
import ResourceWatch.Session.Plan

/-!
# How a run stops

The stop signal ends a run between two requests, while a watch connects or waits for a chunk, and
behind the lines of a chunk whose items the consumer holds. It does not end the wait for a listing:
a run that is stopped there ends when the listing is over, or is left pending by it, or fails with
it. No request is sent behind the signal.
-/

namespace ResourceWatch

namespace Client.Call

open Outcome

variable {α β : Type} {now : Time}

theorem isAfter_run (client : Client) (method : Method) (url : Text) (options : RequestOptions)
    (timeoutMs : Option Number) (reply : Reply) {next : Bounds → Time → Response → Outcome α}
    (hnext : ∀ bounds time response, IsAfter time (next bounds time response)) :
    IsAfter now (run client now method url options timeoutMs reply next).outcome := by
  simp only [run]
  split
  · exact isAfter_some.mpr (Int.le_refl now)
  · exact (isAfter_send _ now reply).andThen fun time response _ => hnext _ time response

theorem isAfter_check {call : Call α} (hcall : IsAfter now call.outcome)
    (next : α → Except Failure β) : IsAfter now (call.check next).outcome :=
  hcall.andThen fun _ _ _ => isAfter_ofExcept.mpr (by simp)

theorem isAfter_list (client : Client) (now : Time) (url : Text) (headers : List (Text × Text))
    (timeoutMs : Option Number) (reply : Reply) :
    IsAfter now (list client now url headers timeoutMs reply).outcome := by
  apply isAfter_check
  apply isAfter_check
  apply isAfter_run
  intro bounds time response
  exact bounds.isAfter_cut (isAfter_ofExcept.mpr Response.le_text?)

end Client.Call

namespace Watch

open Client

variable {σ : Type}

/-- All that a run depends on. -/
structure Course (σ : Type) where
  client : Client
  url : Text
  consumer : Consumer σ Event
  replies : List Reply
  start : Session σ Event

namespace Course

def run (course : Course σ) : Run σ :=
  follow course.client course.url course.consumer course.replies course.start

/-- The leg for a phase, against the first of the replies that are left. -/
def leg (course : Course σ) (phase : Phase) (session : Session σ Event) (left : List Reply) :
    Leg σ :=
  Watch.leg course.client course.url course.consumer phase (left.head?.getD .unscripted) session

/-- The stream of a watch. -/
def stream (course : Course σ) (version : Option Text) (session : Session σ Event)
    (left : List Reply) : Stream.Setting σ (Option Text) Event :=
  ⟨course.client, changes, course.consumer,
    address course.client.watchTimeoutSeconds course.url version, [], none,
    left.head?.getD .unscripted, { session, memory := version }⟩

/-- Where a run stands between two requests: what the next one is for, the session, the replies
that are left, and the legs so far. -/
inductive Stands (course : Course σ) :
    Phase → Session σ Event → List Reply → List (Leg σ) → Prop where
  | begins : Stands course .listing course.start course.replies []
  | goesOn (phase next : Phase) (session : Session σ Event) (reply : Reply) (left : List Reply)
      (legs : List (Leg σ)) (hstands : Stands course phase session (reply :: left) legs)
      (hrunning : session.isStopped = false)
      (hnext : (course.leg phase session (reply :: left)).next = some next) :
      Stands course next (course.leg phase session (reply :: left)).session left
        (legs ++ [course.leg phase session (reply :: left)])

variable {course : Course σ} {phase : Phase} {session : Session σ Event} {left : List Reply}
  {legs : List (Leg σ)} {version : Option Text}

theorem Stands.run_eq (hstands : course.Stands phase session left legs) :
    course.run =
      { continueWith course.client course.url course.consumer phase session left with
        legs := legs ++
          (continueWith course.client course.url course.consumer phase session left).legs } := by
  induction hstands with
  | begins => rfl
  | goesOn phase next session reply left legs _ hrunning hnext ih =>
      have hleg : Watch.leg course.client course.url course.consumer phase reply session =
        course.leg phase session (reply :: left) := rfl
      simp only [continueWith, hrunning, Bool.false_eq_true, if_false, hleg, hnext] at ih
      rw [ih, List.append_assoc, List.singleton_append]

theorem Stands.run_of_isStopped (hstands : course.Stands phase session left legs)
    (hstopped : session.isStopped = true) : course.run = ⟨legs, session, .stopped⟩ := by
  rw [hstands.run_eq]
  cases left <;> simp only [continueWith, hstopped, if_true, List.append_nil]

/-- A leg behind which nothing comes is the last one, and so is the one that gets no reply of the
script. -/
theorem Stands.run_of_last (hstands : course.Stands phase session left legs)
    (hrunning : session.isStopped = false)
    (hlast : left = [] ∨ (course.leg phase session left).next = none) :
    course.run = ⟨legs ++ [course.leg phase session left],
      (course.leg phase session left).session, (course.leg phase session left).verdict⟩ := by
  rw [hstands.run_eq]
  cases left with
  | nil =>
      simp only [continueWith, hrunning, Bool.false_eq_true, if_false]
      rfl
  | cons reply left =>
      have hleg : Watch.leg course.client course.url course.consumer phase reply session =
        course.leg phase session (reply :: left) := rfl
      rw [or_iff_right (List.cons_ne_nil reply left)] at hlast
      simp only [continueWith, hrunning, Bool.false_eq_true, if_false, hleg, hlast]

/-- How a run is over: between two requests, or with its last leg. -/
inductive Finishes (course : Course σ) : Prop where
  | halted (phase : Phase) (session : Session σ Event) (left : List Reply) (legs : List (Leg σ))
      (hstands : course.Stands phase session left legs) (hstopped : session.isStopped = true)
      (hrun : course.run = ⟨legs, session, .stopped⟩)
  | ended (phase : Phase) (session : Session σ Event) (left : List Reply) (legs : List (Leg σ))
      (hstands : course.Stands phase session left legs) (hrunning : session.isStopped = false)
      (hrun : course.run = ⟨legs ++ [course.leg phase session left],
        (course.leg phase session left).session, (course.leg phase session left).verdict⟩)

theorem Stands.finishes (hstands : course.Stands phase session left legs) : course.Finishes := by
  induction left generalizing phase session legs with
  | nil =>
      cases hrunning : session.isStopped with
      | true =>
          exact .halted phase session [] legs hstands hrunning (hstands.run_of_isStopped hrunning)
      | false =>
          exact .ended phase session [] legs hstands hrunning
            (hstands.run_of_last hrunning (Or.inl rfl))
  | cons reply left ih =>
      cases hrunning : session.isStopped with
      | true =>
          exact .halted phase session _ legs hstands hrunning (hstands.run_of_isStopped hrunning)
      | false =>
          cases hnext : (course.leg phase session (reply :: left)).next with
          | none =>
              exact .ended phase session _ legs hstands hrunning
                (hstands.run_of_last hrunning (Or.inr hnext))
          | some next =>
              exact ih (.goesOn phase next session reply left legs hstands hrunning hnext)

theorem finishes (course : Course σ) : course.Finishes :=
  Stands.begins.finishes

/-! ### Watches -/

theorem isFresh_stream (course : Course σ) (version : Option Text) (session : Session σ Event)
    (left : List Reply) : (course.stream version session left).start.IsFresh :=
  ⟨rfl, rfl⟩

/-- A watch is over as its stream is. -/
theorem watch_eq (course : Course σ) (version : Option Text) (session : Session σ Event)
    (left : List Reply) :
    ∃ records, course.leg (.watching version) session left =
      { phase := .watching version
        exchange := (course.stream version session left).run.exchange
        timer := (course.stream version session left).run.timer
        chunks := (course.stream version session left).run.progress.chunks
        session := (course.stream version session left).run.progress.session.write records
        verdict := (course.stream version session left).run.verdict
        next := nextOf (course.stream version session left).run.progress.memory
          (course.stream version session left).run.verdict } :=
  Watch.watch_eq course.client course.url course.consumer version
    (left.head?.getD .unscripted) session

/-- The run was stopped at this time behind these legs and one more, with these items handed
over. -/
structure IsStopped (course : Course σ) (legs : List (Leg σ)) (time : Time)
    (items : List (Time × Event)) : Prop where
  verdict : course.run.verdict = .stopped
  legs : ∃ last, course.run.legs = legs ++ [last]
  now : course.run.session.now = time
  items : course.run.session.items = items

/-- A watch that the stop signal has ended is the last leg. -/
theorem Stands.isStopped_of_rests (hstands : course.Stands (.watching version) session left legs)
    (hrunning : session.isStopped = false) {progress : Stream.Progress σ (Option Text) Event}
    (hrests : (course.stream version session left).run.Rests progress .stopped)
    (hstopped : progress.session.isStopped = true) :
    course.IsStopped legs progress.session.now progress.session.items := by
  obtain ⟨records, hleg⟩ := course.watch_eq version session left
  obtain ⟨more, hsession⟩ := hrests.session_eq
  rw [hrests.verdict, hsession] at hleg
  have hrun : course.run = ⟨legs ++ [course.leg (.watching version) session left],
      (course.leg (.watching version) session left).session, .stopped⟩ := by
    cases left with
    | nil =>
        rw [hstands.run_of_last hrunning (Or.inl rfl), hleg]
    | cons reply left =>
        have hnext : (course.leg (.watching version) session (reply :: left)).next =
            some (.watching (course.stream version session (reply :: left)).run.progress.memory) := by
          rw [hleg, nextOf]
        refine (goesOn _ _ session reply left legs hstands hrunning hnext).run_of_isStopped ?_
        rw [hleg]
        exact hstopped
  rw [hleg] at hrun
  exact ⟨by rw [hrun], ⟨_, by rw [hrun]⟩, by rw [hrun]; rfl, by rw [hrun]; rfl⟩

/-! ### Nothing is sent behind the signal -/

theorem precedes_list {time : Time} (hprecedes : session.Precedes time) (client : Client)
    (url : Text) (consumer : Consumer σ Event) (reply : Reply) :
    (list client url consumer reply session).session.Precedes time := by
  have hwritten := hprecedes.write (Call.list client session.now url [] none reply).log
  have hafter := Call.isAfter_list client session.now url [] none reply
  simp only [list]
  rcases houtcome : (Call.list client session.now url [] none reply).outcome with
    _ | ⟨later, found | failure | _⟩
  · exact hwritten
  · have hwaited := (hwritten.wait (hafter _ houtcome)).offerAll consumer (found.items.map .listed)
    simp only
    split <;> exact hwaited
  · exact hwritten.wait (hafter _ houtcome)
  · exact hwritten.wait (hafter _ houtcome)

theorem precedes_leg {time : Time} (hprecedes : session.Precedes time) (course : Course σ)
    (phase : Phase) (left : List Reply) :
    (course.leg phase session left).session.Precedes time := by
  cases phase with
  | listing => exact precedes_list hprecedes course.client course.url course.consumer _
  | watching version =>
      obtain ⟨records, hleg⟩ := course.watch_eq version session left
      have hstart : (course.stream version session left).start.IsTimely [time] := by
        intro moment hmoment
        obtain rfl := List.mem_singleton.mp hmoment
        exact hprecedes
      rw [hleg]
      exact (Stream.Setting.isTimely_run hstart time List.mem_cons_self).write records

theorem time_of_exchange {exchange : Exchange}
    (hexchange : (course.leg phase session left).exchange = some exchange) :
    exchange.time = session.now := by
  cases phase with
  | listing =>
      have hsent := list_eq_exchange course.client course.url course.consumer
        (left.head?.getD .unscripted) session
      have hlist : (list course.client course.url course.consumer (left.head?.getD .unscripted)
        session).exchange = some exchange := hexchange
      rw [hlist, Option.map_some] at hsent
      obtain ⟨request, -, hsame⟩ := Option.map_eq_some_iff.mp hsent.symm
      exact (Prod.mk.inj hsame).1.symm
  | watching version =>
      obtain ⟨records, hleg⟩ := course.watch_eq version session left
      rw [hleg] at hexchange
      exact (Stream.Setting.exchange_run (course.isFresh_stream version session left) hexchange).2

/-- The requests so far and the next one. -/
theorem precedes_legs_append (hrunning : session.isStopped = false)
    (hlegs : ∀ exchange ∈ legs.filterMap Leg.exchange, session.Precedes exchange.time) :
    ∀ exchange ∈ (legs ++ [course.leg phase session left]).filterMap Leg.exchange,
      (course.leg phase session left).session.Precedes exchange.time := by
  intro exchange hmem
  rw [List.filterMap_append, List.mem_append] at hmem
  rcases hmem with hmem | hmem
  · exact precedes_leg (hlegs exchange hmem) course phase left
  · obtain ⟨last, hlast, hexchange⟩ := List.mem_filterMap.mp hmem
    obtain rfl := List.mem_singleton.mp hlast
    rw [time_of_exchange hexchange]
    exact precedes_leg (Session.precedes_now hrunning) course phase left

theorem Stands.precedes (hstands : course.Stands phase session left legs) :
    ∀ exchange ∈ legs.filterMap Leg.exchange, session.Precedes exchange.time := by
  induction hstands with
  | begins => simp
  | goesOn phase next session reply left legs _ hrunning _ ih =>
      exact precedes_legs_append hrunning ih

theorem precedes_run (course : Course σ) :
    ∀ exchange ∈ course.run.exchanges, course.run.session.Precedes exchange.time := by
  cases course.finishes with
  | halted phase session left legs hstands _ hrun =>
      rw [hrun]
      exact hstands.precedes
  | ended phase session left legs hstands hrunning hrun =>
      rw [hrun]
      exact precedes_legs_append hrunning hstands.precedes

/-! ### The stop law -/

/-- How a run stops. -/
structure Stops (course : Course σ) : Prop where
  /-- No request is sent behind the signal. -/
  requests : ∀ stop ∈ course.run.session.stop, ∀ exchange ∈ course.run.exchanges,
    exchange.time ≤ stop
  /-- It has come when the next request is due. -/
  between : ∀ phase session left legs, course.Stands phase session left legs →
    session.isStopped = true → course.run = ⟨legs, session, .stopped⟩
  /-- It comes before the consumer has all objects of a listing that is there in the end: the
  consumer gets them, unless it leaves. -/
  listing : ∀ session left legs, course.Stands .listing session left legs →
    session.isStopped = false → ∀ time found,
      (Call.list course.client session.now course.url [] none
        (left.head?.getD .unscripted)).outcome = some (time, .value found) →
      (course.leg .listing session left).session.left = false →
      (course.leg .listing session left).session.isStopped = true →
      course.IsStopped legs (course.leg .listing session left).session.now
          (course.leg .listing session left).session.items ∧
        (course.leg .listing session left).session.values =
          session.values ++ found.items.map .listed
  /-- It comes while a watch connects, and at the latest when that would be over. -/
  opening : ∀ version session left legs, course.Stands (.watching version) session left legs →
    session.isStopped = false → (course.stream version session left).request?.isSome = true →
    ∀ stop ∈ session.stop,
      (∀ found ∈ send {} session.now (left.head?.getD .unscripted), stop ≤ found.1) →
      course.IsStopped legs stop session.items
  /-- It comes while a watch waits for a chunk, and at the latest when that would be over. -/
  waiting : ∀ version session left legs, course.Stands (.watching version) session left legs →
    session.isStopped = false →
    ∀ feed point rest, (course.stream version session left).Reaches feed point rest →
      point.session.isStopped = false → ∀ stop ∈ point.session.stop,
      (∀ found ∈ feed.answer? point.session.now rest.head?, stop ≤ found.1) →
      course.IsStopped legs stop point.session.items
  /-- It came while the consumer held an item of a chunk: it gets all events of the chunk. -/
  holding : ∀ version session left legs, course.Stands (.watching version) session left legs →
    session.isStopped = false →
    ∀ feed point chunk rest time after,
      (course.stream version session left).Reaches feed point (chunk :: rest) →
      (course.stream version session left).Turn feed point chunk time after none →
      after.session.isStopped = true →
      course.IsStopped legs after.session.now after.session.items ∧
        after.session.values = point.session.values ++
          ((eventsOf (point.buffer.feed chunk.bytes).2).filter isItem).map .ofWatch
  /-- Behind it a run fails only with a listing, or with a line that a watch has received. -/
  failed : ∀ failure, course.run.verdict = .failed failure →
    course.run.session.isStopped = true → ∃ before last, course.run.legs = before ++ [last] ∧
      (last.phase = .listing ∨ (refused? last.lines).bind refusal? = some failure)
  /-- With it a run is left pending only by a listing. -/
  pending : course.run.verdict = .pending → course.run.session.stop.isSome = true →
    ∃ before last, course.run.legs = before ++ [last] ∧ last.phase = .listing

theorem Stands.isStopped_of_listing (hstands : course.Stands .listing session left legs)
    (hrunning : session.isStopped = false) {time : Time} {found : ObjectList}
    (hlist : (Call.list course.client session.now course.url [] none
      (left.head?.getD .unscripted)).outcome = some (time, .value found))
    (hleft : (course.leg .listing session left).session.left = false)
    (hstopped : (course.leg .listing session left).session.isStopped = true) :
    course.IsStopped legs (course.leg .listing session left).session.now
        (course.leg .listing session left).session.items ∧
      (course.leg .listing session left).session.values =
        session.values ++ found.items.map .listed := by
  have hlisted : Listed course.client course.url (left.head?.getD .unscripted) session
      (course.leg .listing session left) :=
    listed_list course.client course.url course.consumer _ session
  cases hlisted with
  | listed _ other hother _ hnext hvalues =>
      simp only [hlist, Option.some.injEq, Prod.mk.injEq, Ended.value.injEq] at hother
      obtain ⟨-, rfl⟩ := hother
      refine ⟨?_, hvalues⟩
      cases left with
      | nil =>
          -- The reply to a request without one in the script is no listing.
          obtain ⟨_, _, _, hreply⟩ := (Call.of_list_value hlist).2
          simp [Reply.unscripted] at hreply
      | cons reply left =>
          have hrun := (goesOn _ _ session reply left legs hstands hrunning hnext).run_of_isStopped
            hstopped
          exact ⟨by rw [hrun], ⟨_, by rw [hrun]⟩, by rw [hrun], by rw [hrun]⟩
  | left _ _ _ _ _ _ _ _ htrue => simp [htrue] at hleft
  | failed _ _ hfailed => simp [hlist] at hfailed
  | pending hnone => simp [hlist] at hnone

/-- The consumer gets all events of a chunk that is done with. -/
theorem values_turn (course : Course σ) {feed : Feed}
    {point after : Stream.Progress σ (Option Text) Event} {chunk : Arrival} {time : Time}
    (hturn : (course.stream version session left).Turn feed point chunk time after none) :
    after.session.values = point.session.values ++
      ((eventsOf (point.buffer.feed chunk.bytes).2).filter isItem).map .ofWatch := by
  have hgot : Stream.Progress.Handed
      (transcript changes point.memory (point.buffer.feed chunk.bytes).2) point.session.values
      after none := hturn.isHanded
  rw [transcript_changes] at hgot
  cases hgot with
  | done _ hvalues _ => exact hvalues

theorem phase_leg (course : Course σ) (session : Session σ Event) (left : List Reply) :
    (course.leg .listing session left).phase = .listing :=
  phase_list ..

theorem lines_leg (course : Course σ) (version : Option Text) (session : Session σ Event)
    (left : List Reply) :
    (course.leg (.watching version) session left).lines =
      (course.stream version session left).run.progress.lines := by
  obtain ⟨records, hleg⟩ := course.watch_eq version session left
  rw [hleg]
  rfl

/-- **The stop law of a run.** -/
theorem follow_stops (client : Client) (url : Text) (consumer : Consumer σ Event)
    (replies : List Reply) (session : Session σ Event) :
    Stops ⟨client, url, consumer, replies, session⟩ := by
  generalize Course.mk client url consumer replies session = course
  refine ⟨?_, ?_, ?_, ?_, ?_, ?_, ?_, ?_⟩
  · intro stop hstop exchange hexchange
    exact (course.precedes_run exchange hexchange).stop stop hstop
  · intro phase session left legs hstands hstopped
    exact hstands.run_of_isStopped hstopped
  · intro session left legs hstands hrunning time found hlist hleft hstopped
    exact hstands.isStopped_of_listing hrunning hlist hleft hstopped
  · intro version session left legs hstands hrunning hrequest stop hstop hle
    obtain ⟨request, hrequest⟩ := Option.isSome_iff_exists.mp hrequest
    have hrests : (course.stream version session left).run.Rests
        ((course.stream version session left).start.wait stop) .stopped :=
      Stream.Setting.rests_of_stop hrunning hrequest hstop hle
    exact hstands.isStopped_of_rests hrunning hrests (Session.isStopped_wait hstop (Int.le_refl _))
  · intro version session left legs hstands hrunning feed point rest hreached hpoint stop hstop hle
    have hrests := hreached.rests_of_stop hpoint hstop (Outcome.isAfter_ofExcept.mpr hle)
    exact hstands.isStopped_of_rests hrunning hrests (Session.isStopped_wait hstop (Int.le_refl _))
  · intro version session left legs hstands hrunning feed point chunk rest time after hreached
      hturn hstopped
    have hrests := hturn.rests_of_isStopped hreached hstopped
    exact ⟨hstands.isStopped_of_rests hrunning hrests hstopped, course.values_turn hturn⟩
  · intro failure hverdict hstopped
    cases course.finishes with
    | halted phase session left legs _ _ hrun => simp [hrun] at hverdict
    | ended phase session left legs _ hrunning hrun =>
        refine ⟨legs, course.leg phase session left, by rw [hrun], ?_⟩
        cases phase with
        | listing => exact Or.inl (course.phase_leg session left)
        | watching version =>
            obtain ⟨records, hleg⟩ := course.watch_eq version session left
            simp only [hrun] at hverdict hstopped
            rw [hleg] at hverdict hstopped
            have hfailure := Stream.Setting.transcript_of_failed
              (course.isFresh_stream version session left) hverdict hstopped
            rw [Stream.Progress.transcript, ← lines_leg] at hfailure
            refine Or.inr ?_
            rw [← hfailure]
            exact (congrArg Transcript.failure (transcript_changes version _)).symm
  · intro hverdict hstop
    cases course.finishes with
    | halted phase session left legs _ _ hrun => simp [hrun] at hverdict
    | ended phase session left legs _ hrunning hrun =>
        refine ⟨legs, course.leg phase session left, by rw [hrun], ?_⟩
        cases phase with
        | listing => exact course.phase_leg session left
        | watching version =>
            obtain ⟨records, hleg⟩ := course.watch_eq version session left
            simp only [hrun] at hverdict hstop
            rw [hleg] at hverdict hstop
            have hnone : (course.stream version session left).run.progress.session.stop = none :=
              (Stream.Setting.of_pending hverdict).1
            simp [Session.write, hnone] at hstop

end Course

/-- A listing that is never answered, and one that fails, behind the stop signal. -/
theorem not_stopped_of_listing :
    (follow ⟨"http://[::1]", [], none, none, none⟩ "/pods" (Plan.consumer {}) [.silent]
        { now := 0, stop := some 5, state := {} }).verdict = .pending ∧
      (follow ⟨"http://[::1]", [], none, none, none⟩ "/pods" (Plan.consumer {})
        [.refusal 9 (.error "Error" "refused")]
        { now := 0, stop := some 5, state := {} }).verdict =
          .failed (.external (.error "Error" "refused")) := by
  exact ⟨rfl, rfl⟩

end Watch

end ResourceWatch
