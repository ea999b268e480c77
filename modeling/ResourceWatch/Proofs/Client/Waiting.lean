import ResourceWatch.Proofs.Clock
import ResourceWatch.Client.Exchange

/-!
# How waits end

A bounded wait ends with the stop signal, with the time limit, or with what it waits for, and
nothing else. All that is known of how a request comes out is read off this one case distinction.
-/

namespace ResourceWatch

theorem Number.place?_eq_of_same {first second : Number} (hsame : same first second = true) :
    first.place? = second.place? := by
  unfold same at hsame
  cases hfirst : first.place? <;> cases hsecond : second.place? <;> simp_all

namespace Bounds

variable {α : Type}

/-- What ends a wait, and when. -/
theorem waitFor_cases (bounds : Bounds) (now : Time) (event : Option (Time × Except Failure α)) :
    (∃ stop, bounds.stop = some stop ∧
        bounds.waitFor now event = some (max now stop, .stopped)) ∨
      (∃ deadline, bounds.deadline = some deadline ∧
        bounds.waitFor now event =
          some (max now deadline.expiry, .failed (.timedOut deadline.limit))) ∨
      bounds.waitFor now event = Outcome.ofExcept event := by
  unfold waitFor
  rcases Clock.sooner_eq (α := Ended α) (bounds.stop.map fun stop => (max now stop, .stopped)) _
    with ⟨found, hfound, heq⟩ | heq
  · obtain ⟨stop, hstop, rfl⟩ := Option.map_eq_some_iff.mp hfound
    exact Or.inl ⟨stop, hstop, heq⟩
  · rw [heq]
    rcases Clock.sooner_eq (α := Ended α) (bounds.deadline.map fun deadline =>
        (max now deadline.expiry, .failed (.timedOut deadline.limit))) (Outcome.ofExcept event)
      with ⟨found, hfound, heq⟩ | heq
    · obtain ⟨deadline, hdeadline, rfl⟩ := Option.map_eq_some_iff.mp hfound
      exact Or.inr (Or.inl ⟨deadline, hdeadline, heq⟩)
    · exact Or.inr (Or.inr heq)

variable {bounds : Bounds} {now time : Time} {event : Option (Time × Except Failure α)}

theorem of_waitFor_value {value : α}
    (hwait : bounds.waitFor now event = some (time, .value value)) :
    event = some (time, .ok value) := by
  rcases bounds.waitFor_cases now event with ⟨_, _, heq⟩ | ⟨_, _, heq⟩ | heq
  · simp [heq] at hwait
  · simp [heq] at hwait
  · rw [heq, Outcome.ofExcept, Option.map_eq_some_iff] at hwait
    obtain ⟨⟨found, result⟩, rfl, hresult⟩ := hwait
    cases result with
    | error failure => simp at hresult
    | ok value =>
        simp only [Prod.mk.injEq, Ended.value.injEq] at hresult
        rw [hresult.1, hresult.2]

theorem of_waitFor_stopped (hwait : bounds.waitFor now event = some (time, .stopped)) :
    ∃ stop, bounds.stop = some stop ∧ stop ≤ time := by
  rcases bounds.waitFor_cases now event with ⟨stop, hstop, heq⟩ | ⟨_, _, heq⟩ | heq
  · simp only [heq, Option.some.injEq, Prod.mk.injEq, and_true] at hwait
    exact ⟨stop, hstop, hwait ▸ Int.le_max_right now stop⟩
  · simp [heq] at hwait
  · rw [heq, Outcome.ofExcept, Option.map_eq_some_iff] at hwait
    obtain ⟨⟨found, result⟩, _, hresult⟩ := hwait
    cases result <;> simp at hresult

theorem of_waitFor_failed {failure : Failure}
    (hwait : bounds.waitFor now event = some (time, .failed failure)) :
    (∃ deadline, bounds.deadline = some deadline ∧ failure = .timedOut deadline.limit) ∨
      event = some (time, .error failure) := by
  rcases bounds.waitFor_cases now event with ⟨_, _, heq⟩ | ⟨deadline, hdeadline, heq⟩ | heq
  · simp [heq] at hwait
  · simp only [heq, Option.some.injEq, Prod.mk.injEq, Ended.failed.injEq] at hwait
    exact Or.inl ⟨deadline, hdeadline, hwait.2.symm⟩
  · rw [heq, Outcome.ofExcept, Option.map_eq_some_iff] at hwait
    obtain ⟨⟨found, result⟩, rfl, hresult⟩ := hwait
    cases result with
    | ok value => simp at hresult
    | error failure =>
        simp only [Prod.mk.injEq, Ended.failed.injEq] at hresult
        rw [hresult.1, hresult.2]
        exact Or.inr rfl

theorem of_waitFor_none (hwait : bounds.waitFor now event = none) : event = none := by
  rcases bounds.waitFor_cases now event with ⟨_, _, heq⟩ | ⟨_, _, heq⟩ | heq
  · simp [heq] at hwait
  · simp [heq] at hwait
  · simpa [heq, Outcome.ofExcept] using hwait

end Bounds

/-- The bytes of a body that come before its end. -/
def Body.bytes (body : Body) : Bytes :=
  (Feed.start body 0).bytes

namespace Feed

/-- A chunk that comes later. -/
def delayed (delay : Time) (chunk : Arrival) : Arrival :=
  ⟨chunk.time + delay, chunk.bytes⟩

theorem chunks_start (body : Body) (now : Time) :
    (start body now).chunks = (start body 0).chunks.map (delayed now) := by
  have hchunks : (body.chunks.map fun chunk => Arrival.mk (now + chunk.delay) chunk.bytes) =
      (body.chunks.map fun chunk => Arrival.mk ((0 : Time) + chunk.delay) chunk.bytes).map
        (delayed now) := by
    rw [List.map_map]
    apply List.map_congr_left
    intro chunk _
    simp only [Function.comp, delayed, Arrival.mk.injEq, and_true, Time]
    omega
  have hsorted := List.map_mergeSort (f := delayed now)
    (r := fun first second => decide (first.time ≤ second.time))
    (s := fun first second => decide (first.time ≤ second.time))
    (l := body.chunks.map fun chunk => Arrival.mk ((0 : Time) + chunk.delay) chunk.bytes)
    fun first _ second _ => by
      simp only [delayed, Time] at *
      exact decide_eq_decide.mpr (by omega)
  have hkept (arrivals : List Arrival) :
      (arrivals.map (delayed now)).filter (fun chunk => decide (chunk.time ≤ now + body.endDelay)) =
        (arrivals.filter fun chunk => decide (chunk.time ≤ (0 : Time) + body.endDelay)).map
          (delayed now) := by
    rw [List.filter_map]
    congr 1
    apply List.filter_congr
    intro chunk _
    simp only [Function.comp, delayed, Time] at *
    exact decide_eq_decide.mpr (by omega)
  unfold start
  rw [hchunks, ← hsorted]
  cases body.ending with
  | hanging => rfl
  | closed => exact hkept _
  | failed error => exact hkept _

theorem bytes_start (body : Body) (now : Time) : (start body now).bytes = body.bytes := by
  rw [Body.bytes, bytes, bytes, chunks_start, List.flatMap_map]
  rfl

end Feed

namespace Reply

/-- A response with this status whose body, if it has one, comes to its end. -/
def AnswersWhole (reply : Reply) (status : Number) : Prop :=
  ∃ delay body, reply = .response delay status body ∧
    ∀ whole, body = some whole → whole.ending = .closed

theorem answer?_eq_ok {reply : Reply} {now time : Time} {response : Response}
    (hanswer : reply.answer? now = some (time, .ok response)) :
    ∃ delay body, reply = .response delay response.status body ∧ time = now + delay ∧
      response.body = body.map (Feed.start · (now + delay)) := by
  cases reply with
  | silent => simp [answer?] at hanswer
  | refusal delay error => simp [answer?] at hanswer
  | response delay status body =>
      simp only [answer?, Option.some.injEq, Prod.mk.injEq, Except.ok.injEq] at hanswer
      obtain ⟨htime, rfl⟩ := hanswer
      exact ⟨delay, body, rfl, htime.symm, rfl⟩

theorem answer?_eq_error {reply : Reply} {now time : Time} {failure : Failure}
    (hanswer : reply.answer? now = some (time, .error failure)) :
    ∃ delay error, reply = .refusal delay error ∧ failure = .external error := by
  cases reply with
  | silent => simp [answer?] at hanswer
  | response delay status body => simp [answer?] at hanswer
  | refusal delay error =>
      simp only [answer?, Option.some.injEq, Prod.mk.injEq, Except.error.injEq] at hanswer
      exact ⟨delay, error, rfl, hanswer.2.symm⟩

end Reply

namespace Response

theorem text?_eq_ok {response : Response} {now time : Time} {text : Text}
    (htext : response.text? now = some (time, .ok text)) :
    ∀ feed, response.body = some feed → feed.ending = .closed := by
  intro feed hbody
  rw [text?, hbody] at htext
  unfold Feed.whole? at htext
  cases hending : feed.ending with
  | closed => rfl
  | failed error => simp [hending, Except.map] at htext
  | hanging => simp [hending] at htext

theorem text?_eq_error {response : Response} {now time : Time} {failure : Failure}
    (htext : response.text? now = some (time, .error failure)) :
    ∃ feed error, response.body = some feed ∧ feed.ending = .failed error ∧
      failure = .external error := by
  cases hbody : response.body with
  | none => simp [text?, hbody] at htext
  | some feed =>
      simp only [text?, hbody] at htext
      unfold Feed.whole? at htext
      cases hending : feed.ending with
      | closed => simp [hending, Except.map] at htext
      | hanging => simp [hending] at htext
      | failed error =>
          simp only [hending, Option.map_some, Except.map, Option.some.injEq, Prod.mk.injEq,
            Except.error.injEq] at htext
          exact ⟨feed, error, rfl, hending, htext.2.symm⟩

theorem not_same_of_isSuccess {response : Response} (hsuccess : response.isSuccess = true) :
    Number.same response.status 410 = false := by
  rw [Bool.eq_false_iff]
  intro hsame
  have hbelow : Number.lt response.status 300 = true := by
    simp only [isSuccess, Bool.and_eq_true] at hsuccess
    exact hsuccess.2
  rw [Number.lt, Number.place?_eq_of_same hsame, ← Number.lt] at hbelow
  exact absurd hbelow (by decide +kernel)

end Response

namespace Client

variable {bounds : Bounds} {now time : Time} {reply : Reply}

theorem of_send_value {response : Response}
    (hsend : send bounds now reply = some (time, .value response)) :
    response.isSuccess = true ∧ reply.answer? now = some (time, .ok response) := by
  unfold send at hsend
  rcases hopening : bounds.waitFor now (reply.answer? now) with _ | ⟨opened, found | failure | _⟩
  · simp [hopening, Outcome.andThen] at hsend
  · simp only [hopening, Outcome.andThen] at hsend
    split at hsend
    · rename_i hsuccess
      simp only [Option.some.injEq, Prod.mk.injEq, Ended.value.injEq] at hsend
      obtain ⟨rfl, rfl⟩ := hsend
      exact ⟨hsuccess, Bounds.of_waitFor_value hopening⟩
    · split at hsend <;> simp at hsend
  · simp [hopening, Outcome.andThen] at hsend
  · simp [hopening, Outcome.andThen] at hsend

/-- A request that is answered with a success goes wrong only with the stop signal or the time
limit. -/
theorem send_of_isSuccess (bounds : Bounds) (now : Time) (delay : Nat) {status : Number}
    (body : Option Body) (hsuccess : Response.isSuccess ⟨status, none⟩ = true) :
    (∃ time, send bounds now (.response delay status body) = some (time, .stopped)) ∨
      (∃ time limit, send bounds now (.response delay status body) =
        some (time, .failed (.timedOut limit))) ∨
      ∃ time response, send bounds now (.response delay status body) =
        some (time, .value response) := by
  have hstatus (feed : Option Feed) : Response.isSuccess ⟨status, feed⟩ = true := hsuccess
  rcases bounds.waitFor_cases now (Reply.answer? (.response delay status body) now) with
    ⟨_, _, hwait⟩ | ⟨_, _, hwait⟩ | hwait
  · exact Or.inl ⟨_, by rw [send, hwait]; rfl⟩
  · exact Or.inr (Or.inl ⟨_, _, by rw [send, hwait]; rfl⟩)
  · refine Or.inr (Or.inr ⟨now + delay, ⟨status, body.map (Feed.start · (now + delay))⟩, ?_⟩)
    rw [send, hwait]
    simp [Reply.answer?, Outcome.ofExcept, Outcome.andThen, hstatus]

theorem of_send_stopped (hsend : send bounds now reply = some (time, .stopped)) :
    ∃ stop, bounds.stop = some stop ∧ stop ≤ time := by
  unfold send at hsend
  rcases hopening : bounds.waitFor now (reply.answer? now) with _ | ⟨opened, found | failure | _⟩
  · simp [hopening, Outcome.andThen] at hsend
  · simp only [hopening, Outcome.andThen] at hsend
    split at hsend
    · simp at hsend
    · rcases hreading : bounds.waitFor opened (found.text? opened) with
        _ | ⟨read, text | failure | _⟩
      · simp [hreading] at hsend
      · simp [hreading] at hsend
      · simp [hreading] at hsend
      · simp only [hreading, Option.some.injEq, Prod.mk.injEq, and_true] at hsend
        exact hsend ▸ Bounds.of_waitFor_stopped hreading
  · simp [hopening, Outcome.andThen] at hsend
  · simp only [hopening, Outcome.andThen, Option.some.injEq, Prod.mk.injEq, and_true] at hsend
    exact hsend ▸ Bounds.of_waitFor_stopped hopening

/-- A request fails with its time limit, with what the server's script raises, or with the status of
a whole response. -/
theorem of_send_failed {failure : Failure}
    (hsend : send bounds now reply = some (time, .failed failure)) :
    (∃ deadline, bounds.deadline = some deadline ∧ failure = .timedOut deadline.limit) ∨
      (∃ error, failure = .external error ∧ ∀ status, ¬reply.AnswersWhole status) ∨
      ∃ status payload, failure = .api ⟨status, payload⟩ ∧ reply.AnswersWhole status := by
  unfold send at hsend
  rcases hopening : bounds.waitFor now (reply.answer? now) with _ | ⟨opened, found | failed | _⟩
  · simp [hopening, Outcome.andThen] at hsend
  · obtain ⟨delay, body, rfl, -, hbody⟩ := Reply.answer?_eq_ok (Bounds.of_waitFor_value hopening)
    simp only [hopening, Outcome.andThen] at hsend
    split at hsend
    · simp at hsend
    · rcases hreading : bounds.waitFor opened (found.text? opened) with
        _ | ⟨read, text | failed | _⟩
      · simp [hreading] at hsend
      · simp only [hreading, Option.some.injEq, Prod.mk.injEq, Ended.failed.injEq] at hsend
        have hclosed := Response.text?_eq_ok (Bounds.of_waitFor_value hreading)
        refine Or.inr (Or.inr ⟨_, _, hsend.2.symm, delay, body, rfl, fun whole hwhole => ?_⟩)
        subst hwhole
        exact hclosed _ hbody
      · simp only [hreading, Option.some.injEq, Prod.mk.injEq, Ended.failed.injEq] at hsend
        obtain ⟨rfl, rfl⟩ := hsend
        rcases Bounds.of_waitFor_failed hreading with hlimit | htext
        · exact Or.inl hlimit
        · obtain ⟨feed, error, hfeed, hending, rfl⟩ := Response.text?_eq_error htext
          refine Or.inr (Or.inl ⟨error, rfl, ?_⟩)
          rintro status ⟨delay', body', hreply, hclosed⟩
          simp only [Reply.response.injEq] at hreply
          rw [hfeed, hreply.2.2] at hbody
          obtain ⟨whole, hwhole, rfl⟩ := Option.map_eq_some_iff.mp hbody.symm
          simp [Feed.start, hclosed whole hwhole] at hending
      · simp [hreading] at hsend
  · simp only [hopening, Outcome.andThen, Option.some.injEq, Prod.mk.injEq,
      Ended.failed.injEq] at hsend
    obtain ⟨rfl, rfl⟩ := hsend
    rcases Bounds.of_waitFor_failed hopening with hlimit | hanswer
    · exact Or.inl hlimit
    · obtain ⟨delay, error, rfl, rfl⟩ := Reply.answer?_eq_error hanswer
      refine Or.inr (Or.inl ⟨error, rfl, ?_⟩)
      rintro status ⟨_, _, hreply, -⟩
      simp at hreply
  · simp [hopening, Outcome.andThen] at hsend

end Client

end ResourceWatch
