import ResourceWatch.Client.Call
import ResourceWatch.Proofs.Client.Bounding
import ResourceWatch.Proofs.Number.Timers

/-!
# Time limits of calls

A call has one time limit for all that it waits for. It comes out as it would without the limit, if
that comes before the limit has run out; and otherwise it fails when the limit runs out, and then
only its request is aborted.
-/

namespace ResourceWatch

namespace Outcome

variable {α β : Type}

theorem andThen_value (outcome : Outcome α) :
    (outcome.andThen fun time value => some (time, .value value)) = outcome := by
  rcases outcome with _ | ⟨time, value | failure | _⟩ <;> rfl

theorem time?_ofExcept (event : Option (Time × Except Failure α)) :
    (ofExcept event).time? = event.map Prod.fst := by
  rcases event with _ | ⟨time, failure | value⟩ <;> rfl

/-- Nothing is waited for between a result and what is made of it at once. -/
theorem time?_andThen_ofExcept (outcome : Outcome α) (next : α → Except Failure β) :
    (outcome.andThen fun time value => ofExcept (some (time, next value))).time? =
      outcome.time? := by
  rcases outcome with _ | ⟨time, value | failure | _⟩
  · rfl
  · exact time?_ofExcept (some (time, next value))
  · rfl
  · rfl

end Outcome

/-- When a body whose response came at `start` is over, if it ever is. -/
def Body.over? (body : Body) (start : Time) : Option Time :=
  match body.ending with
  | .hanging => none
  | _ => some (start + body.endDelay)

/-- When a call has all that it waits for: the head of a success if it asks for no more, and else
the whole body. -/
def Reply.settled? (reply : Reply) (now : Time) (headOnly : Bool) : Option Time :=
  match reply with
  | .silent => none
  | .refusal delay _ => some (now + delay)
  | .response delay status body =>
    if headOnly && Response.isSuccess ⟨status, none⟩ then some (now + delay)
    else
      match body with
      | none => some (now + delay)
      | some body => body.over? (now + delay)

namespace Client

open Outcome

/-! ### Calls without a time limit -/

/-- The whole text of a success. -/
def whole (now : Time) (reply : Reply) : Outcome Text :=
  (send {} now reply).andThen fun time response => ofExcept (response.text? time)

theorem time?_text? (status : Number) (body : Option Body) (time : Time) :
    (ofExcept ((⟨status, body.map (Feed.start · time)⟩ : Response).text? time)).time? =
      match body with
      | none => some time
      | some body => body.over? time := by
  have hmax (delay : Nat) : max time (time + delay) = time + delay :=
    Int.max_eq_right (Int.le_add_of_nonneg_right (Int.natCast_nonneg delay))
  rw [time?_ofExcept]
  cases body with
  | none => rfl
  | some body =>
      have hending : (Feed.start body time).ending = body.ending := rfl
      have hend : (Feed.start body time).endTime = time + body.endDelay := rfl
      rw [Response.text?, Option.map_some]
      simp only [Feed.whole?, Body.over?, hending, hend, hmax]
      cases body.ending <;> rfl

theorem send_response (now : Time) (delay : Nat) (status : Number) (body : Option Body) :
    send {} now (.response delay status body) =
      escalate (now + delay) ⟨status, body.map (Feed.start · (now + delay))⟩ := by
  simp only [send_unbounded, Reply.answer?, Outcome.ofExcept, Option.map_some, andThen]

theorem time?_send (now : Time) (reply : Reply) :
    (send {} now reply).time? = reply.settled? now true := by
  cases reply with
  | silent => rfl
  | refusal delay error => rfl
  | response delay status body =>
      have hstatus (feed : Option Feed) :
          Response.isSuccess ⟨status, feed⟩ = Response.isSuccess ⟨status, none⟩ := rfl
      simp only [send_response, escalate, hstatus, Reply.settled?, Bool.true_and]
      split
      · rfl
      · rw [← time?_text? status body (now + delay)]
        exact time?_andThen_ofExcept _ fun text => .error (.api ⟨status, Response.payload? text⟩)

theorem time?_whole (now : Time) (reply : Reply) :
    (whole now reply).time? = reply.settled? now false := by
  cases reply with
  | silent => rfl
  | refusal delay error => rfl
  | response delay status body =>
      have htext := time?_text? status body (now + delay)
      simp only [whole, send_response, escalate, Reply.settled?, Bool.false_and,
        Bool.false_eq_true, if_false, ← htext]
      split
      · rfl
      · -- The error is there with the text, and nothing is read behind it.
        rcases ofExcept ((⟨status, body.map (Feed.start · (now + delay))⟩ : Response).text?
          (now + delay)) with _ | ⟨time, text | failure | _⟩ <;> rfl

theorem isAfter_whole (now : Time) (reply : Reply) : IsAfter now (whole now reply) :=
  (isAfter_send_unbounded now reply).andThen fun _ _ _ => isAfter_ofExcept.mpr Response.le_text?

theorem isTimeless_whole (now : Time) (reply : Reply) : IsTimeless (whole now reply) := by
  refine (isTimeless_send now reply).andThen fun reached response => ?_
  apply isTimeless_ofExcept
  intro time limit htext
  obtain ⟨_, _, -, -, hfailure⟩ := Response.text?_eq_error htext
  simp at hfailure

theorem isTimeless_record (time : Time) (text : Text) :
    IsTimeless (Outcome.ofExcept (some (time, Lines.record text))) := by
  apply isTimeless_ofExcept
  intro reached limit
  cases hvalue : Json.parse? text <;> simp [Lines.record, hvalue]

theorem isTimeless_checked {α : Type} (time : Time) (checked : Schema.Checked α) :
    IsTimeless (Outcome.ofExcept (some (time, checked.mapError Failure.invalid))) := by
  apply isTimeless_ofExcept
  intro reached limit heq
  cases checked <;> cases heq

theorem isAfter_record {now : Time} {unlimited : Outcome Text} (hafter : IsAfter now unlimited) :
    IsAfter now (unlimited.andThen fun time text =>
      Outcome.ofExcept (some (time, Lines.record text))) :=
  hafter.andThen fun _ _ _ => isAfter_ofExcept.mpr (by simp)

/-! ### Calls with a time limit -/

namespace Call

variable {α β : Type} {bounds : Bounds} {now : Time} {unlimited : Outcome α} {call : Call α}

/-- A call that comes out as `unlimited`, cut off by the bounds, or whose request is never sent. The
request is aborted in the end if the time limit has run out by then. -/
inductive IsCut (bounds : Bounds) (now : Time) (unlimited : Outcome α) (call : Call α) : Prop where
  | unsent (hexchange : call.exchange = none)
      (houtcome : call.outcome = some (now, .failed .unbuildable)) : IsCut bounds now unlimited call
  | sent (exchange : Exchange) (hexchange : call.exchange = some exchange)
      (houtcome : call.outcome = bounds.cut now unlimited)
      (haborted : exchange.aborted = Deadline.isOver bounds.deadline call.outcome.time?) :
      IsCut bounds now unlimited call

theorem isCut_run (client : Client) (now : Time) (method : Method) (url : Text)
    (options : RequestOptions) (timeoutMs : Option Number) (reply : Reply)
    (next : Bounds → Time → Response → Outcome α) (read : Time → Response → Outcome α)
    (hafter : ∀ time response, IsAfter time (read time response))
    (hnext : ∀ bounds time response, Bounds.IsOpen bounds time →
      next bounds time response = bounds.cut time (read time response)) :
    IsCut { deadline := Deadline.start? now (timeoutMs.or client.requestTimeoutMs) } now
      ((send {} now reply).andThen read)
      (run client now method url options timeoutMs reply next) := by
  generalize hbounds : ({ deadline := Deadline.start? now (timeoutMs.or client.requestTimeoutMs) } :
    Bounds) = bounds
  cases hrequest : client.build? method url options with
  | none => exact .unsent (by simp [run, hrequest]) (by simp [run, hrequest])
  | some request =>
      have houtcome : (run client now method url options timeoutMs reply next).outcome =
          (send bounds now reply).andThen (next bounds) := by
        simp [run, hrequest, hbounds]
      refine .sent { time := now, request, aborted := Deadline.isOver bounds.deadline _ } ?_ ?_ rfl
      · simp [run, hrequest, ← hbounds]
      · rw [houtcome, send_eq_cut]
        apply Bounds.andThen_cut (isAfter_send_unbounded now reply)
        · exact fun time response _ => hafter time response
        · intro time response hnow hopen
          rw [hnext bounds time response hopen, Bounds.cut_eq_of_isOpen hnow hopen]

theorem IsCut.check (hcut : IsCut bounds now unlimited call) (hafter : IsAfter now unlimited)
    (next : α → Except Failure β) :
    IsCut bounds now
      (unlimited.andThen fun time value => Outcome.ofExcept (some (time, next value)))
      (call.check next) := by
  cases hcut with
  | unsent hexchange houtcome =>
      refine .unsent hexchange ?_
      rw [Call.check, houtcome]
      rfl
  | sent exchange hexchange houtcome haborted =>
      refine .sent exchange hexchange ?_ ?_
      · rw [Call.check, houtcome]
        exact Bounds.andThen_cut_ofExcept hafter next
      · rw [haborted]
        exact congrArg _ (time?_andThen_ofExcept call.outcome next).symm

section Kinds

variable (client : Client) (now : Time) (method : Method) (url : Text) (options : RequestOptions)
  (timeoutMs : Option Number) (reply : Reply)

theorem isCut_request :
    IsCut { deadline := Deadline.start? now (timeoutMs.or client.requestTimeoutMs) } now
      (send {} now reply) (request client now method url options timeoutMs reply) := by
  have hcut := isCut_run client now method url options timeoutMs reply
    (fun _ time response => some (time, .value response))
    (fun time response => some (time, .value response))
    (fun time _ => isAfter_some.mpr (Int.le_refl time))
    (fun _ _ _ hopen => (Bounds.cut_of_isOpen hopen).symm)
  rwa [andThen_value] at hcut

theorem isCut_json :
    IsCut { deadline := Deadline.start? now (timeoutMs.or client.requestTimeoutMs) } now
      ((whole now reply).andThen fun time text =>
        Outcome.ofExcept (some (time, Lines.record text)))
      (json client now method url options timeoutMs reply) :=
  (isCut_run client now method url options timeoutMs reply _ _
    (fun _ _ => isAfter_ofExcept.mpr Response.le_text?) fun _ _ _ _ => rfl).check
      (isAfter_whole now reply) Lines.record

theorem isCut_list (headers : List (Text × Text)) :
    IsCut { deadline := Deadline.start? now (timeoutMs.or client.requestTimeoutMs) } now
      (((whole now reply).andThen fun time text =>
          Outcome.ofExcept (some (time, Lines.record text))).andThen fun time value =>
        Outcome.ofExcept (some (time, (ObjectList.check (some value)).mapError Failure.invalid)))
      (list client now url headers timeoutMs reply) :=
  (isCut_json client now .get url { headers } timeoutMs reply).check
    (isAfter_record (isAfter_whole now reply)) fun value =>
      (ObjectList.check (some value)).mapError Failure.invalid

end Kinds

/-- How a call with a time limit that runs out at `expiry` comes out that has all it waits for at
`settled`. -/
structure IsLimited (now : Time) (limit : Number) (expiry : Time) (settled : Option Time)
    (call : Call α) : Prop where
  /-- Its limit is not over before it. -/
  within : ∃ time, call.outcome.time? = some time ∧
    Number.le (.ofInt (time - now)) limit = true
  ends : call.exchange.isSome = true →
    call.outcome.time? = Clock.earlier settled (some expiry)
  timedOut : call.exchange.isSome = true →
    ((∃ time, call.outcome = some (time, .failed (.timedOut limit))) ↔
      ∀ time ∈ settled, expiry ≤ time)
  carries : ∀ time other, call.outcome = some (time, .failed (.timedOut other)) → other = limit
  aborted : ∀ exchange, call.exchange = some exchange →
    (exchange.aborted = true ↔
      ∃ time, call.outcome = some (time, .failed (.timedOut limit)))

theorem le_ofInt_of_within {limit : Number} (hlimit : Number.le 1 limit = true) {time : Time}
    (hnow : now ≤ time) (hover : time ≤ now + Clock.timer limit) :
    Number.le (.ofInt (time - now)) limit = true := by
  obtain ⟨waited, hwaited⟩ := Int.eq_ofNat_of_zero_le (Int.sub_nonneg_of_le hnow)
  rw [hwaited, Number.ofInt_natCast]
  refine Clock.le_of_le_timer hlimit (Int.ofNat_le.mp ?_)
  rw [← hwaited]
  exact Int.sub_left_le_of_le_add hover

section Ends

variable {limit : Number} {expiry : Time}
  (hwithin : ∀ time, now ≤ time → time ≤ expiry → Number.le (.ofInt (time - now)) limit = true)

include hwithin

/-- Its request cannot be built. -/
theorem isLimited_of_unsent (hexpiry : now ≤ expiry) (hexchange : call.exchange = none)
    (houtcome : call.outcome = some (now, .failed .unbuildable)) (settled : Option Time) :
    IsLimited now limit expiry settled call where
  within := ⟨now, by rw [houtcome, time?, Option.map_some], hwithin now (Int.le_refl now) hexpiry⟩
  ends hsent := by simp [hexchange] at hsent
  timedOut hsent := by simp [hexchange] at hsent
  carries := by simp [houtcome]
  aborted := by simp [hexchange]

/-- It comes to its own end before its limit has run out. -/
theorem isLimited_of_lt {time : Time} {ended : Ended α} (hnow : now ≤ time) (hlt : time < expiry)
    (hended : ∀ other, ended ≠ .failed (.timedOut other))
    (houtcome : call.outcome = some (time, ended))
    (haborted : ∀ exchange ∈ call.exchange,
      exchange.aborted = Deadline.isOver (some ⟨limit, expiry⟩) (some time)) :
    IsLimited now limit expiry (some time) call where
  within := ⟨time, by rw [houtcome, time?, Option.map_some], hwithin time hnow (Int.le_of_lt hlt)⟩
  ends _ := by
    rw [houtcome, time?, Option.map_some, Clock.earlier, Int.min_eq_left (Int.le_of_lt hlt)]
  timedOut _ := by simp [houtcome, hended, hlt]
  carries := by simp [houtcome, hended]
  aborted exchange hexchange := by
    rw [haborted exchange hexchange]
    simp [houtcome, hended, Deadline.isOver, hlt]

/-- Its limit runs out before that. -/
theorem isLimited_of_expired (hexpiry : now ≤ expiry) {settled : Option Time}
    (hsettled : ∀ time ∈ settled, expiry ≤ time)
    (houtcome : call.outcome = some (expiry, .failed (.timedOut limit)))
    (haborted : ∀ exchange ∈ call.exchange,
      exchange.aborted = Deadline.isOver (some ⟨limit, expiry⟩) (some expiry)) :
    IsLimited now limit expiry settled call where
  within := ⟨expiry, by rw [houtcome, time?, Option.map_some],
    hwithin expiry hexpiry (Int.le_refl expiry)⟩
  ends _ := by
    rw [houtcome, time?, Option.map_some]
    cases settled with
    | none => rfl
    | some time => rw [Clock.earlier, Int.min_eq_right (hsettled time rfl)]
  timedOut _ := by simpa [houtcome] using hsettled
  carries := by simp [houtcome]
  aborted exchange hexchange := by
    rw [haborted exchange hexchange]
    simp [houtcome, Deadline.isOver]

theorem IsCut.isLimited (hexpiry : now ≤ expiry)
    (hcut : IsCut { deadline := some ⟨limit, expiry⟩ } now unlimited call)
    (hafter : IsAfter now unlimited) (htimeless : IsTimeless unlimited) :
    IsLimited now limit expiry unlimited.time? call := by
  cases hcut with
  | unsent hexchange houtcome => exact isLimited_of_unsent hwithin hexpiry hexchange houtcome _
  | sent exchange hexchange houtcome haborted =>
      have haborted : ∀ other ∈ call.exchange,
          other.aborted = Deadline.isOver (some ⟨limit, expiry⟩) call.outcome.time? := by
        intro other hother
        obtain rfl := Option.some.inj (hexchange.symm.trans hother)
        exact haborted
      rcases Bounds.cut_cases { deadline := some ⟨limit, expiry⟩ } hafter with
        ⟨⟨time, ended⟩, rfl, hopen, hcut⟩ | ⟨hopen, hcut⟩
      · rw [hcut] at houtcome
        rw [houtcome] at haborted
        exact isLimited_of_lt hwithin (isAfter_some.mp hafter) (hopen.deadline ⟨limit, expiry⟩ rfl)
          (fun other heq => htimeless time other (by rw [heq])) houtcome haborted
      · have hends : call.outcome = some (expiry, .failed (.timedOut limit)) := by
          rw [houtcome, hcut]
          simp [Bounds.cut, Clock.sooner, Int.max_eq_right hexpiry]
        rw [hends] at haborted
        refine isLimited_of_expired hwithin hexpiry (fun time htime => ?_) hends haborted
        obtain ⟨found, hfound, rfl⟩ := Option.map_eq_some_iff.mp htime
        exact Int.not_lt.mp fun hlt => hopen found hfound ⟨by simp, by simpa⟩

end Ends

/-- **Calls keep their time limit.** A call that has one, of its own or of its client, is over within
it. In the end it has failed with it, and its request is aborted, if and only if what it waits for
is not there before it is over. -/
theorem calls_isLimited (client : Client) (now : Time) (method : Method) (url : Text)
    (options : RequestOptions) (headers : List (Text × Text)) (timeoutMs : Option Number)
    (reply : Reply) {limit : Number} (htimeout : timeoutMs.or client.requestTimeoutMs = some limit)
    (hlimit : Number.le 1 limit = true) :
    IsLimited now limit (now + Clock.timer limit) (reply.settled? now true)
        (request client now method url options timeoutMs reply) ∧
      IsLimited now limit (now + Clock.timer limit) (reply.settled? now false)
        (json client now method url options timeoutMs reply) ∧
      IsLimited now limit (now + Clock.timer limit) (reply.settled? now false)
        (list client now url headers timeoutMs reply) := by
  have hexpiry : now ≤ now + Clock.timer limit :=
    Int.le_add_of_nonneg_right (Int.natCast_nonneg _)
  have hwithin (time : Time) (hnow : now ≤ time) (hover : time ≤ now + Clock.timer limit) :
      Number.le (.ofInt (time - now)) limit = true := le_ofInt_of_within hlimit hnow hover
  have hafter := isAfter_record (isAfter_whole now reply)
  have hrequest := isCut_request client now method url options timeoutMs reply
  have hjson := isCut_json client now method url options timeoutMs reply
  have hlist := isCut_list client now url timeoutMs reply headers
  rw [htimeout] at hrequest hjson hlist
  refine ⟨?_, ?_, ?_⟩
  · rw [← time?_send]
    exact hrequest.isLimited hwithin hexpiry (isAfter_send_unbounded now reply)
      (isTimeless_send now reply)
  · rw [← time?_whole, ← time?_andThen_ofExcept _ Lines.record]
    exact hjson.isLimited hwithin hexpiry hafter
      ((isTimeless_whole now reply).andThen isTimeless_record)
  · rw [← time?_whole, ← time?_andThen_ofExcept _ Lines.record, ← time?_andThen_ofExcept]
    refine hlist.isLimited hwithin hexpiry
      (hafter.andThen fun time _ _ => isAfter_ofExcept.mpr (by simp)) ?_
    exact ((isTimeless_whole now reply).andThen isTimeless_record).andThen fun time _ =>
      isTimeless_checked time _

/-- The head of a success comes before the limit, and its body does not. -/
theorem calls_isLimited_late :
    (none : Option Number).or (some 5) = some 5 ∧ Number.le 1 5 = true ∧
      IsLimited 0 5 (0 + Clock.timer 5) (some 3)
        (request ⟨"http://[::1]", [], some 5, none, none⟩ 0 .get "/items" {} none
          (.response 3 200 (some ⟨[], 4, .closed⟩))) ∧
      IsLimited 0 5 (0 + Clock.timer 5) (some 7)
        (json ⟨"http://[::1]", [], some 5, none, none⟩ 0 .get "/items" {} none
          (.response 3 200 (some ⟨[], 4, .closed⟩))) ∧
      IsLimited 0 5 (0 + Clock.timer 5) (some 7)
        (list ⟨"http://[::1]", [], some 5, none, none⟩ 0 "/items" [] none
          (.response 3 200 (some ⟨[], 4, .closed⟩))) := by
  have hlimit : Number.le 1 5 = true := by decide +kernel
  have hhead : Reply.settled? (.response 3 200 (some ⟨[], 4, .closed⟩)) 0 true = some 3 := by
    decide +kernel
  have hlimited := calls_isLimited ⟨"http://[::1]", [], some 5, none, none⟩ 0 .get "/items" {} [] none
    (.response 3 200 (some ⟨[], 4, .closed⟩)) rfl hlimit
  rw [hhead] at hlimited
  exact ⟨rfl, hlimit, hlimited⟩

end Call

end Client

end ResourceWatch
