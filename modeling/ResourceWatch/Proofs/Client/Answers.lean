import ResourceWatch.Proofs.Client.Limits
import ResourceWatch.Proofs.Number.Delays

/-!
# What calls come to

A call without a time limit sends one request, and what comes of it follows from the status and the
bytes of the body: the response or its JSON value if the status tells success, and else an error of
the class that the status has. How the body is cut into chunks, and when these come, has no part in
it.
-/

namespace ResourceWatch

namespace ErrorClass

open Number

/-- The classes that stand for one status each. -/
def specific : List (ErrorClass × Number) :=
  [(.unauthorized, 401), (.forbidden, 403), (.notFound, 404), (.conflict, 409), (.gone, 410)]

variable {status code : Number}

/-- Statuses that compare equal compare alike with others. -/
theorem compares_congr (hsame : same status code = true) (other : Number) :
    same status other = same code other ∧ le other status = le other code ∧
      lt status other = lt code other := by
  have hplace := place?_eq_of_same hsame
  refine ⟨?_, ?_, ?_⟩
  · rw [same, hplace, ← same]
  · rw [le, lt, same, hplace, ← same, ← lt, ← le]
  · rw [lt, hplace, ← lt]

theorem ofStatus_congr (hsame : same status code = true) : ofStatus status = ofStatus code := by
  have hcompares := compares_congr hsame
  simp only [ofStatus, fun other => (hcompares other).1, fun other => (hcompares other).2.1,
    fun other => (hcompares other).2.2]

/-- A status that has no class of its own has that of its range. -/
theorem ofStatus_of_not_specific (hnot : ∀ pair ∈ specific, same status pair.2 = false) :
    ofStatus status =
      if le 400 status && lt status 500 then .client
      else if le 500 status && lt status 600 then .server
      else .other := by
  simp only [specific, List.forall_mem_cons] at hnot
  obtain ⟨h401, h403, h404, h409, h410, -⟩ := hnot
  simp only [ofStatus, h401, h403, h404, h409, h410, Bool.false_eq_true, if_false]

theorem not_lt_of_le (hle : le 500 status = true) : lt status 500 = false := by
  obtain ⟨place, hplace, hle⟩ := (le_ofNat_iff (n := 500) (by decide)).mp hle
  rw [Bool.eq_false_iff]
  intro hlt
  obtain ⟨place', hplace', hlt⟩ := (lt_ofNat_iff (n := 500) (by decide)).mp hlt
  obtain rfl := Option.some.inj (hplace.symm.trans hplace')
  exact absurd hlt (Int.not_lt.mpr hle)

/-- Which classes an error is of. -/
structure Partitions (status : Number) : Prop where
  client : .client ∈ (ofStatus status).lineage ↔
    le 400 status = true ∧ lt status 500 = true
  server : .server ∈ (ofStatus status).lineage ↔
    le 500 status = true ∧ lt status 600 = true
  specific : ∀ pair ∈ specific,
    (pair.1 ∈ (ofStatus status).lineage ↔ same status pair.2 = true) ∧ .client ∈ pair.1.lineage

/-- The classes of the statuses that have their own, one by one. -/
theorem partitions_specific : ∀ pair ∈ specific, Partitions pair.2 := by
  have hclient : ∀ pair ∈ specific, .client ∈ (ofStatus pair.2).lineage ∧
      .server ∉ (ofStatus pair.2).lineage ∧
      (le 400 pair.2 = true ∧ lt pair.2 500 = true) ∧ le 500 pair.2 = false := by
    decide +kernel
  have hspecific : ∀ pair ∈ specific, ∀ other ∈ specific,
      (other.1 ∈ (ofStatus pair.2).lineage ↔ same pair.2 other.2 = true) ∧
        .client ∈ other.1.lineage := by
    decide +kernel
  intro pair hpair
  obtain ⟨hmem, hserver, hrange, hbelow⟩ := hclient pair hpair
  refine ⟨⟨fun _ => hrange, fun _ => hmem⟩, ⟨fun hin => absurd hin hserver, fun hin => ?_⟩,
    hspecific pair hpair⟩
  rw [hbelow] at hin
  exact absurd hin.1 Bool.false_ne_true

/-- **The class of an error follows from its status.** -/
theorem partitions (status : Number) : Partitions status := by
  by_cases hspecific : ∃ pair ∈ specific, same status pair.2 = true
  · obtain ⟨pair, hpair, hsame⟩ := hspecific
    obtain ⟨hclient, hserver, hother⟩ := partitions_specific pair hpair
    have hclass := ofStatus_congr hsame
    have hcompares := compares_congr hsame
    refine ⟨?_, ?_, fun other hmem => ?_⟩
    · rw [hclass, (hcompares 400).2.1, (hcompares 500).2.2]
      exact hclient
    · rw [hclass, (hcompares 500).2.1, (hcompares 600).2.2]
      exact hserver
    · rw [hclass, (hcompares other.2).1]
      exact hother other hmem
  · have hnot : ∀ pair ∈ specific, same status pair.2 = false := by
      intro pair hpair
      rw [Bool.eq_false_iff]
      exact fun hsame => hspecific ⟨pair, hpair, hsame⟩
    have hclass := ofStatus_of_not_specific hnot
    have hlineage : ∀ pair ∈ specific, .client ∈ pair.1.lineage ∧
        ∀ wide ∈ [client, server, other], pair.1 ∉ wide.lineage := by
      decide
    have hwide : ofStatus status ∈ [client, server, other] := by
      rw [hclass]
      split
      · decide
      · split <;> decide
    refine ⟨?_, ?_, fun pair hpair => ⟨?_, (hlineage pair hpair).1⟩⟩
    · rw [hclass]
      by_cases hclient : (le 400 status && lt status 500) = true
      · rw [if_pos hclient]
        exact ⟨fun _ => Bool.and_eq_true_iff.mp hclient, fun _ => by decide⟩
      · rw [if_neg hclient, ← Bool.and_eq_true_iff]
        refine ⟨fun hmem => ?_, fun hin => absurd hin hclient⟩
        split at hmem <;> exact absurd hmem (by decide)
    · rw [hclass]
      by_cases hserver : (le 500 status && lt status 600) = true
      · have hbelow := not_lt_of_le (Bool.and_eq_true_iff.mp hserver).1
        rw [hbelow, Bool.and_false, if_neg Bool.false_ne_true, if_pos hserver]
        exact ⟨fun _ => Bool.and_eq_true_iff.mp hserver, fun _ => by decide⟩
      · rw [if_neg hserver, ← Bool.and_eq_true_iff]
        refine ⟨fun hmem => ?_, fun hin => absurd hin hserver⟩
        split at hmem <;> exact absurd hmem (by decide)
    · rw [hnot pair hpair]
      exact ⟨fun hmem => absurd hmem ((hlineage pair hpair).2 _ hwide),
        fun hsame => absurd hsame Bool.false_ne_true⟩

end ErrorClass

/-! ### Bodies -/

/-- The bytes of a body whose chunks come in their order and before its end, however it is cut. -/
theorem Body.bytes_eq_flatMap {body : Body}
    (hsorted : body.chunks.Pairwise fun first second => first.delay ≤ second.delay)
    (hends : ∀ chunk ∈ body.chunks, chunk.delay ≤ body.endDelay) :
    body.bytes = body.chunks.flatMap Chunk.bytes := by
  have hkeep : ((body.chunks.map fun chunk => Arrival.mk ((0 : Time) + chunk.delay) chunk.bytes).mergeSort
      fun first second => first.time ≤ second.time) =
      body.chunks.map fun chunk => Arrival.mk ((0 : Time) + chunk.delay) chunk.bytes := by
    apply List.mergeSort_of_pairwise
    rw [List.pairwise_map]
    refine hsorted.imp fun hle => ?_
    simpa [Time] using hle
  have hall : (body.chunks.map fun chunk => Arrival.mk ((0 : Time) + chunk.delay) chunk.bytes).filter
      (fun arrival => arrival.time ≤ (0 : Time) + body.endDelay) =
      body.chunks.map fun chunk => Arrival.mk ((0 : Time) + chunk.delay) chunk.bytes := by
    apply List.filter_eq_self.mpr
    intro arrival harrival
    obtain ⟨chunk, hchunk, rfl⟩ := List.mem_map.mp harrival
    have hle := hends chunk hchunk
    simpa [Time] using hle
  have hchunks : (Feed.start body 0).chunks =
      body.chunks.map fun chunk => Arrival.mk ((0 : Time) + chunk.delay) chunk.bytes := by
    rw [Feed.start, hkeep]
    cases body.ending with
    | hanging => rfl
    | closed => exact hall
    | failed error => exact hall
  rw [Body.bytes, Feed.bytes, hchunks, List.flatMap_map]

/-- What comes of reading a whole body: its text, or what it fails with, or nothing if it hangs. -/
def bodyText? (body : Option Body) : Option (Except Failure Text) :=
  match body with
  | none => some (.ok [])
  | some body =>
    match body.ending with
    | .closed => some (.ok (Response.decode body.bytes))
    | .failed error => some (.error (.external error))
    | .hanging => none

theorem bodyText?_congr {body other : Body} (hbytes : body.bytes = other.bytes)
    (hending : body.ending = other.ending) : bodyText? (some body) = bodyText? (some other) := by
  simp only [bodyText?, hbytes, hending]

theorem Response.text?_start (status : Number) (body : Option Body) (time : Time) :
    ((⟨status, body.map (Feed.start · time)⟩ : Response).text? time).map Prod.snd =
      bodyText? body := by
  cases body with
  | none => rfl
  | some body =>
      have hending : (Feed.start body time).ending = body.ending := rfl
      simp only [text?, Option.map_some, Feed.whole?, hending, bodyText?, Feed.bytes_start]
      cases body.ending <;> rfl

/-- What an error tells of a text. -/
inductive IsPayload : Text → Option Json → Prop where
  | nothing : IsPayload [] none
  | value {text : Text} {value : Json} (hvalue : Json.parse? text = some value) :
      IsPayload text (some value)
  | text {text : Text} (hsome : text ≠ []) (hvalue : Json.parse? text = none) :
      IsPayload text (some (.str text))

theorem Response.isPayload_payload? (text : Text) : IsPayload text (payload? text) := by
  unfold payload?
  by_cases hempty : text = []
  · rw [if_pos (List.isEmpty_iff.mpr hempty), hempty]
    exact .nothing
  · rw [if_neg (mt List.isEmpty_iff.mp hempty)]
    cases hvalue : Json.parse? text with
    | some value => exact .value hvalue
    | none => exact .text hempty hvalue

theorem IsPayload.eq_payload? {text : Text} {payload : Option Json}
    (hpayload : IsPayload text payload) : payload = Response.payload? text := by
  cases hpayload with
  | nothing => rfl
  | value hvalue =>
      have hsome : text ≠ [] := by
        rintro rfl
        simp [show Json.parse? [] = none from rfl] at hvalue
      rw [Response.payload?, if_neg (mt List.isEmpty_iff.mp hsome), hvalue]
  | text hsome hvalue =>
      rw [Response.payload?, if_neg (mt List.isEmpty_iff.mp hsome), hvalue]

namespace Client

open Outcome

namespace Call

variable {α : Type} {now : Time} {reply : Reply} {unlimited : Outcome α} {call : Call α}

/-- What comes of a call, apart from the time. -/
def result? (call : Call α) : Option (Ended α) :=
  call.outcome.map Prod.snd

/-- What a status without success is escalated to. -/
def escalated (status : Number) : Except Failure Text → Ended α
  | .ok text => .failed (.api ⟨status, Response.payload? text⟩)
  | .error failure => .failed failure

/-- What the whole body of a success is read as. -/
def decoded : Except Failure Text → Ended Json
  | .ok text =>
    match Json.parse? text with
    | some value => .value value
    | none => .failed (.undecodable text)
  | .error failure => .failed failure

/-- What comes of a call whose request is `request?`, if `succeed` is what it makes of a success. -/
structure Answers (request? : Option Request) (now : Time) (reply : Reply)
    (succeed : Response → Option Body → Option (Ended α)) (call : Call α) : Prop where
  sent : call.exchange.map Exchange.request = request?
  unbuilt : request? = none → call.result? = some (.failed .unbuildable)
  silent : request?.isSome = true → reply = .silent → call.result? = none
  refused : request?.isSome = true → ∀ delay error, reply = .refusal delay error →
    call.result? = some (.failed (.external error))
  success : request?.isSome = true → ∀ delay status body, reply = .response delay status body →
    (Number.le 200 status = true ∧ Number.lt status 300 = true) →
    call.result? = succeed ⟨status, body.map (Feed.start · (now + delay))⟩ body
  failure : request?.isSome = true → ∀ delay status body, reply = .response delay status body →
    ¬(Number.le 200 status = true ∧ Number.lt status 300 = true) →
    call.result? = (bodyText? body).map (escalated status)

theorem isSuccess_iff {status : Number} {feed : Option Feed} :
    (⟨status, feed⟩ : Response).isSuccess = true ↔
      Number.le 200 status = true ∧ Number.lt status 300 = true :=
  Bool.and_eq_true_iff

theorem cut_unbounded (now : Time) (outcome : Outcome α) :
    Bounds.cut { deadline := Deadline.start? now none } now outcome = outcome := by
  rcases outcome with _ | found <;> rfl

/-- A request that was built is sent, and without a time limit the call comes out as it would
anyway. -/
theorem IsCut.outcome_eq (hcut : IsCut { deadline := Deadline.start? now none } now unlimited call)
    (hsent : call.exchange.isSome = true) : call.outcome = unlimited := by
  cases hcut with
  | unsent hexchange => simp [hexchange] at hsent
  | sent exchange _ houtcome => rwa [cut_unbounded] at houtcome

theorem andThen_andThen {β γ : Type} (outcome : Outcome α) (next : Time → α → Outcome β)
    (last : Time → β → Outcome γ) :
    (outcome.andThen next).andThen last =
      outcome.andThen fun time value => (next time value).andThen last := by
  rcases outcome with _ | ⟨time, value | failure | _⟩ <;> rfl

theorem exchange_check {β : Type} (call : Call α) (next : α → Except Failure β) :
    (call.check next).exchange = call.exchange := rfl

theorem IsCut.answers {request? : Option Request}
    {succeed : Response → Option Body → Option (Ended α)}
    (hcut : IsCut { deadline := Deadline.start? now none } now unlimited call)
    (hsent : call.exchange.map Exchange.request = request?)
    (hsilent : reply = .silent → unlimited = none)
    (hrefused : ∀ delay error, reply = .refusal delay error →
      unlimited.map Prod.snd = some (.failed (.external error)))
    (hsuccess : ∀ delay status body, reply = .response delay status body →
      (Number.le 200 status = true ∧ Number.lt status 300 = true) →
      unlimited.map Prod.snd = succeed ⟨status, body.map (Feed.start · (now + delay))⟩ body)
    (hfailure : ∀ delay status body, reply = .response delay status body →
      ¬(Number.le 200 status = true ∧ Number.lt status 300 = true) →
      unlimited.map Prod.snd = (bodyText? body).map (escalated status)) :
    Answers request? now reply succeed call := by
  have hresult (hbuilt : request?.isSome = true) : call.result? = unlimited.map Prod.snd := by
    rw [← hsent, Option.isSome_map] at hbuilt
    rw [result?, hcut.outcome_eq hbuilt]
  refine ⟨hsent, fun hnone => ?_, fun hbuilt hreply => ?_, fun hbuilt => ?_, fun hbuilt => ?_,
    fun hbuilt => ?_⟩
  · rw [← hsent, Option.map_eq_none_iff] at hnone
    cases hcut with
    | unsent _ houtcome => rw [result?, houtcome, Option.map_some]
    | sent exchange hexchange => simp [hexchange] at hnone
  · rw [hresult hbuilt, hsilent hreply, Option.map_none]
  · rw [hresult hbuilt]
    exact hrefused
  · rw [hresult hbuilt]
    exact hsuccess
  · rw [hresult hbuilt]
    exact hfailure

section Kinds

variable (client : Client) (now : Time) (method : Method) (url : Text) (options : RequestOptions)
  (timeoutMs : Option Number) (reply : Reply)

theorem exchange_run {next : Bounds → Time → Response → Outcome α} :
    (run client now method url options timeoutMs reply next).exchange.map Exchange.request =
      client.build? method url options := by
  unfold run
  cases client.build? method url options <;> rfl

/-- What comes of the text of a body that is read whole. -/
theorem snd_andThen_text? {β : Type} (status : Number) (body : Option Body) (time : Time)
    (next : Text → Except Failure β) :
    ((ofExcept ((⟨status, body.map (Feed.start · time)⟩ : Response).text? time)).andThen
      fun time text => Outcome.ofExcept (some (time, next text))).map Prod.snd =
      (bodyText? body).map fun
        | .ok text =>
          match next text with
          | .ok value => .value value
          | .error failure => .failed failure
        | .error failure => .failed failure := by
  rw [← Response.text?_start status body time]
  rcases (⟨status, body.map (Feed.start · time)⟩ : Response).text? time with
    _ | ⟨time, failure | text⟩
  · rfl
  · rfl
  · simp only [Outcome.ofExcept, andThen, Option.map_some]
    cases next text <;> rfl

/-- An error is there with the text, and nothing is done behind it. -/
theorem snd_escalate_andThen {β : Type} {status : Number} {body : Option Body} {time : Time}
    (hstatus : ¬(Number.le 200 status = true ∧ Number.lt status 300 = true))
    (next : Time → Response → Outcome β) :
    ((escalate time ⟨status, body.map (Feed.start · time)⟩).andThen next).map Prod.snd =
      (bodyText? body).map (escalated status) := by
  rw [escalate, if_neg (mt isSuccess_iff.mp hstatus), ← Response.text?_start status body time]
  rcases (⟨status, body.map (Feed.start · time)⟩ : Response).text? time with
    _ | ⟨time, failure | text⟩ <;> rfl

theorem answers_request (hunlimited : timeoutMs.or client.requestTimeoutMs = none) :
    Answers (client.build? method url options) now reply
      (fun response _ => some (.value response))
      (request client now method url options timeoutMs reply) := by
  have hcut := isCut_request client now method url options timeoutMs reply
  rw [hunlimited] at hcut
  apply hcut.answers (exchange_run ..)
  · rintro rfl
    rfl
  · rintro delay error rfl
    rfl
  · rintro delay status body rfl hstatus
    rw [send_response, escalate, if_pos (isSuccess_iff.mpr hstatus)]
    rfl
  · rintro delay status body rfl hstatus
    rw [send_response, ← snd_escalate_andThen hstatus, andThen_value]

theorem answers_json (hunlimited : timeoutMs.or client.requestTimeoutMs = none) :
    Answers (client.build? method url options) now reply
      (fun _ body => (bodyText? body).map decoded)
      (json client now method url options timeoutMs reply) := by
  have hcut := isCut_json client now method url options timeoutMs reply
  rw [hunlimited] at hcut
  have hsent : (json client now method url options timeoutMs reply).exchange.map Exchange.request =
      client.build? method url options := by
    rw [json, exchange_check]
    exact exchange_run ..
  apply hcut.answers hsent
  · rintro rfl
    rfl
  · rintro delay error rfl
    rfl
  · rintro delay status body rfl hstatus
    rw [whole, send_response, escalate, if_pos (isSuccess_iff.mpr hstatus)]
    refine (snd_andThen_text? status body _ Lines.record).trans ?_
    congr 1
    funext result
    rcases result with failure | text
    · rfl
    · simp only [decoded, Lines.record]
      cases Json.parse? text <;> rfl
  · rintro delay status body rfl hstatus
    rw [whole, send_response, andThen_andThen]
    exact snd_escalate_andThen hstatus _

end Kinds

/-- What is told by a result whose body is not read. -/
def told : Ended Response → Ended (Number × Option Bytes)
  | .value response => .value (response.status, response.body.map Feed.bytes)
  | .failed failure => .failed failure
  | .stopped => .stopped

/-- Of two answers with the same bytes comes the same, if the same is made of a success. -/
theorem Answers.map_eq {β : Type} {request? : Option Request}
    {succeed : Response → Option Body → Option (Ended α)} {other : Call α} {delay delay' : Nat}
    {status : Number} {body body' : Body} (tell : Ended α → Ended β)
    (hcall : Answers request? now (.response delay status (some body)) succeed call)
    (hother : Answers request? now (.response delay' status (some body')) succeed other)
    (htext : bodyText? (some body) = bodyText? (some body'))
    (hsucceed : (succeed ⟨status, some (Feed.start body (now + delay))⟩ (some body)).map tell =
      (succeed ⟨status, some (Feed.start body' (now + delay'))⟩ (some body')).map tell) :
    call.result?.map tell = other.result?.map tell := by
  by_cases hbuilt : request?.isSome = true
  · by_cases hstatus : Number.le 200 status = true ∧ Number.lt status 300 = true
    · rw [hcall.success hbuilt _ _ _ rfl hstatus, hother.success hbuilt _ _ _ rfl hstatus]
      exact hsucceed
    · rw [hcall.failure hbuilt _ _ _ rfl hstatus, hother.failure hbuilt _ _ _ rfl hstatus, htext]
  · have hnone : request? = none := by simpa using hbuilt
    rw [hcall.unbuilt hnone, hother.unbuilt hnone]

/-- **What a call without a time limit comes to.** One request is sent, unless none can be built. A
failure to answer it or to send the body comes out as it is. A success is the response with its body
unread or the JSON value of its text, and any other status is an error of its class with what the
text tells. The same bytes make the same answer, however they are cut and whenever they come. -/
theorem calls_answer (client : Client) (now : Time) (method : Method) (url : Text)
    (options : RequestOptions) {timeoutMs : Option Number}
    (hunlimited : timeoutMs.or client.requestTimeoutMs = none) :
    (∀ reply, Answers (client.build? method url options) now reply
        (fun response _ => some (.value response))
        (request client now method url options timeoutMs reply) ∧
      Answers (client.build? method url options) now reply
        (fun _ body => (bodyText? body).map decoded)
        (json client now method url options timeoutMs reply)) ∧
    (∀ text, IsPayload text (Response.payload? text)) ∧
    (∀ status, ErrorClass.Partitions status) ∧
    ∀ status (body other : Body), body.bytes = other.bytes → body.ending = other.ending →
      ∀ delay delay',
      (request client now method url options timeoutMs
          (.response delay status (some body))).result?.map told =
        (request client now method url options timeoutMs
          (.response delay' status (some other))).result?.map told ∧
      (json client now method url options timeoutMs (.response delay status (some body))).result? =
        (json client now method url options timeoutMs
          (.response delay' status (some other))).result? := by
  have hrequest (reply : Reply) :=
    answers_request client now method url options timeoutMs reply hunlimited
  have hjson (reply : Reply) := answers_json client now method url options timeoutMs reply hunlimited
  refine ⟨fun reply => ⟨hrequest reply, hjson reply⟩, Response.isPayload_payload?,
    ErrorClass.partitions, fun status body other hbytes hending delay delay' => ?_⟩
  have htext := bodyText?_congr hbytes hending
  constructor
  · apply (hrequest _).map_eq told (hrequest _) htext
    simp only [Option.map_some, told, Feed.bytes_start, hbytes]
  · have hsame := (hjson (.response delay status (some body))).map_eq id
      (hjson (.response delay' status (some other))) htext (by rw [htext])
    rwa [Option.map_id, id, id] at hsame

/-- Two ways to cut an empty object. -/
def torn : Body := ⟨[⟨0, [0x7B]⟩, ⟨4, []⟩, ⟨4, [0x7D]⟩], 9, .closed⟩

def untorn : Body := ⟨[⟨1, [0x7B, 0x7D]⟩], 1, .closed⟩

theorem calls_answer_torn :
    (none : Option Number).or none = none ∧ torn.bytes = untorn.bytes ∧
      (json ⟨"http://[::1]", [], none, none, none⟩ 0 .get "/pods/a" {} none
          (.response 3 404 (some torn))).result? =
        (json ⟨"http://[::1]", [], none, none, none⟩ 0 .get "/pods/a" {} none
          (.response 5 404 (some untorn))).result? ∧
      (json ⟨"http://[::1]", [], none, none, none⟩ 0 .get "/pods/a" {} none
          (.response 3 404 (some torn))).result? =
        some (.failed (.api ⟨404, some (.obj [])⟩)) := by
  have hbytes : torn.bytes = [0x7B, 0x7D] := Body.bytes_eq_flatMap (by decide) (by decide)
  have hother : untorn.bytes = [0x7B, 0x7D] := Body.bytes_eq_flatMap (by decide) (by decide)
  have hsame : torn.bytes = untorn.bytes := hbytes.trans hother.symm
  have hunlimited : (none : Option Number).or none = none := rfl
  obtain ⟨hanswers, -, -, hcuts⟩ :=
    calls_answer ⟨"http://[::1]", [], none, none, none⟩ 0 .get "/pods/a" {} hunlimited
  refine ⟨hunlimited, hsame, (hcuts 404 torn untorn hsame rfl 3 5).2, ?_⟩
  have hbuilt : (Client.build? ⟨"http://[::1]", [], none, none, none⟩ .get "/pods/a" {}).isSome =
      true := by
    decide +kernel
  have hstatus : ¬(Number.le 200 404 = true ∧ Number.lt 404 300 = true) := by decide +kernel
  have htext : bodyText? (some torn) = some (.ok (Response.decode [0x7B, 0x7D])) := by
    rw [← hbytes]
    rfl
  have hdecoded : Response.decode [0x7B, 0x7D] = [0x7B, 0x7D] := by decide +kernel
  have hpayload : Response.payload? (Response.decode [0x7B, 0x7D]) = some (.obj []) := by
    rw [hdecoded]
    rfl
  rw [(hanswers _).2.failure hbuilt 3 404 (some torn) rfl hstatus, htext, Option.map_some, escalated,
    hpayload]

end Call

end Client

/-! ### Refusals -/

/-- What a server refuses a request with: it does not answer, or it answers with another status than
success and the text of the whole body, or that body fails. -/
inductive Reply.Refuses : Reply → Failure → Prop where
  | unanswered (delay : Nat) (error : Thrown) : Refuses (.refusal delay error) (.external error)
  | status (delay : Nat) (status : Number) (body : Option Body) (text : Text)
      (payload : Option Json)
      (hstatus : ¬(Number.le 200 status = true ∧ Number.lt status 300 = true))
      (htext : bodyText? body = some (.ok text)) (hpayload : IsPayload text payload) :
      Refuses (.response delay status body) (.api ⟨status, payload⟩)
  | torn (delay : Nat) (status : Number) (body : Option Body) (failure : Failure)
      (hstatus : ¬(Number.le 200 status = true ∧ Number.lt status 300 = true))
      (htext : bodyText? body = some (.error failure)) :
      Refuses (.response delay status body) failure

/-- It is never told whether the request is refused, or a body never comes to an end. -/
def Reply.Hangs (reply : Reply) : Prop :=
  reply = .silent ∨
    ∃ delay status body, reply = .response delay status (some body) ∧ body.ending = .hanging

theorem bodyText?_eq_none {body : Option Body} (hnone : bodyText? body = none) :
    ∃ whole, body = some whole ∧ whole.ending = .hanging := by
  unfold bodyText? at hnone
  split at hnone
  · cases hnone
  · split at hnone
    · cases hnone
    · cases hnone
    · exact ⟨_, rfl, ‹_›⟩

namespace Client

theorem send_of_not_isSuccess (now : Time) (delay : Nat) {status : Number} (body : Option Body)
    (hstatus : ¬(Number.le 200 status = true ∧ Number.lt status 300 = true)) :
    (send {} now (.response delay status body)).map Prod.snd =
      (bodyText? body).map (Call.escalated status) := by
  rw [send_response, ← Outcome.andThen_value (escalate _ _)]
  exact Call.snd_escalate_andThen hstatus _

theorem send_of_status (now : Time) (delay : Nat) {status : Number} (body : Option Body)
    (hstatus : Number.le 200 status = true ∧ Number.lt status 300 = true) :
    (send {} now (.response delay status body)).map Prod.snd =
      some (.value ⟨status, body.map (Feed.start · (now + delay))⟩) := by
  rw [send_response, escalate, if_pos (Call.isSuccess_iff.mpr hstatus)]
  rfl

variable {now : Time} {reply : Reply} {failure : Failure}

/-- Without a bound a request fails exactly with what the server refuses it with. -/
theorem refuses_iff (now : Time) :
    reply.Refuses failure ↔ (send {} now reply).map Prod.snd = some (.failed failure) := by
  constructor
  · rintro (⟨delay, error⟩ | ⟨delay, status, body, text, payload, hstatus, htext, hpayload⟩ |
      ⟨delay, status, body, failure, hstatus, htext⟩)
    · rfl
    · rw [send_of_not_isSuccess now delay body hstatus, htext, hpayload.eq_payload?]
      rfl
    · rw [send_of_not_isSuccess now delay body hstatus, htext]
      rfl
  · intro hsend
    cases reply with
    | silent => cases hsend
    | refusal delay error =>
        obtain rfl := Ended.failed.inj (Option.some.inj hsend)
        exact .unanswered delay error
    | response delay status body =>
        by_cases hstatus : Number.le 200 status = true ∧ Number.lt status 300 = true
        · rw [send_of_status now delay body hstatus] at hsend
          cases hsend
        · rw [send_of_not_isSuccess now delay body hstatus, Option.map_eq_some_iff] at hsend
          obtain ⟨found | text, htext, hfailed⟩ := hsend
          · obtain rfl := Ended.failed.inj hfailed
            exact .torn delay status body found hstatus htext
          · obtain rfl := Ended.failed.inj hfailed
            exact .status delay status body text _ hstatus htext
              (Response.isPayload_payload? text)

/-- The stop signal has no part in a failure. -/
theorem refuses_of_send {stop : Option Time} {time : Time}
    (hsend : send ⟨stop, none⟩ now reply = some (time, .failed failure)) :
    reply.Refuses failure := by
  rw [send_eq_cut] at hsend
  rcases Bounds.cut_cases ⟨stop, none⟩ (isAfter_send_unbounded now reply) with
    ⟨found, hfound, -, hcut⟩ | ⟨-, hcut⟩
  · rw [hcut, Option.some.injEq] at hsend
    exact (refuses_iff now).mpr (by rw [hfound, hsend, Option.map_some])
  · rw [hcut] at hsend
    rcases Bounds.cut_none_cases (α := Response) ⟨stop, none⟩ now with
      ⟨_, -, hstopped⟩ | ⟨_, hdeadline, -⟩ | hnone
    · simp [hstopped] at hsend
    · cases hdeadline
    · simp [hnone] at hsend

theorem hangs_of_send (hsend : send {} now reply = none) : reply.Hangs := by
  cases reply with
  | silent => exact Or.inl rfl
  | refusal => cases hsend
  | response delay status body =>
      by_cases hstatus : Number.le 200 status = true ∧ Number.lt status 300 = true
      · have hvalue := send_of_status now delay body hstatus
        rw [hsend] at hvalue
        cases hvalue
      · have hnone := send_of_not_isSuccess now delay body hstatus
        rw [hsend, Option.map_none, eq_comm, Option.map_eq_none_iff] at hnone
        obtain ⟨whole, rfl, hending⟩ := bodyText?_eq_none hnone
        exact Or.inr ⟨delay, status, whole, rfl, hending⟩

end Client

end ResourceWatch
