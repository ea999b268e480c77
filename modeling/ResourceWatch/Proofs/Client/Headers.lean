import ResourceWatch.Client.Call

/-!
# Which value of a field is sent

The fields of a request are set one after another, and names are compared without regard to case. So
of the values that a name is given the last one is sent. A call sets its fields last, and a client
sets its fields behind the defaults, but for the content type of a payload.
-/

namespace ResourceWatch

namespace Text

theorem lowerUnit_lowerUnit (u : UInt16) : lowerUnit (lowerUnit u) = lowerUnit u := by
  unfold lowerUnit
  by_cases hupper : isUpper u = true
  · have hlower : isUpper (u + 0x20) = false := by
      simp only [isUpper, Bool.and_eq_true, decide_eq_true_eq, UInt16.le_iff_toNat_le] at hupper
      simp [isUpper, UInt16.le_iff_toNat_le] at hupper ⊢
      omega
    rw [if_pos hupper, hlower, if_neg Bool.false_ne_true]
  · rw [if_neg hupper, if_neg hupper]

theorem lower_lower (text : Text) : lower (lower text) = lower text := by
  rw [lower, lower, List.map_map]
  apply List.map_congr_left
  intro u _
  exact lowerUnit_lowerUnit u

end Text

namespace Headers

open Text

variable {headers found : Headers} {fields : List (Text × Text)}

/-! ### Setting fields -/

/-- The value that a name has when fields have been set in their order. -/
def last? (fields : List (Text × Text)) (name : Text) : Option Text :=
  (fields.reverse.find? fun field => lower field.1 = lower name).map fun field => normalize field.2

theorem last?_append (first second : List (Text × Text)) (name : Text) :
    last? (first ++ second) name = (last? second name).or (last? first name) := by
  rw [last?, List.reverse_append, List.find?_append, Option.map_or, ← last?, ← last?]

theorem last?_singleton (field : Text × Text) (name : Text) :
    last? [field] name =
      if lower field.1 = lower name then some (normalize field.2) else none := by
  by_cases hname : lower field.1 = lower name <;> simp [last?, hname]

theorem lookup_put (headers : Headers) (name value other : Text) :
    (headers.put name value).lookup other =
      if other = name then some value else headers.lookup other := by
  induction headers with
  | nil => by_cases hother : other = name <;> simp [put, hother]
  | cons field rest ih =>
      rw [put]
      by_cases hfield : field.1 = name
      · rw [if_pos hfield]
        by_cases hother : other = name
        · simp [hother]
        · have hskip : (other == name) = false := by simpa using hother
          rw [if_neg hother, List.lookup_cons, List.lookup_cons, hfield, hskip]
      · rw [if_neg hfield, List.lookup_cons, List.lookup_cons, ih]
        by_cases hother : other = field.1
        · simp [hother, hfield]
        · have hskip : (other == field.1) = false := by simpa using hother
          rw [hskip]

theorem mem_put {name value : Text} {field : Text × Text}
    (hfield : field ∈ headers.put name value) : field = (name, value) ∨ field ∈ headers := by
  induction headers with
  | nil => exact .inl (by simpa [put] using hfield)
  | cons first rest ih =>
      rw [put] at hfield
      split at hfield
      · rcases List.mem_cons.mp hfield with heq | hrest
        · exact .inl heq
        · exact .inr (List.mem_cons_of_mem _ hrest)
      · rcases List.mem_cons.mp hfield with rfl | hrest
        · exact .inr List.mem_cons_self
        · rcases ih hrest with heq | hmem
          · exact .inl heq
          · exact .inr (List.mem_cons_of_mem _ hmem)

/-- Every name is in lower case and stands in one field only. -/
structure IsNormal (headers : Headers) : Prop where
  nodup : (headers.map Prod.fst).Nodup
  lower : ∀ field ∈ headers, Text.lower field.1 = field.1

theorem isNormal_nil : IsNormal [] where
  nodup := List.nodup_nil
  lower _ hfield := absurd hfield List.not_mem_nil

theorem IsNormal.put (hnormal : headers.IsNormal) (name value : Text) :
    (headers.put (Text.lower name) value).IsNormal := by
  constructor
  · have hnodup := hnormal.nodup
    clear hnormal
    induction headers with
    | nil => simp [Headers.put]
    | cons field rest ih =>
        rw [List.map_cons, List.nodup_cons] at hnodup
        rw [Headers.put]
        split
        · rename_i hfield
          rw [List.map_cons, List.nodup_cons, ← hfield]
          exact hnodup
        · rename_i hfield
          rw [List.map_cons, List.nodup_cons]
          refine ⟨fun hmem => ?_, ih hnodup.2⟩
          obtain ⟨other, hother, hsame⟩ := List.mem_map.mp hmem
          rcases mem_put hother with rfl | hrest
          · exact hfield hsame.symm
          · exact hnodup.1 (hsame ▸ List.mem_map_of_mem hrest)
  · intro field hfield
    rcases mem_put hfield with rfl | hfield
    · exact lower_lower name
    · exact hnormal.lower field hfield

theorem set?_eq_some {name value : Text} (hset : headers.set? name value = some found) :
    found = headers.put (lower name) (normalize value) := by
  rw [set?] at hset
  split at hset
  · exact (Option.some.inj hset).symm
  · cases hset

/-- **Of the values that a name is given, the last one stays.** -/
theorem get?_setAll? (hset : setAll? headers fields = some found) (name : Text) :
    found.get? name = (last? fields name).or (headers.get? name) := by
  induction fields generalizing headers with
  | nil =>
      obtain rfl := Option.some.inj hset
      rfl
  | cons field rest ih =>
      rw [setAll?] at hset
      split at hset
      · rename_i next hnext
        have hvalue : next.get? name = (last? [field] name).or (headers.get? name) := by
          rw [set?_eq_some hnext, get?, lookup_put, last?_singleton]
          by_cases hname : lower field.1 = lower name
          · rw [if_pos hname.symm, if_pos hname, Option.some_or]
          · rw [if_neg (Ne.symm hname), if_neg hname, Option.none_or, get?]
        calc
          found.get? name = (last? rest name).or (next.get? name) := ih hset
          _ = ((last? rest name).or (last? [field] name)).or (headers.get? name) := by
            rw [hvalue, Option.or_assoc]
          _ = (last? (field :: rest) name).or (headers.get? name) := by
            rw [← last?_append, List.singleton_append]
      · cases hset

theorem IsNormal.setAll? (hnormal : headers.IsNormal)
    (hset : headers.setAll? fields = some found) : found.IsNormal := by
  induction fields generalizing headers with
  | nil =>
      obtain rfl := Option.some.inj hset
      exact hnormal
  | cons field rest ih =>
      rw [Headers.setAll?] at hset
      split at hset
      · rename_i next hnext
        refine ih ?_ hset
        rw [set?_eq_some hnext]
        exact hnormal.put _ _
      · cases hset

end Headers

namespace Client

open Text Headers

variable {client : Client} {method : Method} {url : Text} {options : RequestOptions}
  {request : Request}

/-! ### The fields of a request -/

/-- What is sent unless a client or a call says otherwise. -/
def standing (client : Client) : List (Text × Text) :=
  ("Accept", "application/json") ::
    ((client.userAgent.filter (!·.isEmpty)).map fun agent => (ofString "User-Agent", agent)).toList

/-- The same of the payload. -/
def typing (method : Method) (options : RequestOptions) : List (Text × Text) :=
  if (body? method options).isSome then [(ofString "Content-Type", options.contentType)] else []

/-- The value of a name if what a call says comes before what its client says, and this before the
defaults. -/
def preferred? (client : Client) (method : Method) (options : RequestOptions) (name : Text) :
    Option Text :=
  (last? options.headers name).or
    ((last? client.headers name).or (last? (client.standing ++ typing method options) name))

/-- A payload is sent of which the client names the type and the call does not. -/
structure IsRetyped (client : Client) (method : Method) (options : RequestOptions) (name : Text) :
    Prop where
  payload : (body? method options).isSome = true
  isType : lower name = lower "Content-Type"
  call : last? options.headers name = none
  client : (last? client.headers name).isSome = true

theorem last?_fields (client : Client) (method : Method) (options : RequestOptions) (name : Text) :
    last? (client.fields method options) name =
      (last? options.headers name).or ((last? (typing method options) name).or
        ((last? client.headers name).or (last? client.standing name))) := by
  have hfields : client.fields method options =
      ((client.standing ++ client.headers) ++ typing method options) ++ options.headers := by
    simp [fields, standing, typing]
  rw [hfields, last?_append, last?_append, last?_append]

theorem last?_typing (hpayload : (body? method options).isSome = true) {name : Text}
    (hname : lower name = lower "Content-Type") :
    last? (typing method options) name = some (normalize options.contentType) := by
  rw [typing, if_pos hpayload, last?_singleton, if_pos hname.symm]

theorem last?_typing_eq_none {name : Text}
    (hnone : ¬((body? method options).isSome = true ∧ lower name = lower "Content-Type")) :
    last? (typing method options) name = none := by
  rw [typing]
  split
  · rename_i hpayload
    rw [last?_singleton, if_neg fun hname => hnone ⟨hpayload, hname.symm⟩]
  · rfl

/-- A call by its method sends what is built with the content type of the method. -/
theorem request_typed (client : Client) (now : Time) (method : Method) (url : Text)
    (payload : Option Json) (headers : List (Text × Text)) (timeoutMs : Option Number)
    (reply : Reply) :
    (Call.typed client now method url payload headers timeoutMs reply).exchange.map
        Exchange.request =
      client.build? method url { payload, headers, contentType := Call.contentType method } := by
  simp only [Call.typed, Call.json, Call.check, Call.run]
  cases client.build? method url { payload, headers, contentType := Call.contentType method } <;>
    rfl

/-- **Which value of a field is sent.** Each name stands in one field, with the value that the call
gives it last; without one, with that of the client; and without either with the default. The
defaults come before the client only where a payload is sent: its content type is the default one,
even if the client names another. This default is the one of the method if the call is made by its
method. -/
theorem build?_headers (hrequest : client.build? method url options = some request) :
    request.headers.IsNormal ∧
    (∀ name, ¬client.IsRetyped method options name →
      request.headers.get? name = client.preferred? method options name) ∧
    (∀ name, client.IsRetyped method options name →
      request.headers.get? name = some (normalize options.contentType)) ∧
    ∀ payload headers, options = { payload, headers, contentType := Call.contentType method } →
      ∀ now timeoutMs reply,
        (Call.typed client now method url payload headers timeoutMs reply).exchange.map
          Exchange.request = some request := by
  have htyped : ∀ payload headers,
      options = { payload, headers, contentType := Call.contentType method } →
      ∀ now timeoutMs reply,
        (Call.typed client now method url payload headers timeoutMs reply).exchange.map
          Exchange.request = some request := by
    rintro payload headers rfl now timeoutMs reply
    rw [request_typed, hrequest]
  simp only [build?, Option.bind_eq_bind, Option.bind_eq_some_iff] at hrequest
  obtain ⟨headers, hheaders, parsed, -, hrequest⟩ := hrequest
  split at hrequest
  · cases hrequest
  obtain rfl := Option.some.inj hrequest
  have hget (name : Text) : headers.get? name =
      (last? options.headers name).or ((last? (typing method options) name).or
        ((last? client.headers name).or (last? client.standing name))) := by
    have hempty : get? [] name = none := rfl
    rw [get?_setAll? hheaders, last?_fields, hempty, Option.or_none]
  refine ⟨isNormal_nil.setAll? hheaders, fun name hkept => ?_, fun name hretyped => ?_, htyped⟩
  · rw [hget, preferred?, last?_append]
    by_cases htyped : (body? method options).isSome = true ∧ lower name = lower "Content-Type"
    · -- The call names the type itself, or the client does not.
      rw [last?_typing htyped.1 htyped.2]
      cases hcall : last? options.headers name with
      | some value => rfl
      | none =>
          cases hclient : last? client.headers name with
          | none => rfl
          | some value => exact absurd ⟨htyped.1, htyped.2, hcall, by rw [hclient]; rfl⟩ hkept
    · rw [last?_typing_eq_none htyped, Option.none_or, Option.none_or]
  · rw [hget, hretyped.call, last?_typing hretyped.payload hretyped.isType]
    rfl

/-- A client with fields of its own. -/
def teamClient : Client where
  server := "http://[::1]"
  headers := [("X-Team", "blue"), ("accept", "text/plain"), ("Content-Type", "application/cbor")]
  userAgent := some "shoal/0.1.0"

/-- A patch that names another team. -/
def teamPatch : RequestOptions where
  payload := some (.obj [])
  headers := [("x-team", "green"), ("X-TEAM", " red ")]
  contentType := Call.contentType .patch

def teamRequest : Request where
  method := .patch
  url := "http://[::1]/pods"
  headers := [("accept", "text/plain"), ("user-agent", "shoal/0.1.0"), ("x-team", "red"),
    ("content-type", "application/merge-patch+json")]
  body := some "\x7b\x7d"

theorem build?_headers_patch :
    teamClient.build? .patch "/pods" teamPatch = some teamRequest ∧
      ¬teamClient.IsRetyped .patch teamPatch "X-Team" ∧
      teamRequest.headers.get? "X-Team" = teamClient.preferred? .patch teamPatch "X-Team" ∧
      teamClient.IsRetyped .patch teamPatch "content-type" ∧
      teamRequest.headers.get? "content-type" = some (normalize Call.mergePatch) ∧
      (Call.patch teamClient 0 "/pods" teamPatch.payload teamPatch.headers none .silent).exchange.map
        Exchange.request = some teamRequest := by
  have hrequest : teamClient.build? .patch "/pods" teamPatch = some teamRequest := by
    decide +kernel
  have hkept : ¬teamClient.IsRetyped .patch teamPatch "X-Team" := fun hretyped =>
    absurd hretyped.isType (by decide)
  have hretyped : teamClient.IsRetyped .patch teamPatch "content-type" := by
    constructor <;> decide
  obtain ⟨-, hpreferred, htype, htyped⟩ := build?_headers hrequest
  exact ⟨hrequest, hkept, hpreferred _ hkept, hretyped, htype _ hretyped,
    htyped teamPatch.payload teamPatch.headers rfl 0 none .silent⟩

/-- **A content type that is not sent**: that of the client, though no call overrides it. -/
theorem not_preferred_of_isRetyped :
    ∃ request, teamClient.build? .post "/pods" { payload := some (.obj []) } = some request ∧
      last? teamClient.headers "Content-Type" = some (ofString "application/cbor") ∧
      request.headers.get? "Content-Type" = some (ofString "application/json") ∧
      request.headers.get? "Content-Type" ≠
        teamClient.preferred? .post { payload := some (.obj []) } "Content-Type" := by
  have hbuilt : (teamClient.build? .post "/pods" { payload := some (.obj []) }).isSome = true := by
    decide +kernel
  obtain ⟨request, hrequest⟩ := Option.isSome_iff_exists.mp hbuilt
  have hsent : request.headers.get? "Content-Type" = some (ofString "application/json") := by
    have hheaders : (teamClient.build? .post "/pods" { payload := some (.obj []) }).bind
        (fun request => request.headers.get? "Content-Type") = some (ofString "application/json") := by
      decide +kernel
    rwa [hrequest, Option.bind_some] at hheaders
  refine ⟨request, hrequest, by decide, hsent, ?_⟩
  rw [hsent]
  decide

end Client

end ResourceWatch
