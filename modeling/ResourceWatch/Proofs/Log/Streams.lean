import ResourceWatch.Proofs.Log.Levels
import ResourceWatch.Watch.Continuous

/-!
# Streams and watches beside their logs

Two runs are told apart by their logs alone: they begin alike, and their consumers answer alike but
may hand on other records. No step reads the log, so the runs stay alike, and whatever relation
between the logs is kept by writing the same records to both is kept by the runs. `Matches` says of
each kind of state that another one has all but the log in common with it, and `mute` takes the log
away.
-/

namespace ResourceWatch

/-- A relation between two logs that is kept while the same records of some categories are written
to both. -/
structure Log.Pairing where
  Holds : List Record → List Record → Prop
  Takes : List Text → Prop
  ordinary : ∀ {category}, IsOrdinary category → Takes category
  append : ∀ {first second records}, Holds first second →
    (∀ record ∈ records, Takes record.category) → Holds (first ++ records) (second ++ records)

namespace Log.Pairing

/-- Nothing is asked of the logs. -/
def any : Pairing where
  Holds _ _ := True
  Takes _ := True
  ordinary _ := trivial
  append _ _ := trivial

/-- Both logs go on from where they were with the same ordinary records. -/
def since (first second : List Record) : Pairing where
  Holds log other :=
    ∃ records, AreOrdinary records ∧ log = first ++ records ∧ other = second ++ records
  Takes := IsOrdinary
  ordinary := id
  append := by
    rintro _ _ more ⟨records, hrecords, rfl, rfl⟩ hmore
    exact ⟨records ++ more, areOrdinary_append.mpr ⟨hrecords, hmore⟩,
      List.append_assoc .., List.append_assoc ..⟩

theorem holds_since (first second : List Record) : (since first second).Holds first second :=
  ⟨[], areOrdinary_nil, by simp, by simp⟩

theorem holds_since_nil {records : List Record} (hrecords : AreOrdinary records) :
    (since [] []).Holds records records :=
  ⟨records, hrecords, rfl, rfl⟩

theorem areOrdinary_of_since {log other : List Record} (hlog : (since [] []).Holds log other) :
    AreOrdinary log := by
  obtain ⟨records, hrecords, rfl, -⟩ := hlog
  exact hrecords

theorem write (pairing : Pairing) {first second records : List Record}
    (hlog : pairing.Holds first second) (hordinary : AreOrdinary records) :
    pairing.Holds (first ++ records) (second ++ records) :=
  pairing.append hlog fun record hmem => pairing.ordinary (hordinary record hmem)

end Log.Pairing

open Log (Pairing AreOrdinary)

/-- Results that agree but for what they leave behind, which is related. -/
theorem exists_pair {α β : Type} {Related : α → α → Prop} {here there : α × β}
    (hrelated : Related here.1 there.1) (hsame : there.2 = here.2) :
    ∃ first second value, here = (first, value) ∧ there = (second, value) ∧
      Related first second :=
  ⟨here.1, there.1, here.2, rfl, by rw [← hsame], hrelated⟩

section Consumers

variable {σ α : Type}

/-- Two consumers that answer alike and hand on records that keep a relation between the logs, as
long as the state is a valid one. -/
structure Consumer.Matches (pairing : Pairing) (Valid : σ → Prop) (first second : Consumer σ α) :
    Prop where
  state : ∀ state now value, (second state now value).1 = (first state now value).1
  pause : ∀ state now value, (second state now value).2.pause = (first state now value).2.pause
  stop : ∀ state now value, (second state now value).2.stop = (first state now value).2.stop
  valid : ∀ {state}, Valid state → ∀ now value, Valid (first state now value).1
  log : ∀ {state}, Valid state → ∀ now value {log other}, pairing.Holds log other →
    pairing.Holds (log ++ (first state now value).2.log) (other ++ (second state now value).2.log)

/-- The consumer that hands on no records. -/
def Consumer.silent (consumer : Consumer σ α) : Consumer σ α := fun state now value =>
  let (state, reaction) := consumer state now value
  (state, { reaction with log := [] })

theorem Consumer.matches_silent (consumer : Consumer σ α) :
    consumer.Matches .any (fun _ => True) consumer.silent where
  state _ _ _ := rfl
  pause _ _ _ := rfl
  stop _ _ _ := rfl
  valid _ _ _ := trivial
  log _ _ _ := fun _ => trivial

/-- From a valid state on, the consumer hands on ordinary records. -/
structure Consumer.IsOrdinary (Valid : σ → Prop) (consumer : Consumer σ α) : Prop where
  valid : ∀ {state}, Valid state → ∀ now value, Valid (consumer state now value).1
  log : ∀ {state}, Valid state → ∀ now value, AreOrdinary (consumer state now value).2.log

theorem Consumer.IsOrdinary.matches {Valid : σ → Prop} {consumer : Consumer σ α}
    (hordinary : consumer.IsOrdinary Valid) (pairing : Pairing) :
    consumer.Matches pairing Valid consumer where
  state _ _ _ := rfl
  pause _ _ _ := rfl
  stop _ _ _ := rfl
  valid := hordinary.valid
  log hstate now value _ _ hlog := pairing.write hlog (hordinary.log hstate now value)

variable {pairing : Pairing} {Valid : σ → Prop} {consumer other : Consumer σ α}

inductive Session.Matches (pairing : Pairing) (Valid : σ → Prop) (session : Session σ α) :
    Session σ α → Prop where
  | intro (log : List Log.Record) (hlog : pairing.Holds session.log log)
      (hstate : Valid session.state) : session.Matches pairing Valid { session with log }

def Session.mute (session : Session σ α) : Session σ α :=
  { session with log := [] }

namespace Session.Matches

variable {session session' : Session σ α}

theorem mute (hmatches : session.Matches pairing Valid session') :
    session'.mute = session.mute := by
  obtain ⟨log, hlog, hstate⟩ := hmatches
  rfl

theorem log (hmatches : session.Matches pairing Valid session') :
    pairing.Holds session.log session'.log := by
  obtain ⟨log, hlog, hstate⟩ := hmatches
  exact hlog

theorem now (hmatches : session.Matches pairing Valid session') : session'.now = session.now := by
  obtain ⟨log, hlog, hstate⟩ := hmatches
  rfl

theorem wait (hmatches : session.Matches pairing Valid session') (time : Time) :
    (session.wait time).Matches pairing Valid (session'.wait time) := by
  obtain ⟨log, hlog, hstate⟩ := hmatches
  exact ⟨log, hlog, hstate⟩

theorem write (hmatches : session.Matches pairing Valid session') {records : List Log.Record}
    (hrecords : AreOrdinary records) :
    (session.write records).Matches pairing Valid (session'.write records) := by
  obtain ⟨log, hlog, hstate⟩ := hmatches
  exact ⟨log ++ records, pairing.write hlog hrecords, hstate⟩

theorem state (hmatches : session.Matches pairing Valid session') :
    session'.state = session.state := by
  obtain ⟨log, hlog, hstate⟩ := hmatches
  rfl

theorem valid (hmatches : session.Matches pairing Valid session') : Valid session.state := by
  obtain ⟨log, hlog, hstate⟩ := hmatches
  exact hstate

theorem left (hmatches : session.Matches pairing Valid session') :
    session'.left = session.left := by
  obtain ⟨log, hlog, hstate⟩ := hmatches
  rfl

theorem isStopped (hmatches : session.Matches pairing Valid session') :
    session'.isStopped = session.isStopped := by
  obtain ⟨log, hlog, hstate⟩ := hmatches
  rfl

theorem offer (hconsumer : consumer.Matches pairing Valid other)
    (hmatches : session.Matches pairing Valid session') (value : α) :
    (session.offer consumer value).Matches pairing Valid (session'.offer other value) := by
  obtain ⟨log, hlog, hstate⟩ := hmatches
  -- What the consumers hand on is all in which the two sessions differ behind the item.
  have hoffer : { session with log }.offer other value =
      { session.offer consumer value with
        log := log ++ (other session.state session.now value).2.log } := by
    simp only [Session.offer, hconsumer.state, hconsumer.pause, hconsumer.stop]
    rfl
  rw [hoffer]
  exact ⟨_, hconsumer.log hstate session.now value hlog, hconsumer.valid hstate session.now value⟩

theorem offerAll (hconsumer : consumer.Matches pairing Valid other) (values : List α)
    {session session' : Session σ α}
    (hmatches : session.Matches pairing Valid session') :
    (session.offerAll consumer values).Matches pairing Valid (session'.offerAll other values) := by
  induction values generalizing session session' with
  | nil => exact hmatches
  | cons value rest ih =>
      have hoffer := hmatches.offer hconsumer value
      simp only [Session.offerAll, hoffer.left]
      split
      · exact hoffer
      · exact ih hoffer

end Session.Matches

end Consumers

namespace Client.Stream

variable {σ ρ α : Type} {pairing : Pairing} {Valid : σ → Prop} {consumer other : Consumer σ α}

inductive Progress.Matches (pairing : Pairing) (Valid : σ → Prop) (progress : Progress σ ρ α) :
    Progress σ ρ α → Prop where
  | intro (session : Session σ α) (hsession : progress.session.Matches pairing Valid session) :
      progress.Matches pairing Valid { progress with session }

inductive Run.Matches (pairing : Pairing) (Valid : σ → Prop) (run : Run σ ρ α) :
    Run σ ρ α → Prop where
  | intro (progress : Progress σ ρ α) (hprogress : run.progress.Matches pairing Valid progress) :
      run.Matches pairing Valid { run with progress }

def Run.mute (run : Run σ ρ α) : Run σ ρ α :=
  { run with progress := { run.progress with session := run.progress.session.mute } }

theorem Run.Matches.mute {run run' : Run σ ρ α} (hmatches : run.Matches pairing Valid run') :
    run'.mute = run.mute := by
  obtain ⟨progress, ⟨session, hsession⟩⟩ := hmatches
  simp only [Run.mute, hsession.mute]

theorem Run.Matches.log {run run' : Run σ ρ α} (hmatches : run.Matches pairing Valid run') :
    pairing.Holds run.progress.session.log run'.progress.session.log := by
  obtain ⟨progress, ⟨session, hsession⟩⟩ := hmatches
  exact hsession.log

namespace Progress.Matches

variable {progress progress' : Progress σ ρ α}

theorem now (hmatches : progress.Matches pairing Valid progress') :
    progress'.session.now = progress.session.now := by
  obtain ⟨session, ⟨log, hlog, hstate⟩⟩ := hmatches
  rfl

theorem stop (hmatches : progress.Matches pairing Valid progress') :
    progress'.session.stop = progress.session.stop := by
  obtain ⟨session, ⟨log, hlog, hstate⟩⟩ := hmatches
  rfl

theorem isStopped (hmatches : progress.Matches pairing Valid progress') :
    progress'.session.isStopped = progress.session.isStopped := by
  obtain ⟨session, hsession⟩ := hmatches
  exact hsession.isStopped

theorem wait (hmatches : progress.Matches pairing Valid progress') (time : Time) :
    (progress.wait time).Matches pairing Valid (progress'.wait time) := by
  obtain ⟨session, hsession⟩ := hmatches
  exact ⟨_, hsession.wait time⟩

theorem write (hmatches : progress.Matches pairing Valid progress') {records : List Log.Record}
    (hrecords : AreOrdinary records) :
    (progress.write records).Matches pairing Valid (progress'.write records) := by
  obtain ⟨session, hsession⟩ := hmatches
  exact ⟨_, hsession.write hrecords⟩

theorem receive (hmatches : progress.Matches pairing Valid progress') (time : Time)
    (bytes : Bytes) :
    (progress.receive time bytes).1.Matches pairing Valid (progress'.receive time bytes).1 ∧
      (progress'.receive time bytes).2 = (progress.receive time bytes).2 := by
  obtain ⟨session, hsession⟩ := hmatches
  exact ⟨⟨_, hsession.wait time⟩, rfl⟩

theorem hand (hconsumer : consumer.Matches pairing Valid other) (reading : Reading ρ α)
    (lines : List Text) {progress progress' : Progress σ ρ α}
    (hmatches : progress.Matches pairing Valid progress') :
    (progress.hand reading consumer lines).1.Matches pairing Valid
        (progress'.hand reading other lines).1 ∧
      (progress'.hand reading other lines).2 = (progress.hand reading consumer lines).2 := by
  induction lines generalizing progress progress' with
  | nil => exact ⟨hmatches, rfl⟩
  | cons line rest ih =>
      obtain ⟨session, hsession⟩ := hmatches
      simp only [Progress.hand]
      cases reading progress.memory line with
      | error failure => exact ⟨⟨_, hsession⟩, rfl⟩
      | ok read =>
          obtain ⟨memory, value?⟩ := read
          cases value? with
          | none =>
              refine ih ?_
              exact ⟨_, hsession⟩
          | some value =>
              have hoffer := hsession.offer hconsumer value
              simp only [hoffer.left]
              split
              · exact ⟨⟨_, hoffer⟩, rfl⟩
              · refine ih ?_
                exact ⟨_, hoffer⟩

theorem read (hmatches : progress.Matches pairing Valid progress') (deadline : Option Deadline)
    (feed : Feed) (next : Option Arrival) :
    (progress.read deadline feed next).1.Matches pairing Valid
        (progress'.read deadline feed next).1 ∧
      (progress'.read deadline feed next).2 = (progress.read deadline feed next).2 := by
  simp only [Progress.read, hmatches.isStopped]
  obtain ⟨session, ⟨log, hlog, hstate⟩⟩ := hmatches
  split
  · exact ⟨⟨_, log, hlog, hstate⟩, rfl⟩
  · exact ⟨⟨_, log, hlog, hstate⟩, rfl⟩

theorem settle (hmatches : progress.Matches pairing Valid progress')
    (outcome : Outcome (Option Bytes)) :
    (progress.settle outcome).1.Matches pairing Valid (progress'.settle outcome).1 ∧
      (progress'.settle outcome).2 = (progress.settle outcome).2 := by
  cases outcome with
  | none => exact ⟨hmatches, rfl⟩
  | some event =>
      obtain ⟨time, ended⟩ := event
      cases ended <;> exact ⟨hmatches.wait time, rfl⟩

theorem follow (hconsumer : consumer.Matches pairing Valid other) (reading : Reading ρ α)
    (deadline : Option Deadline) (feed : Feed) (chunks : List Arrival)
    {progress progress' : Progress σ ρ α} (hmatches : progress.Matches pairing Valid progress') :
    (progress.follow reading consumer deadline feed chunks).1.Matches pairing Valid
        (progress'.follow reading other deadline feed chunks).1 ∧
      (progress'.follow reading other deadline feed chunks).2 =
        (progress.follow reading consumer deadline feed chunks).2 := by
  induction chunks generalizing progress progress' with
  | nil =>
      obtain ⟨hread, houtcome⟩ := hmatches.read deadline feed none
      simp only [Progress.follow, houtcome]
      exact hread.settle _
  | cons chunk rest ih =>
      obtain ⟨hread, houtcome⟩ := hmatches.read deadline feed (some chunk)
      obtain ⟨progress, progress', outcome, hhere, hthere, hread⟩ := exists_pair hread houtcome
      simp only [Progress.follow, hhere, hthere]
      match outcome with
      | some (time, .value (some bytes)) =>
          obtain ⟨hreceive, hlines⟩ := hread.receive time bytes
          obtain ⟨hhand, hverdict⟩ :=
            hreceive.hand hconsumer reading (progress.receive time bytes).2
          obtain ⟨progress, progress', verdict, hhere, hthere, hhand⟩ := exists_pair hhand hverdict
          simp only [hlines, hhere, hthere]
          cases verdict with
          | some verdict => exact ⟨hhand, rfl⟩
          | none => exact ih hhand
      | none => exact hread.settle none
      | some (time, .value none) => exact hread.settle (some (time, .value none))
      | some (time, .failed failure) => exact hread.settle (some (time, .failed failure))
      | some (time, .stopped) => exact hread.settle (some (time, .stopped))

end Progress.Matches

section Runs

variable {progress progress' : Progress σ ρ α}

theorem areOrdinary_of_client {records : List Log.Record}
    (hcategory : ∀ record ∈ records, record.category = Client.category) : AreOrdinary records :=
  fun record hmem => by rw [hcategory record hmem]; rfl

theorem areOrdinary_announcement (now : Time) (request : Request) :
    AreOrdinary [announcement now request] :=
  areOrdinary_of_client (by simp [announcement])

theorem areOrdinary_endRecords (now : Time) (url : Text) (verdict : Verdict) :
    AreOrdinary (endRecords now url verdict) :=
  areOrdinary_of_client (by cases verdict <;> simp [endRecords, record])

theorem areOrdinary_release (now : Time) (url : Text) (buffer : LineBuffer) (body : Option Feed) :
    AreOrdinary (body.elim [] fun feed =>
      tailRecords now url buffer ++ failureRecords now url feed) := by
  refine areOrdinary_of_client fun written hmem => ?_
  cases body with
  | none => simp at hmem
  | some feed =>
      simp only [Option.elim_some, List.mem_append, tailRecords, failureRecords] at hmem
      rcases hmem with hmem | hmem <;> split at hmem <;> simp_all [record]

theorem Run.Matches.release {run run' : Run σ ρ α} (hmatches : run.Matches pairing Valid run')
    (url : Text) : (run.release url).Matches pairing Valid (run'.release url) := by
  obtain ⟨progress, ⟨session, ⟨log, hlog, hstate⟩⟩⟩ := hmatches
  obtain ⟨exchange, timer, progress, verdict⟩ := run
  have hwritten (now : Time) (buffer : LineBuffer) :=
    areOrdinary_release now url buffer (exchange.bind Exchange.body)
  cases verdict with
  | pending => exact ⟨_, _, log, hlog, hstate⟩
  | _ => exact ⟨_, _, _, pairing.write hlog (hwritten _ _), hstate⟩

theorem matches_conclude (hmatches : progress.Matches pairing Valid progress') (url : Text)
    (deadline : Option Deadline) (feed : Feed) (exchange : Exchange) (verdict : Verdict) :
    (conclude url deadline feed exchange progress verdict).Matches pairing Valid
      (conclude url deadline feed exchange progress' verdict) := by
  obtain ⟨session, ⟨log, hlog, hstate⟩⟩ := hmatches
  exact ⟨_, _, _, pairing.write hlog (areOrdinary_endRecords _ url verdict), hstate⟩

theorem matches_attempt (hconsumer : consumer.Matches pairing Valid other) (client : Client)
    (reading : Reading ρ α) (url : Text) (headers : List (Text × Text)) (deadline : Option Deadline)
    (reply : Reply) (hmatches : progress.Matches pairing Valid progress') :
    (attempt client reading consumer url headers deadline reply progress).Matches pairing Valid
      (attempt client reading other url headers deadline reply progress') := by
  simp only [attempt, hmatches.now, hmatches.isStopped]
  split
  · exact ⟨_, hmatches⟩
  · split
    · exact ⟨_, hmatches⟩
    · rename_i request _
      have hsent := hmatches.write (areOrdinary_announcement progress.session.now request)
      rw [hsent.stop]
      split
      · exact ⟨_, hsent⟩
      · exact ⟨_, hsent.wait _⟩
      · exact ⟨_, (hsent.wait _).write (areOrdinary_of_client (by simp [record]))⟩
      · rename_i time response _
        cases response.body with
        | none => exact ⟨_, hsent.wait time⟩
        | some feed =>
            obtain ⟨hfollow, hverdict⟩ :=
              (hsent.wait time).follow hconsumer reading deadline feed feed.chunks
            dsimp only
            rw [hverdict]
            exact matches_conclude hfollow ..

/-- A stream answers the same whatever its log is. -/
theorem matches_run (hconsumer : consumer.Matches pairing Valid other) (client : Client)
    (reading : Reading ρ α) (url : Text) (headers : List (Text × Text)) (timeoutMs : Option Number)
    (reply : Reply) (hmatches : progress.Matches pairing Valid progress') :
    (run client reading consumer url headers timeoutMs reply progress).Matches pairing Valid
      (run client reading other url headers timeoutMs reply progress') := by
  simp only [run, hmatches.now]
  exact (matches_attempt hconsumer client reading url headers _ reply hmatches).release url

end Runs

end Client.Stream

namespace Client.Call

/-- A call writes at most the record of its request. -/
theorem areOrdinary_run {α : Type} (client : Client) (now : Time) (method : Method) (url : Text)
    (options : RequestOptions) (timeoutMs : Option Number) (reply : Reply)
    (next : Bounds → Time → Response → Outcome α) :
    AreOrdinary (run client now method url options timeoutMs reply next).log := by
  unfold run
  dsimp only
  split
  · exact Log.areOrdinary_nil
  · exact Stream.areOrdinary_announcement now _

theorem areOrdinary_json (client : Client) (now : Time) (method : Method) (url : Text)
    (options : RequestOptions) (timeoutMs : Option Number) (reply : Reply) :
    AreOrdinary (json client now method url options timeoutMs reply).log :=
  areOrdinary_run client now method url options timeoutMs reply fun bounds time response =>
    bounds.waitFor time (response.text? time)

theorem areOrdinary_list (client : Client) (now : Time) (url : Text)
    (headers : List (Text × Text)) (timeoutMs : Option Number) (reply : Reply) :
    AreOrdinary (list client now url headers timeoutMs reply).log :=
  areOrdinary_json client now .get url { headers } timeoutMs reply

end Client.Call

namespace Watch

open Client

variable {σ : Type} {pairing : Pairing} {Valid : σ → Prop} {consumer other : Consumer σ Event}

inductive Leg.Matches (pairing : Pairing) (Valid : σ → Prop) (leg : Leg σ) : Leg σ → Prop where
  | intro (session : Session σ Event) (hsession : leg.session.Matches pairing Valid session) :
      leg.Matches pairing Valid { leg with session }

def Leg.mute (leg : Leg σ) : Leg σ :=
  { leg with session := leg.session.mute }

namespace Leg.Matches

variable {leg leg' : Leg σ}

theorem session (hmatches : leg.Matches pairing Valid leg') :
    leg.session.Matches pairing Valid leg'.session := by
  obtain ⟨session, hsession⟩ := hmatches
  exact hsession

theorem verdict (hmatches : leg.Matches pairing Valid leg') : leg'.verdict = leg.verdict := by
  obtain ⟨session, hsession⟩ := hmatches
  rfl

theorem next (hmatches : leg.Matches pairing Valid leg') : leg'.next = leg.next := by
  obtain ⟨session, hsession⟩ := hmatches
  rfl

theorem mute (hmatches : leg.Matches pairing Valid leg') : leg'.mute = leg.mute := by
  obtain ⟨session, hsession⟩ := hmatches
  simp only [Leg.mute, hsession.mute]

end Leg.Matches

theorem Leg.map_mute_of_matches {legs legs' : List (Leg σ)}
    (hmatches : List.Forall₂ (Leg.Matches pairing Valid) legs legs') :
    legs'.map Leg.mute = legs.map Leg.mute := by
  induction hmatches with
  | nil => rfl
  | cons hleg _ ih => rw [List.map_cons, List.map_cons, hleg.mute, ih]

structure Run.Matches (pairing : Pairing) (Valid : σ → Prop) (first second : Run σ) : Prop where
  legs : List.Forall₂ (Leg.Matches pairing Valid) first.legs second.legs
  session : first.session.Matches pairing Valid second.session
  verdict : second.verdict = first.verdict

def Run.mute (run : Run σ) : Run σ where
  legs := run.legs.map Leg.mute
  session := run.session.mute
  verdict := run.verdict

theorem Run.Matches.mute {run run' : Run σ} (hmatches : run.Matches pairing Valid run') :
    run'.mute = run.mute := by
  unfold Run.mute
  rw [Leg.map_mute_of_matches hmatches.legs, hmatches.session.mute, hmatches.verdict]

variable {session session' : Session σ Event}

theorem matches_list (hconsumer : consumer.Matches pairing Valid other) (client : Client)
    (url : Text) (reply : Reply) (hmatches : session.Matches pairing Valid session') :
    (list client url consumer reply session).Matches pairing Valid
      (list client url other reply session') := by
  have hwritten := hmatches.write (Call.areOrdinary_list client session.now url [] none reply)
  simp only [list, hmatches.now]
  cases (Call.list client session.now url [] none reply).outcome with
  | none => exact ⟨_, hwritten⟩
  | some event =>
      obtain ⟨time, ended⟩ := event
      cases ended with
      | failed failure => exact ⟨_, hwritten.wait time⟩
      | stopped => exact ⟨_, hwritten.wait time⟩
      | value listing =>
          have hoffered := (hwritten.wait time).offerAll hconsumer (listing.items.map .listed)
          simp only [hoffered.left]
          split
          · exact ⟨_, hoffered⟩
          · exact ⟨_, hoffered⟩

theorem areOrdinary_goneRecord (now : Time) (url : Text) (version : Option Text) :
    AreOrdinary [goneRecord now url version] := by
  rw [Log.areOrdinary_singleton]
  rfl

theorem matches_watch (hconsumer : consumer.Matches pairing Valid other) (client : Client)
    (url : Text) (version : Option Text) (reply : Reply)
    (hmatches : session.Matches pairing Valid session') :
    (watch client url consumer version reply session).Matches pairing Valid
      (watch client url other version reply session') := by
  have hstart : Stream.Progress.Matches pairing Valid { session, memory := version }
      { session := session', memory := version } := ⟨session', hmatches⟩
  have hstream := Stream.matches_run hconsumer client changes
    (address client.watchTimeoutSeconds url version) [] none reply hstart
  simp only [watch]
  generalize Stream.run client changes consumer _ _ _ _ _ = stream at hstream ⊢
  generalize Stream.run client changes other _ _ _ _ _ = stream' at hstream ⊢
  obtain ⟨progress, ⟨session, hsession⟩⟩ := hstream
  cases stream.verdict with
  | closed => exact ⟨_, hsession⟩
  | stopped => exact ⟨_, hsession⟩
  | left => exact ⟨_, hsession⟩
  | pending => exact ⟨_, hsession⟩
  | failed failure =>
      dsimp only
      rw [hsession.now]
      have hgone := hsession.write (areOrdinary_goneRecord stream.progress.session.now url
        stream.progress.memory)
      split
      · exact ⟨_, hgone⟩
      · exact ⟨_, hsession⟩

theorem matches_run {consumer other : Consumer σ WatchEvent}
    {session session' : Session σ WatchEvent} (hconsumer : consumer.Matches pairing Valid other)
    (client : Client) (url : Text)
    (version : Option Text) (timeoutMs : Option Number) (reply : Reply)
    (hmatches : session.Matches pairing Valid session') :
    (run client consumer url version timeoutMs reply session).Matches pairing Valid
      (run client other url version timeoutMs reply session') :=
  Stream.matches_run hconsumer client events _ [] timeoutMs reply ⟨session', hmatches⟩

theorem matches_leg (hconsumer : consumer.Matches pairing Valid other) (client : Client)
    (url : Text) (phase : Phase) (reply : Reply)
    (hmatches : session.Matches pairing Valid session') :
    (leg client url consumer phase reply session).Matches pairing Valid
      (leg client url other phase reply session') := by
  cases phase with
  | listing => exact matches_list hconsumer client url reply hmatches
  | watching version => exact matches_watch hconsumer client url version reply hmatches

theorem matches_continueWith (hconsumer : consumer.Matches pairing Valid other) (client : Client)
    (url : Text) (replies : List Reply) (phase : Phase)
    (hmatches : session.Matches pairing Valid session') :
    (continueWith client url consumer phase session replies).Matches pairing Valid
      (continueWith client url other phase session' replies) := by
  induction replies generalizing phase session session' with
  | nil =>
      simp only [continueWith, hmatches.isStopped]
      split
      · exact ⟨.nil, hmatches, rfl⟩
      · have hleg := matches_leg hconsumer client url phase .unscripted hmatches
        exact ⟨.cons hleg .nil, hleg.session, hleg.verdict⟩
  | cons reply rest ih =>
      simp only [continueWith, hmatches.isStopped]
      split
      · exact ⟨.nil, hmatches, rfl⟩
      · have hleg := matches_leg hconsumer client url phase reply hmatches
        rw [hleg.next]
        cases (leg client url consumer phase reply session).next with
        | none => exact ⟨.cons hleg .nil, hleg.session, hleg.verdict⟩
        | some phase =>
            -- Both runs go on with the same request, from sessions that match again.
            have hrest := ih phase hleg.session
            exact ⟨.cons hleg hrest.legs, hrest.session, hrest.verdict⟩

/-- A run that follows a collection answers the same whatever its log is. -/
theorem matches_follow (hconsumer : consumer.Matches pairing Valid other) (client : Client)
    (url : Text) (replies : List Reply) (hmatches : session.Matches pairing Valid session') :
    (follow client url consumer replies session).Matches pairing Valid
      (follow client url other replies session') :=
  matches_continueWith hconsumer client url replies .listing hmatches

end Watch

end ResourceWatch
