import ResourceWatch.Proofs.Log.Handling

/-!
# What logging leaves alone

The operations of the program, with what each of them comes to and what it writes. Where the lines
go, which of them are written, and what was written before has no part in what an operation comes to;
the level decides which of the lines are written, and nothing else does.
-/

namespace ResourceWatch

open Log (Pairing AreOrdinary IsOrdinary)

/-! ### Throttled calls, one action after another -/

namespace Attempts

/-- What is done with a throttler. -/
inductive Action where
  /-- A call that is waited for. -/
  | call (setting : Throttling.Setting) (stop : Option Time) (behaviour : Behaviour)
  /-- A call that is not waited for. -/
  | spawn (setting : Throttling.Setting) (stop : Option Time) (behaviour : Behaviour)
  | join (number : Nat)
  | set (throttler : Throttler)
  | wait (duration : Nat)

/-- The category of the records of an action, if it writes any of its own. -/
def Action.category? : Action → Option (List Text)
  | .call setting _ _ | .spawn setting _ _ => some setting.category
  | _ => none

def act (state : Attempts) : Action → Attempts
  | .call setting stop behaviour =>
    (state.start setting stop behaviour).waitFor state.attempts.length
  | .spawn setting stop behaviour => (state.start setting stop behaviour).wait state.now
  | .join number => state.waitFor number
  | .set throttler => { state with throttler }
  | .wait duration => state.wait (state.now + duration)

/-- The states behind each of the actions, and the last one. -/
def actAll (state : Attempts) : List Action → List Attempts × Attempts
  | [] => ([], state)
  | action :: rest =>
    let next := state.act action
    let (states, last) := next.actAll rest
    (next :: states, last)

variable {pairing : Pairing} {state state' : Attempts}

theorem Matches.act (hmatches : state.Matches pairing state') {action : Action}
    (htakes : ∀ category ∈ action.category?, pairing.Takes category) :
    (state.act action).Matches pairing (state'.act action) := by
  have hnow : state'.now = state.now := by
    obtain ⟨log, hlog, hsettings⟩ := hmatches
    rfl
  have hlength : state'.attempts.length = state.attempts.length := by
    obtain ⟨log, hlog, hsettings⟩ := hmatches
    rfl
  cases action with
  | call setting stop behaviour =>
      simp only [Attempts.act, hlength]
      exact (hmatches.start (htakes _ rfl) stop behaviour).waitFor _
  | spawn setting stop behaviour =>
      simp only [Attempts.act, hnow]
      exact (hmatches.start (htakes _ rfl) stop behaviour).wait _
  | join number => exact hmatches.waitFor number
  | set throttler =>
      obtain ⟨log, hlog, hsettings⟩ := hmatches
      exact ⟨log, hlog, hsettings⟩
  | wait duration =>
      simp only [Attempts.act, hnow]
      exact hmatches.wait _

theorem Matches.actAll (actions : List Action) {state state' : Attempts}
    (hmatches : state.Matches pairing state')
    (htakes : ∀ action ∈ actions, ∀ category ∈ action.category?, pairing.Takes category) :
    (state'.actAll actions).1.map Attempts.mute = (state.actAll actions).1.map Attempts.mute ∧
      (state.actAll actions).2.Matches pairing (state'.actAll actions).2 := by
  induction actions generalizing state state' with
  | nil => exact ⟨rfl, hmatches⟩
  | cons action rest ih =>
      rw [List.forall_mem_cons] at htakes
      have hnext := hmatches.act htakes.1
      obtain ⟨hstates, hlast⟩ := ih hnext htakes.2
      refine ⟨?_, hlast⟩
      simp only [Attempts.actAll, List.map_cons, hnext.mute, hstates]

end Attempts

/-! ### Operations -/

def Client.Call.mute {α : Type} (call : Client.Call α) : Client.Call α :=
  { call with log := [] }

/-- An operation, with all that it depends on. -/
inductive Operation (σ : Type) where
  | request (client : Client) (now : Time) (method : Method) (url : Text)
    (options : RequestOptions) (timeoutMs : Option Number) (reply : Reply)
  | json (client : Client) (now : Time) (method : Method) (url : Text) (options : RequestOptions)
    (timeoutMs : Option Number) (reply : Reply)
  | list (client : Client) (now : Time) (url : Text) (headers : List (Text × Text))
    (timeoutMs : Option Number) (reply : Reply)
  | stream (client : Client) (consumer : Consumer σ Json) (url : Text)
    (headers : List (Text × Text)) (timeoutMs : Option Number) (reply : Reply)
    (session : Session σ Json)
  | watch (client : Client) (consumer : Consumer σ WatchEvent) (url : Text)
    (version : Option Text) (timeoutMs : Option Number) (reply : Reply)
    (session : Session σ WatchEvent)
  | follow (client : Client) (url : Text) (consumer : Consumer σ Event) (replies : List Reply)
    (session : Session σ Event)
  | throttle (state : Attempts) (actions : List Attempts.Action)
  | process (setting : Processing.Setting) (state : Processing.State)
    (deliveries : List Processing.Delivery)
  | processSingly (setting : Processing.Setting) (state : Processing.State)
    (deliveries : List Processing.Delivery)
  | react (config : Config) (url : Text) (handler : Handler) (template : Option Template)
    (cells : Cells) (now : Time) (stop : Option Time) (replies : List Reply)

/-- What an operation comes to. -/
inductive Result (σ : Type) where
  | response (call : Client.Call Response)
  | value (call : Client.Call Json)
  | objects (call : Client.Call ObjectList)
  | records (run : Client.Stream.Run σ Unit Json)
  | events (run : Client.Stream.Run σ Unit WatchEvent)
  | changes (run : Watch.Run σ)
  | attempts (states : List Attempts) (last : Attempts)
  | handled (run : Processing.Run) (times : List Time)
  | reacted (run : Reactor.Run)

namespace Result

variable {σ : Type}

def mute : Result σ → Result σ
  | .response call => .response call.mute
  | .value call => .value call.mute
  | .objects call => .objects call.mute
  | .records run => .records run.mute
  | .events run => .events run.mute
  | .changes run => .changes run.mute
  | .attempts states last => .attempts (states.map Attempts.mute) last.mute
  | .handled run times => .handled run.mute times
  | .reacted run => .reacted run.mute

end Result

namespace Operation

variable {σ : Type}

/-- How a reactor handles events. -/
def setting (config : Config) (handler : Handler) (template : Option Template) (cells : Cells) :
    Processing.Setting :=
  { handler, template, cells, delays := config.reactor.errorDelaysMs }

/-- What an operation comes to, and the records that it writes behind those that are kept. -/
def run (kept : List Log.Record) : Operation σ → Result σ × List Log.Record
  | .request client now method url options timeoutMs reply =>
    let call := Client.Call.request client now method url options timeoutMs reply
    (.response call, kept ++ call.log)
  | .json client now method url options timeoutMs reply =>
    let call := Client.Call.json client now method url options timeoutMs reply
    (.value call, kept ++ call.log)
  | .list client now url headers timeoutMs reply =>
    let call := Client.Call.list client now url headers timeoutMs reply
    (.objects call, kept ++ call.log)
  | .stream client consumer url headers timeoutMs reply session =>
    let run := Client.Stream.run client Client.Stream.records consumer url headers timeoutMs reply
      { session := { session with log := kept }, memory := () }
    (.records run, run.progress.session.log)
  | .watch client consumer url version timeoutMs reply session =>
    let run := Watch.run client consumer url version timeoutMs reply { session with log := kept }
    (.events run, run.progress.session.log)
  | .follow client url consumer replies session =>
    let run := Watch.follow client url consumer replies { session with log := kept }
    (.changes run, run.session.log)
  | .throttle state actions =>
    let (states, last) := Attempts.actAll { state with log := kept } actions
    (.attempts states last, last.log)
  | .process setting state deliveries =>
    let run := Processing.run setting { state with log := kept } deliveries
    (.handled run [], run.state.log)
  | .processSingly setting state deliveries =>
    let (run, times) := Processing.runSingly setting { state with log := kept } 0 deliveries
    (.handled run times, run.state.log)
  | .react config url handler template cells now stop replies =>
    let run := Reactor.run (Client.ofConfig config.client) url
      (setting config handler template cells) now stop replies
    (.reacted run, kept ++ run.log)

/-- The same operation with another consumer in the place of the one that it has. -/
def handing (hand : (α : Type) → Consumer σ α → Consumer σ α) : Operation σ → Operation σ
  | .stream client consumer url headers timeoutMs reply session =>
    .stream client (hand _ consumer) url headers timeoutMs reply session
  | .watch client consumer url version timeoutMs reply session =>
    .watch client (hand _ consumer) url version timeoutMs reply session
  | .follow client url consumer replies session =>
    .follow client url (hand _ consumer) replies session
  | operation => operation

/-- What the callers of an operation write themselves keeps a relation between two logs. -/
def Keeps (pairing : Pairing) (hand : (α : Type) → Consumer σ α → Consumer σ α) :
    Operation σ → Prop
  | .stream _ consumer .. => consumer.Matches pairing (fun _ => True) (hand _ consumer)
  | .watch _ consumer .. => consumer.Matches pairing (fun _ => True) (hand _ consumer)
  | .follow _ _ consumer .. => consumer.Matches pairing (fun _ => True) (hand _ consumer)
  | .throttle state actions =>
    (∀ attempt ∈ state.attempts, pairing.Takes attempt.setting.category) ∧
      ∀ action ∈ actions, ∀ category ∈ action.category?, pairing.Takes category
  | _ => True

/-- Two runs of an operation come to the same and write the same, each behind what is kept there. -/
theorem matches_run {pairing : Pairing} {hand : (α : Type) → Consumer σ α → Consumer σ α}
    {operation : Operation σ} (hkeeps : operation.Keeps pairing hand)
    {kept kept' : List Log.Record} (hkept : pairing.Holds kept kept') :
    ((operation.handing hand).run kept').1.mute = (operation.run kept).1.mute ∧
      pairing.Holds (operation.run kept).2 ((operation.handing hand).run kept').2 := by
  have hstart {α : Type} (session : Session σ α) : Session.Matches pairing (fun _ => True)
      { session with log := kept } { session with log := kept' } := ⟨kept', hkept, trivial⟩
  have hstate (state : Processing.State) : Processing.State.Matches pairing
      { state with log := kept } { state with log := kept' } := ⟨kept', hkept⟩
  -- Calls and reactors begin with no log; what they write is put behind the one that is kept.
  cases operation with
  | request client now method url options timeoutMs reply =>
      exact ⟨rfl, pairing.write hkept (Client.Call.areOrdinary_run client now method url options
        timeoutMs reply _)⟩
  | json client now method url options timeoutMs reply =>
      exact ⟨rfl, pairing.write hkept (Client.Call.areOrdinary_json client now method url options
        timeoutMs reply)⟩
  | list client now url headers timeoutMs reply =>
      exact ⟨rfl, pairing.write hkept (Client.Call.areOrdinary_list client now url headers timeoutMs
        reply)⟩
  | stream client consumer url headers timeoutMs reply session =>
      have hprogress : Client.Stream.Progress.Matches pairing (fun _ => True)
          { session := { session with log := kept }, memory := () }
          { session := { session with log := kept' }, memory := () } := ⟨_, hstart session⟩
      have hrun := Client.Stream.matches_run hkeeps client Client.Stream.records url headers
        timeoutMs reply hprogress
      exact ⟨congrArg Result.records hrun.mute, hrun.log⟩
  | watch client consumer url version timeoutMs reply session =>
      have hrun := Watch.matches_run hkeeps client url version timeoutMs reply (hstart session)
      exact ⟨congrArg Result.events hrun.mute, hrun.log⟩
  | follow client url consumer replies session =>
      have hrun := Watch.matches_follow hkeeps client url replies (hstart session)
      exact ⟨congrArg Result.changes hrun.mute, hrun.session.log⟩
  | throttle state actions =>
      have hattempts : Attempts.Matches pairing { state with log := kept }
          { state with log := kept' } := ⟨kept', hkept, hkeeps.1⟩
      obtain ⟨hstates, hlast⟩ := hattempts.actAll actions hkeeps.2
      exact ⟨congrArg₂ Result.attempts hstates hlast.mute, hlast.log⟩
  | process setting state deliveries =>
      have hrun := Processing.matches_run setting deliveries (hstate state)
      exact ⟨congrArg (Result.handled · []) hrun.mute, hrun.log⟩
  | processSingly setting state deliveries =>
      obtain ⟨hrun, htimes⟩ := Processing.matches_runSingly setting deliveries 0 (hstate state)
      exact ⟨congrArg₂ Result.handled hrun.mute htimes, hrun.log⟩
  | react config url handler template cells now stop replies =>
      exact ⟨rfl, pairing.write hkept (Reactor.areOrdinary_run (Client.ofConfig config.client) url
        (setting config handler template cells) now stop replies)⟩

/-- What an operation comes to where no log is kept, neither of what was before nor of what its
consumer does; the consumer of a reactor's watch is its own. -/
def answer : Operation σ → Result σ
  | .react config url handler template cells now stop replies =>
    (Result.reacted (Reactor.runWith
      (Reactor.consumer (setting config handler template cells)).silent []
      (Client.ofConfig config.client) url (setting config handler template cells) now stop
      replies)).mute
  | operation => ((operation.handing fun _ => Consumer.silent).run []).1.mute

theorem answer_eq (operation : Operation σ) (kept : List Log.Record) :
    operation.answer = (operation.run kept).1.mute := by
  have hkeeps : operation.Keeps .any fun _ => Consumer.silent := by
    cases operation with
    | stream client consumer => exact consumer.matches_silent
    | watch client consumer => exact consumer.matches_silent
    | follow client url consumer => exact consumer.matches_silent
    | throttle => exact ⟨fun _ _ => trivial, fun _ _ _ _ => trivial⟩
    | _ => trivial
  have hkept : Pairing.any.Holds kept [] := trivial
  have hrun := (matches_run hkeeps hkept).1
  cases operation with
  | react config url handler template cells now stop replies =>
      exact congrArg Result.reacted (Reactor.mute_runWith_silent (Client.ofConfig config.client) url
        (setting config handler template cells) now stop replies [])
  | _ => exact hrun

/-- None of the callers' own records is under the category of what logging writes about itself. -/
def LogsOrdinarily : Operation σ → Prop
  | .stream _ consumer .. => consumer.IsOrdinary fun _ => True
  | .watch _ consumer .. => consumer.IsOrdinary fun _ => True
  | .follow _ _ consumer .. => consumer.IsOrdinary fun _ => True
  | .throttle state actions =>
    (∀ attempt ∈ state.attempts, IsOrdinary attempt.setting.category) ∧
      ∀ action ∈ actions, ∀ category ∈ action.category?, IsOrdinary category
  | _ => True

/-- What an operation writes does not depend on what was written before. -/
theorem records_run {operation : Operation σ} (hordinary : operation.LogsOrdinarily)
    (kept : List Log.Record) :
    AreOrdinary (operation.run []).2 ∧ (operation.run kept).2 = kept ++ (operation.run []).2 := by
  have hsame : operation.handing (fun _ consumer => consumer) = operation := by
    cases operation <;> rfl
  have hkeeps : operation.Keeps (.since [] kept) fun _ consumer => consumer := by
    cases operation with
    | stream => exact hordinary.matches _
    | watch => exact hordinary.matches _
    | follow => exact hordinary.matches _
    | throttle => exact hordinary
    | _ => trivial
  have hrun := (matches_run hkeeps (Pairing.holds_since [] kept)).2
  rw [hsame] at hrun
  obtain ⟨records, hrecords, hfirst, hsecond⟩ := hrun
  rw [hsecond, hfirst]
  exact ⟨hrecords, rfl⟩

/-! ### Operations under logging -/

/-- The set-up under which an operation runs: a reactor sets up logging at its beginning, unless
that was done before. -/
def setUp? (logging : Logging) : Operation σ → Option Logging
  | .react config .. => logging.configure? config.logging
  | _ => some logging

end Operation

/-- An operation that is over. -/
structure Performed (σ : Type) where
  /-- What it came to, if it did not fail to set up logging. -/
  result : Option (Result σ)
  lines : List Log.Line

namespace Operation

variable {σ : Type}

/-- Performs an operation under a set-up of logging, after these records. -/
def perform (logging : Logging) (kept : List Log.Record) (operation : Operation σ) : Performed σ :=
  match operation.setUp? logging with
  | none => { result := none, lines := [] }
  | some logging =>
    let (result, records) := operation.run kept
    { result := some result.mute, lines := logging.graded (records.drop kept.length) }

theorem setUp?_ofConfig (operation : Operation σ) (config : LoggingConfig) :
    operation.setUp? (.ofConfig config) = some (.ofConfig config) := by
  cases operation with
  | react own => exact Logging.configure?_ofConfig config own.logging
  | _ => rfl

theorem result_perform {operation : Operation σ} {logging next : Logging}
    (hsetUp : operation.setUp? logging = some next) (kept : List Log.Record) :
    (operation.perform logging kept).result = some operation.answer := by
  rw [perform, hsetUp, operation.answer_eq kept]

theorem lines_perform {operation : Operation σ} (hordinary : operation.LogsOrdinarily)
    (config : LoggingConfig) (kept : List Log.Record) :
    (operation.perform (.ofConfig config) kept).lines =
      Log.gradedLines config (operation.run []).2 := by
  simp only [perform, setUp?_ofConfig, (records_run hordinary kept).2, List.drop_left]
  rfl

theorem exists_setUp?_of_bare {bare : Logging} (hbare : bare.installed = none)
    (operation : Operation σ) : ∃ next, operation.setUp? bare = some next := by
  cases operation with
  | react config => exact Logging.exists_configure?_of_bare hbare config.logging
  | _ => exact ⟨bare, rfl⟩

/-- What logging has no part in, and what it decides. -/
structure IsUnaffected (operation : Operation σ) : Prop where
  /-- With nothing set up it comes to the same as with any level and environment. -/
  result : ∀ {bare : Logging}, bare.installed = none →
    ∀ (config : LoggingConfig) (kept kept' : List Log.Record),
      (operation.perform bare kept).result = (operation.perform (.ofConfig config) kept').result
  /-- That is what it comes to where no record is handed on and none is kept. -/
  answer : ∀ (config : LoggingConfig) (kept : List Log.Record),
    (operation.perform (.ofConfig config) kept).result = some operation.answer
  /-- The lines are those that logging writes for the records of the operation. -/
  written : ∀ {logging next : Logging}, operation.setUp? logging = some next →
    ∀ kept : List Log.Record,
      (operation.perform logging kept).lines.map Log.Line.text =
        next.write ((operation.run kept).2.drop kept.length)
  /-- The lines at a level are those lines of debugging that are grave enough, in their order. -/
  lines : operation.LogsOrdinarily →
    ∀ (level : LogLevel) (environment : Environment) (kept kept' : List Log.Record),
      (operation.perform (.ofConfig ⟨level, environment⟩) kept).lines =
        (operation.perform (.ofConfig ⟨.debug, environment⟩) kept').lines.filter fun line =>
          (Log.Severity.ofLevel level).rank ≤ line.severity.rank

/-- **Logging never changes what an operation does**, and a level only chooses among its lines. -/
theorem isUnaffected (operation : Operation σ) : operation.IsUnaffected where
  result hbare config kept kept' := by
    obtain ⟨next, hnext⟩ := operation.exists_setUp?_of_bare hbare
    rw [result_perform hnext, result_perform (operation.setUp?_ofConfig config)]
  answer config kept := result_perform (operation.setUp?_ofConfig config) kept
  written hsetUp kept := by
    rw [perform, hsetUp]
    exact Logging.map_text_graded _ _
  lines hordinary level environment kept kept' := by
    rw [lines_perform hordinary, lines_perform hordinary]
    exact Log.gradedLines_eq_filter (records_run hordinary []).1 level environment

/-- A throttled call that fails and is waited for. -/
def failing : Operation Unit :=
  .throttle { now := 1700000000000 }
    [.call ⟨[1000], Attempts.category⟩ none { failure := some (.error "Error" "boom") }]

theorem isUnaffected_failing :
    (failing.perform {} []).result = (failing.perform (.ofConfig ⟨.error, .production⟩) []).result ∧
      (failing.perform (.ofConfig ⟨.error, .production⟩) []).lines =
        (failing.perform (.ofConfig ⟨.debug, .production⟩) []).lines.filter (fun line =>
          (Log.Severity.ofLevel .error).rank ≤ line.severity.rank) ∧
      (failing.perform (.ofConfig ⟨.debug, .production⟩) []).lines.map Log.Line.severity =
        [.error, .info] := by
  have hordinary : failing.LogsOrdinarily := by
    refine ⟨by simp, fun action haction category hcategory => ?_⟩
    obtain rfl := List.mem_singleton.mp haction
    obtain rfl := Option.some.inj hcategory
    rfl
  have hunaffected := isUnaffected failing
  exact ⟨hunaffected.result rfl ⟨.error, .production⟩ [] [],
    hunaffected.lines hordinary .error .production [] [], by decide +kernel⟩

end Operation

end ResourceWatch
