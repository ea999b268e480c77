import ResourceWatch.Proofs.Watch.Legs

/-!
# The cycles of a run

The requests of a run form cycles: a listing, and watches that each begin where the one before has
come to. The legs of a run are read with the replies that they got and with the sessions in which
they began, and how a leg is over is told by these: by what the server did, by the consumer, and by
the stop signal.
-/

namespace ResourceWatch.Watch

open Client

variable {σ : Type} {client : Client} {url : Text} {consumer : Consumer σ Event}

/-- One leg of a run, the session in which it began, and the reply that it got. -/
structure Turn (σ : Type) where
  start : Session σ Event
  leg : Leg σ
  reply : Reply

/-- A listing, the version that it told, and the watches that began from it. -/
structure Cycle (σ : Type) where
  listing : Turn σ
  version : Option Text
  watches : List (Turn σ)

def Cycle.turns (cycle : Cycle σ) : List (Turn σ) :=
  cycle.listing :: cycle.watches

/-- The events and bookmarks that watches received, one watch after another. -/
def received (watches : List (Turn σ)) : List WatchEvent :=
  watches.flatMap fun turn => turn.leg.received

namespace Turn

/-- It ended normally, and the stop signal has not come. -/
def GoesOn (turn : Turn σ) : Prop :=
  (turn.leg.verdict = .closed ∨ turn.leg.verdict = .stopped) ∧ turn.leg.session.isStopped = false

/-- It failed because the version is gone, and the stop signal has not come. -/
def StartsOver (turn : Turn σ) : Prop :=
  (∃ failure, turn.leg.verdict = .failed failure ∧ failure.isGone = true) ∧
    turn.leg.session.isStopped = false

/-- A listing that told `version`, if it told one. The stop signal does not end it, and what it is
refused with comes out as it is, if its own time limit does not come first. -/
structure IsListing (client : Client) (url : Text) (consumer : Consumer σ Event)
    (version : Option Text) (turn : Turn σ) : Prop where
  request : turn.leg.request? = client.build? .get url {}
  replays : ∃ given, turn.start.Replays consumer given turn.leg.session
  listed : Listed client url turn.reply turn.start turn.leg
  version : turn.leg.verdict = .closed → ∀ time found,
    (Call.list client turn.start.now url [] none turn.reply).outcome = some (time, .value found) →
    found.resourceVersion = version
  unsent : turn.leg.request? = none → turn.leg.verdict = .failed .unbuildable
  refused : turn.leg.request?.isSome = true → ∀ failure, turn.reply.Refuses failure →
    turn.leg.verdict = .failed failure ∨
      ∃ limit ∈ client.requestTimeoutMs, turn.leg.verdict = .failed (.timedOut limit)

/-- A watch from `version` on. Only a watch without a request fails because none can be built, and
the version is gone if the server says so in one way or the other. -/
structure IsWatch (client : Client) (url : Text) (consumer : Consumer σ Event)
    (version : Option Text) (turn : Turn σ) : Prop where
  request : turn.leg.request? =
    client.build? .get (address client.watchTimeoutSeconds url version) {}
  replays : ∃ given, turn.start.Replays consumer given turn.leg.session
  unsent : turn.leg.request? = none → turn.leg.verdict = .failed .unbuildable
  bytes : turn.leg.bytes <+: turn.reply.streamed
  isOver : turn.leg.request?.isSome = true → turn.leg.IsOver turn.reply turn.leg.verdict
  gone : ∀ failure, turn.leg.verdict = .failed failure → turn.leg.request?.isSome = true →
    (failure.isGone = true ↔ RefusesGone turn.reply ∨ turn.leg.RaisesGone)

end Turn

/-- Watches that begin at `version`, each of them from the last version received so far. -/
structure Chain (client : Client) (url : Text) (consumer : Consumer σ Event)
    (version : Option Text) (watches : List (Turn σ)) : Prop where
  watch : ∀ before turn after, watches = before ++ turn :: after →
    turn.IsWatch client url consumer ((lastVersion? (received before)).or version)
  further : ∀ before turn after, watches = before ++ turn :: after → (after ≠ [] ↔ turn.GoesOn)

/-- A cycle as the server's replies demand it. -/
structure Cycle.IsRight (client : Client) (url : Text) (consumer : Consumer σ Event)
    (cycle : Cycle σ) : Prop where
  listing : cycle.listing.IsListing client url consumer cycle.version
  begins : cycle.watches ≠ [] ↔ cycle.listing.GoesOn
  watches : Chain client url consumer cycle.version cycle.watches

/-- Cycles one after another: a new one begins where a watch finds that the version is gone. -/
structure Round (client : Client) (url : Text) (consumer : Consumer σ Event)
    (cycles : List (Cycle σ)) : Prop where
  cycle : ∀ cycle ∈ cycles, cycle.IsRight client url consumer
  again : ∀ before cycle after, cycles = before ++ cycle :: after →
    (after ≠ [] ↔ ∃ turn ∈ cycle.watches, turn.StartsOver)

/-- Each turn begins in the session that the one before has led to, and the last one leads to
`last`. -/
def Leads : Session σ Event → List (Turn σ) → Session σ Event → Prop
  | session, [], last => session = last
  | session, turn :: rest, last => turn.start = session ∧ Leads turn.leg.session rest last

/-- A failure that no cycle takes up: any of a listing, and any of a watch but the one. -/
def Raises (watches : List (Turn σ)) (cycles : List (Cycle σ)) (failure : Failure) : Prop :=
  (∃ turn ∈ watches, turn.leg.verdict = .failed failure ∧ failure.isGone = false) ∨
    ∃ cycle ∈ cycles, cycle.listing.leg.verdict = .failed failure ∨
      ∃ turn ∈ cycle.watches, turn.leg.verdict = .failed failure ∧ failure.isGone = false

/-- Some turn is never over. -/
def Hangs (turns : List (Turn σ)) : Prop :=
  ∃ turn ∈ turns, turn.leg.verdict = .pending

/-- How a run ends: normally only with the stop signal or without the consumer, and with each
failure that is not taken up. It never ends if one of its turns never does. -/
structure Run.Ends (run : Run σ) (raises : Failure → Prop) (hangs : Prop) : Prop where
  closed : run.verdict ≠ .closed
  stopped : run.verdict = .stopped → run.session.isStopped = true
  left : run.verdict = .left → run.session.left = true
  failed : ∀ failure, run.verdict = .failed failure ↔ raises failure
  pending : run.verdict = .pending ↔ hangs

/-! ### Lists of turns -/

section Lists

variable {version : Option Text} {turn : Turn σ} {watches : List (Turn σ)}
  {cycle : Cycle σ} {cycles : List (Cycle σ)}

theorem received_cons : received (turn :: watches) = turn.leg.received ++ received watches := by
  simp [received]

theorem Chain.nil : Chain client url consumer version ([] : List (Turn σ)) where
  watch before turn after heq := by simp at heq
  further before turn after heq := by simp at heq

theorem Chain.cons (hturn : turn.IsWatch client url consumer version)
    (hfurther : watches ≠ [] ↔ turn.GoesOn)
    (hrest : Chain client url consumer ((lastVersion? turn.leg.received).or version) watches) :
    Chain client url consumer version (turn :: watches) where
  watch before other after heq := by
    rcases List.cons_eq_append_iff.mp heq with ⟨rfl, hcons⟩ | ⟨rest, rfl, hsplit⟩
    · obtain ⟨rfl, -⟩ := List.cons.inj hcons
      simpa [received] using hturn
    · have hother := hrest.watch rest other after hsplit
      rwa [received_cons, lastVersion?_append, Option.or_assoc]
  further before other after heq := by
    rcases List.cons_eq_append_iff.mp heq with ⟨rfl, hcons⟩ | ⟨rest, rfl, hsplit⟩
    · obtain ⟨rfl, rfl⟩ := List.cons.inj hcons
      exact hfurther
    · exact hrest.further rest other after hsplit

theorem Round.nil : Round client url consumer ([] : List (Cycle σ)) where
  cycle cycle hmem := by simp at hmem
  again before cycle after heq := by simp at heq

theorem Round.cons (hcycle : cycle.IsRight client url consumer)
    (hagain : cycles ≠ [] ↔ ∃ turn ∈ cycle.watches, turn.StartsOver)
    (hrest : Round client url consumer cycles) : Round client url consumer (cycle :: cycles) where
  cycle other hmem := by
    rcases List.mem_cons.mp hmem with rfl | hmem
    · exact hcycle
    · exact hrest.cycle other hmem
  again before other after heq := by
    rcases List.cons_eq_append_iff.mp heq with ⟨rfl, hcons⟩ | ⟨rest, rfl, hsplit⟩
    · obtain ⟨rfl, rfl⟩ := List.cons.inj hcons
      exact hagain
    · exact hrest.again rest other after hsplit

end Lists

/-! ### From one leg to the run -/

section Listing

variable (client url consumer) (reply : Reply) {session : Session σ Event}

end Listing

section Watching

variable (client url consumer) (version : Option Text) (reply : Reply) {session : Session σ Event}

end Watching

/-- A run that is made of cycles and begins in this session. -/
structure Run.Follows (client : Client) (url : Text) (consumer : Consumer σ Event)
    (replies : List Reply) (session : Session σ Event) (cycles : List (Cycle σ)) (run : Run σ) :
    Prop where
  legs : run.legs = (cycles.flatMap Cycle.turns).map Turn.leg
  leads : Leads session (cycles.flatMap Cycle.turns) run.session
  replies : (cycles.flatMap Cycle.turns).map Turn.reply <+: replies ++ [.unscripted]
  round : Round client url consumer cycles
  sent : ∀ turn ∈ (cycles.flatMap Cycle.turns).drop 2, turn.leg.request?.isSome = true
  ends : run.Ends (Raises [] cycles) (Hangs (cycles.flatMap Cycle.turns))

end ResourceWatch.Watch
