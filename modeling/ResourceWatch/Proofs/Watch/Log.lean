import ResourceWatch.Proofs.Json
import ResourceWatch.Proofs.Url.RoundTrip
import ResourceWatch.Proofs.Watch.Legs
import ResourceWatch.Proofs.Watch.Spelling
import ResourceWatch.Session.Plan

/-!
# Following a log

A server keeps a log of events with a version each, and answers a watch with the first of the events
behind the version that the watch asks for, cut off anywhere. A run puts the pieces together: over
any number of watches it receives the events behind the listing, each once and in the order of the
log.
-/

namespace ResourceWatch.Watch

open Client

variable {σ : Type} {client : Client} {url : Text} {consumer : Consumer σ Event}
  {log : List WatchEvent}

/-- A log of events with a version each, among them no errors. -/
structure IsLog (log : List WatchEvent) : Prop where
  type : ∀ record ∈ log, record.type ≠ .error
  object : ∀ record ∈ log, HasNoPrototype record.object
  version : ∀ record ∈ log, ∃ version, Object.resourceVersion? record.object = some version ∧
    version.isWellFormed = true
  distinct : (log.map fun record => Object.resourceVersion? record.object).Nodup

/-- The events behind the one with this version. -/
def after (version : Text) (log : List WatchEvent) : List WatchEvent :=
  (log.dropWhile fun record => Object.resourceVersion? record.object ≠ some version).tail

/-- The version is that of an event. -/
def Knows (log : List WatchEvent) (version : Text) : Prop :=
  ∃ record ∈ log, Object.resourceVersion? record.object = some version

/-- What is handed over of events. -/
def itemsOf (events : List WatchEvent) : List Event :=
  (events.filter isItem).map .ofWatch

/-- A response with the first bytes of these events, each on a line, that is closed in the end. -/
def Streams (events : List WatchEvent) (reply : Reply) : Prop :=
  ∃ (delay : Nat) (body : Body) (spelled : List (Text × WatchEvent)),
    reply = .response delay 200 (some body) ∧ body.ending = .closed ∧
      spelled.map Prod.snd = events ∧ (∀ pair ∈ spelled, Spells pair.1 pair.2) ∧
      body.bytes <+: ndjson (spelled.map Prod.fst)

/-- A watch for a version in the log is answered with the events behind it. -/
def Serves (log : List WatchEvent) (turn : Leg σ × Reply) : Prop :=
  turn.1.phase ≠ .listing → ∀ request version, turn.1.request? = some request →
    request.version? = some version → Knows log version → Streams (after version log) turn.2

theorem isWellFormed_of_knows (hlog : IsLog log) {version : Text} (hknows : Knows log version) :
    version.isWellFormed = true := by
  obtain ⟨record, hmem, hversion⟩ := hknows
  obtain ⟨other, hother, hformed⟩ := hlog.version record hmem
  rw [hversion, Option.some.injEq] at hother
  rw [hother]
  exact hformed

theorem after_of_split (hlog : IsLog log) {before rest : List WatchEvent} {record : WatchEvent}
    {version : Text} (hsplit : log = before ++ record :: rest)
    (hversion : Object.resourceVersion? record.object = some version) :
    after version log = rest := by
  have hbefore : ∀ other ∈ before, Object.resourceVersion? other.object ≠ some version := by
    intro other hother heq
    have hdistinct := hlog.distinct
    rw [hsplit, List.map_append, List.nodup_append] at hdistinct
    exact hdistinct.2.2 _ (List.mem_map_of_mem hother) _
      (List.mem_map_of_mem List.mem_cons_self) (heq.trans hversion.symm)
  rw [after, hsplit, List.dropWhile_append_of_pos (by simpa using hbefore),
    List.dropWhile_cons_of_neg (by simpa using hversion), List.tail_cons]

theorem split_of_knows (hlog : IsLog log) {version : Text} (hknows : Knows log version) :
    ∃ before record, log = before ++ record :: after version log ∧
      Object.resourceVersion? record.object = some version := by
  obtain ⟨record, hmem, hversion⟩ := hknows
  obtain ⟨before, rest, hsplit⟩ := List.append_of_mem hmem
  exact ⟨before, record, by rw [after_of_split hlog hsplit hversion]; exact hsplit, hversion⟩

/-- **The version that is carried on tells the place in the log.** Behind the last version seen come
the events that were not received. -/
theorem after_lastVersion (hlog : IsLog log) {version : Text} (hknows : Knows log version)
    {events rest : List WatchEvent} (hafter : after version log = events ++ rest) :
    ∃ last, (lastVersion? events).or (some version) = some last ∧ Knows log last ∧
      after last log = rest := by
  obtain ⟨before, record, hsplit, hversion⟩ := split_of_knows hlog hknows
  rw [hafter] at hsplit
  rcases List.eq_nil_or_concat events with rfl | ⟨earlier, final, rfl⟩
  · exact ⟨version, rfl, hknows, by simpa using hafter⟩
  · have hmem : final ∈ log := by simp [hsplit]
    obtain ⟨last, hlast, -⟩ := hlog.version final hmem
    have hfinal : log = (before ++ record :: earlier) ++ final :: rest := by simp [hsplit]
    refine ⟨last, ?_, ⟨final, hmem, hlast⟩, after_of_split hlog hfinal hlast⟩
    rw [List.concat_eq_append, lastVersion?_append, lastVersion?_singleton, hlast]
    rfl

/-! ### One watch -/

theorem IsLog.areSpelled (hlog : IsLog log) {version : Text} {spelled : List (Text × WatchEvent)}
    (hevents : spelled.map Prod.snd = after version log)
    (hspells : ∀ pair ∈ spelled, Spells pair.1 pair.2) : AreSpelled spelled := by
  intro pair hpair
  have hmem : pair.2 ∈ log := by
    have hafter : pair.2 ∈ after version log := hevents ▸ List.mem_map_of_mem hpair
    exact (List.dropWhile_suffix _).subset (List.mem_of_mem_tail hafter)
  exact ⟨hspells pair hpair, hlog.type _ hmem, hlog.object _ hmem⟩

/-- What a watch makes of the events behind its version: it receives the first of them, hands over
those of them that are no bookmarks unless the consumer leaves, and if anything comes behind it,
then a watch for the events that are left. -/
structure Receives (log : List WatchEvent) (version : Text) (session : Session σ Event)
    (events rest : List WatchEvent) (leg : Leg σ) : Prop where
  after : after version log = events ++ rest
  received : leg.received = events
  values : leg.verdict ≠ .left → leg.session.values = session.values ++ itemsOf events
  shown : leg.session.values <+: session.values ++ itemsOf events
  next : ∀ phase, leg.next = some phase → leg.verdict ≠ .left ∧
    ∃ last, phase = .watching (some last) ∧ Knows log last ∧ Watch.after last log = rest

theorem received_of_chunks {leg : Leg σ} (hchunks : leg.chunks = []) : leg.received = [] := by
  simp [Leg.received, Leg.lines, Leg.bytes, hchunks, Utf8.decode, Utf8.decodePoints, eventsOf]

theorem receives_nothing {version : Text} {session : Session σ Event} {leg : Leg σ}
    (hchunks : leg.chunks = []) (hvalues : leg.session.values = session.values)
    (hnext : leg.next = none) : Receives log version session [] (after version log) leg where
  after := rfl
  received := received_of_chunks hchunks
  values _ := by simp [hvalues, itemsOf]
  shown := by simp [hvalues, itemsOf]
  next phase hphase := by simp [hnext] at hphase

theorem Streams.not_refusesGone {events : List WatchEvent} {reply : Reply}
    (hstreams : Streams events reply) : ¬RefusesGone reply := by
  obtain ⟨delay, body, -, rfl, -⟩ := hstreams
  rintro ⟨status, ⟨_, _, hreply, -⟩, hsame⟩
  rw [Reply.response.injEq] at hreply
  rw [← hreply.2.1] at hsame
  exact absurd hsame (by decide +kernel)

theorem Watched.reads {version : Text} {last : Option Text} {reply : Reply}
    {session : Session σ Event} {progress : Stream.Progress σ (Option Text) Event} {leg : Leg σ}
    (hwatched : Watched reply last session progress leg) (hlog : IsLog log)
    (hstreams : Streams (after version log) reply) :
    leg.received <+: after version log ∧ refused? leg.lines = none := by
  obtain ⟨delay, body, spelled, rfl, -, hevents, hspells, hbytes⟩ := hstreams
  have hinitial : progress.bytes <+: ndjson (spelled.map Prod.fst) := by
    have hread := Stream.Progress.bytes_isPrefix hwatched.answered.chunks_isPrefix
    rw [Feed.bytes_start] at hread
    exact hread.trans hbytes
  rw [Leg.received, hwatched.lines_eq, ← hevents]
  exact eventsOf_of_isPrefix (hlog.areSpelled hevents hspells) hinitial

/-- On the lines of a watch is nothing but its events. -/
theorem Watched.transcript_eq {last : Option Text} {reply : Reply} {session : Session σ Event}
    {progress : Stream.Progress σ (Option Text) Event} {leg : Leg σ}
    (hwatched : Watched reply last session progress leg) (hrefused : refused? leg.lines = none) :
    progress.transcript changes last =
      { memory := (lastVersion? leg.received).or last
        items := itemsOf leg.received
        failure := none } := by
  rw [Stream.Progress.transcript, transcript_changes, ← hwatched.lines_eq, hrefused]
  rfl

/-- **One watch receives the next events of the log.** -/
theorem receives_watch (hlog : IsLog log) {version : Text} (hknows : Knows log version)
    {reply : Reply} {session : Session σ Event} (hstopped : session.isStopped = false)
    (hserves : Serves log (watch client url consumer (some version) reply session, reply)) :
    ∃ events rest, Receives log version session events rest
      (watch client url consumer (some version) reply session) := by
  obtain ⟨hrequest, hcases⟩ := watched_watch client url consumer (some version) reply hstopped
  have hphase : (watch client url consumer (some version) reply session).phase =
      .watching (some version) := by
    obtain ⟨records, hwatch⟩ := watch_eq client url consumer (some version) reply session
    rw [hwatch]
  generalize hleg : watch client url consumer (some version) reply session = leg
    at hrequest hcases hserves hphase ⊢
  rcases hcases with ⟨-, hunsent⟩ | ⟨hsome, progress, hwatched⟩
  · exact ⟨[], after version log,
      receives_nothing (by rw [hunsent]) (by rw [hunsent]) (by rw [hunsent])⟩
  -- The version is read off the URL of the request, so the reply carries the events behind it.
  obtain ⟨request, hbuild⟩ := Option.isSome_iff_exists.mp hsome
  have hstreams : Streams (after version log) reply :=
    hserves (by simp [hphase]) request version (hrequest.trans hbuild)
      (version?_of_build? (isWellFormed_of_knows hlog hknows) hbuild) hknows
  obtain ⟨⟨rest, hafter⟩, hrefused⟩ := hwatched.reads hlog hstreams
  have htranscript := hwatched.transcript_eq hrefused
  refine ⟨leg.received, rest, hafter.symm, rfl, ?_, ?_, fun phase hnext => ?_⟩
  · intro hleft
    rcases hwatched.answered.handed with hcurrent | ⟨failure, -, hbroken⟩ | ⟨hverdict, -⟩
    · rw [hwatched.values, hcurrent.values, htranscript]
    · simpa [htranscript] using hbroken.failure
    · exact absurd hverdict hleft
  · rcases hwatched.answered.handed with hcurrent | ⟨failure, -, hbroken⟩ | ⟨-, shown, hshown, hvalues⟩
    · simp only [hwatched.values, hcurrent.values, htranscript, List.prefix_refl]
    · simpa [htranscript] using hbroken.failure
    · rw [htranscript] at hshown
      rw [hwatched.values, hvalues]
      exact (List.prefix_append_right_inj _).mpr hshown
  · rcases watch_cases client url consumer (some version) _ hstopped hleg with
      ⟨hnone, -⟩ | ⟨hover, hsome⟩ | ⟨⟨failure, hverdict, hgone⟩, -⟩
    · simp [hnone] at hnext
    · obtain ⟨last, hlast, hlastKnown, hlastAfter⟩ := after_lastVersion hlog hknows hafter.symm
      rw [hsome, hlast, Option.some.injEq] at hnext
      exact ⟨by rcases hover with hverdict | hverdict <;> simp [hverdict], last, hnext.symm,
        hlastKnown, hlastAfter⟩
    · rcases (hwatched.isGone_iff hverdict).mp hgone with hrefuses | ⟨line, _, _, hline, -⟩
      · exact absurd hrefuses hstreams.not_refusesGone
      · simp [hrefused] at hline

/-! ### Many watches -/

/-- What watches in a row make of the events behind a version: together they receive the first of
them. -/
structure Gathers (log : List WatchEvent) (version : Text) (before : List Event) (run : Run σ)
    (events : List WatchEvent) : Prop where
  after : events <+: after version log
  received : run.legs.flatMap Leg.received = events
  values : run.verdict ≠ .left → run.session.values = before ++ itemsOf events
  shown : run.session.values <+: before ++ itemsOf events

theorem Gathers.cons {version : Text} {before : List Event} {run : Run σ} {events : List WatchEvent}
    {leg : Leg σ} (hgathers : Gathers log version before run events)
    (hreceived : leg.received = []) :
    Gathers log version before { run with legs := leg :: run.legs } events where
  after := hgathers.after
  received := by simp [hreceived, hgathers.received]
  values := hgathers.values
  shown := hgathers.shown

theorem itemsOf_append (first second : List WatchEvent) :
    itemsOf (first ++ second) = itemsOf first ++ itemsOf second := by
  simp [itemsOf]

theorem gathers_nothing {version : Text} (session : Session σ Event) (verdict : Verdict) :
    Gathers log version session.values ⟨[], session, verdict⟩ [] where
  after := List.nil_prefix
  received := rfl
  values _ := by simp [itemsOf]
  shown := by simp [itemsOf]

theorem Receives.gathers {version : Text} {session : Session σ Event}
    {events rest : List WatchEvent} {leg : Leg σ}
    (hreceives : Receives log version session events rest leg) :
    Gathers log version session.values ⟨[leg], leg.session, leg.verdict⟩ events where
  after := hreceives.after ▸ List.prefix_append _ _
  received := by simp [hreceives.received]
  values := hreceives.values
  shown := hreceives.shown

/-- A watch before others that go on where it has come to. -/
theorem Receives.gathers_cons {version last : Text} {session : Session σ Event}
    {events rest later : List WatchEvent} {leg : Leg σ} {run : Run σ}
    (hreceives : Receives log version session events rest leg) (hleft : leg.verdict ≠ .left)
    (hlast : Watch.after last log = rest) (hrun : Gathers log last leg.session.values run later) :
    Gathers log version session.values { run with legs := leg :: run.legs } (events ++ later) where
  after := by
    rw [hreceives.after, ← hlast]
    exact (List.prefix_append_right_inj _).mpr hrun.after
  received := by simp [hreceives.received, hrun.received]
  values hverdict := by
    rw [itemsOf_append, ← List.append_assoc, ← hreceives.values hleft]
    exact hrun.values hverdict
  shown := by
    rw [itemsOf_append, ← List.append_assoc, ← hreceives.values hleft]
    exact hrun.shown

theorem gathers_refusal {version : Text} {delay : Nat} {error : Thrown} {session : Session σ Event}
    (hstopped : session.isStopped = false) {leg : Leg σ}
    (hleg : watch client url consumer (some version) (.refusal delay error) session = leg) :
    Gathers log version session.values ⟨[leg], leg.session, leg.verdict⟩ [] := by
  have hnothing : leg.chunks = [] ∧ leg.session.values = session.values := by
    rcases (watched_watch client url consumer (some version) (.refusal delay error) hstopped).2 with
      ⟨-, hunsent⟩ | ⟨-, progress, hwatched⟩
    · rw [hleg] at hunsent
      rw [hunsent]
      exact ⟨rfl, rfl⟩
    · rw [hleg] at hwatched
      obtain ⟨hchunks, hvalues, -⟩ := hwatched.of_refusal
      exact ⟨hchunks, hvalues⟩
  obtain ⟨hchunks, hvalues⟩ := hnothing
  refine ⟨by simp, by simp [received_of_chunks hchunks], fun _ => ?_, ?_⟩
  · simp [hvalues, itemsOf]
  · simp [hvalues, itemsOf]

/-- **Watches in a row lose nothing and repeat nothing.** -/
theorem gathers_continueWith (hlog : IsLog log) (replies : List Reply) {version : Text}
    (hknows : Knows log version) (session : Session σ Event)
    (hserves : ∀ turn ∈ (continueWith client url consumer (.watching (some version)) session
      replies).legs.zip replies, Serves log turn) :
    ∃ events, Gathers log version session.values
      (continueWith client url consumer (.watching (some version)) session replies) events := by
  -- On the replies, from wherever the watches have come to in the log.
  induction replies generalizing version session with
  | nil =>
      rw [continueWith]
      split
      · exact ⟨[], gathers_nothing session .stopped⟩
      · rename_i hstopped
        exact ⟨[], gathers_refusal (by simpa using hstopped) rfl⟩
  | cons reply rest ih =>
      cases hstopped : session.isStopped with
      | true =>
          rw [continueWith, hstopped, if_pos rfl]
          exact ⟨[], gathers_nothing session .stopped⟩
      | false =>
          rw [continueWith, hstopped, if_neg Bool.false_ne_true] at hserves ⊢
          simp only [leg] at hserves ⊢
          generalize hleg : watch client url consumer (some version) reply session = leg
            at hserves ⊢
          have hfirst : Serves log (leg, reply) := by
            refine hserves _ ?_
            split <;> simp
          obtain ⟨events, behind, hreceives⟩ :=
            receives_watch hlog hknows hstopped (hleg ▸ hfirst)
          rw [hleg] at hreceives
          cases hnext : leg.next with
          | none =>
              simp only
              exact ⟨events, hreceives.gathers⟩
          | some phase =>
              obtain ⟨hleft, last, rfl, hlast, hbehind⟩ := hreceives.next phase hnext
              simp only [hnext] at hserves ⊢
              obtain ⟨later, hlater⟩ := ih hlast leg.session fun turn hturn =>
                hserves turn (List.mem_cons_of_mem _ hturn)
              exact ⟨events ++ later, hreceives.gathers_cons hleft hbehind hlater⟩

/-! ### The whole run -/

/-- What a run makes of a log: it receives the first events behind a version, over all its watches
together, hands over those that are no bookmarks behind what was listed, and has done so at each
moment. -/
structure Run.FollowsLog (log : List WatchEvent) (version : Text) (listed : List Event)
    (run : Run σ) : Prop where
  received : run.legs.flatMap Leg.received <+: after version log
  handed : run.legs ≠ [] → run.verdict ≠ .left →
    run.session.values = listed ++ itemsOf (run.legs.flatMap Leg.received)
  shown : ∀ shown, shown <+: run.session.values →
    shown <+: listed ∨ ∃ events, events <+: after version log ∧ shown = listed ++ itemsOf events

/-- The first items of a run are listed objects, or all of these and the items of first events. -/
theorem of_prefix_append_itemsOf {shown listed : List Event} {events : List WatchEvent}
    (hshown : shown <+: listed ++ itemsOf events) :
    shown <+: listed ∨ ∃ first, first <+: events ∧ shown = listed ++ itemsOf first := by
  rcases List.prefix_or_prefix_of_prefix hshown (List.prefix_append _ _) with hlisted | ⟨items, rfl⟩
  · exact Or.inl hlisted
  · rw [List.prefix_append_right_inj, itemsOf, List.prefix_map_iff] at hshown
    obtain ⟨kept, hkept, rfl⟩ := hshown
    obtain ⟨first, hfirst, rfl⟩ := List.prefix_filter_iff.mp hkept
    exact Or.inr ⟨first, hfirst, rfl⟩

theorem Gathers.followsLog {version : Text} {listed : List Event} {run : Run σ}
    {events : List WatchEvent} (hgathers : Gathers log version listed run events) :
    run.FollowsLog log version listed where
  received := hgathers.received ▸ hgathers.after
  handed _ hleft := by rw [hgathers.received, hgathers.values hleft]
  shown shown hshown := by
    rcases of_prefix_append_itemsOf (hshown.trans hgathers.shown) with hlisted | ⟨first, hfirst, heq⟩
    · exact Or.inl hlisted
    · exact Or.inr ⟨first, hfirst.trans hgathers.after, heq⟩

theorem serves_watch (hlog : IsLog log) {version : Text} (hknows : Knows log version)
    {reply : Reply} {session : Session σ Event} (hstopped : session.isStopped = false)
    (hstreams : Streams (after version log) reply) :
    Serves log (watch client url consumer (some version) reply session, reply) := by
  intro _ request other hrequest hother _
  have hbuild :=
    (watched_watch client url consumer (some version) reply hstopped).1.symm.trans hrequest
  rw [version?_of_build? (isWellFormed_of_knows hlog hknows) hbuild, Option.some.injEq] at hother
  exact hother ▸ hstreams

/-- A run with one listing and one watch is served if the watch is. -/
theorem serves_follow (hlog : IsLog log) {version : Text} (hknows : Knows log version)
    {listing reply : Reply} {session : Session σ Event} {time : Time} {found : ObjectList}
    (hlist : (Call.list client session.now url [] none listing).outcome = some (time, .value found))
    (hversion : found.resourceVersion = some version)
    (hstreams : Streams (after version log) reply) :
    ∀ turn ∈ (follow client url consumer [listing, reply] session).legs.zip [listing, reply],
      Serves log turn := by
  have hfirst : Serves log (list client url consumer listing session, listing) :=
    fun hphase => absurd (phase_list client url consumer listing session) hphase
  intro turn hturn
  rw [follow, continueWith] at hturn
  split at hturn
  · simp at hturn
  simp only [leg] at hturn
  cases hnext : (list client url consumer listing session).next with
  | none =>
      simp only [hnext, List.zip_cons_cons, List.zip_nil_left, List.mem_singleton] at hturn
      exact hturn ▸ hfirst
  | some phase =>
      have hphase : phase = .watching (some version) := by
        cases listed_list client url consumer listing session with
        | listed _ other hother _ hwatching _ =>
            obtain ⟨-, rfl⟩ : time = _ ∧ found = other := by simpa [hlist] using hother
            rw [hwatching, hversion, Option.some.injEq] at hnext
            exact hnext.symm
        | left _ _ _ _ _ hnone => simp [hnone] at hnext
        | failed _ _ hother => simp [hlist] at hother
        | pending hother => simp [hlist] at hother
      simp only [hnext, hphase, List.zip_cons_cons, List.mem_cons] at hturn
      rcases hturn with rfl | hturn
      · exact hfirst
      rw [continueWith] at hturn
      split at hturn
      · simp at hturn
      · rename_i hstopped
        simp only [leg] at hturn
        split at hturn
        all_goals
          simp only [continueWith, List.zip_cons_cons, List.zip_nil_right,
            List.mem_singleton] at hturn
          rw [hturn]
          exact serves_watch hlog hknows (by simpa using hstopped) hstreams

/-- An event whose object holds nothing but its version. -/
def bare (type : EventType) (version : Text) : WatchEvent :=
  ⟨type, [("metadata", .obj [("resourceVersion", .str version)])]⟩

/-- A log that ends with a bookmark. -/
def bareLog : List WatchEvent :=
  [bare .added "1", bare .modified "2", bare .bookmark "3"]

theorem isLog_bareLog : IsLog bareLog := by
  have htypes : ∀ record ∈ bareLog, record.type ≠ .error ∧
      (∀ member ∈ record.object, member.1 ≠ Text.ofString "__proto__") ∧
      (Object.resourceVersion? record.object).any Text.isWellFormed = true := by
    decide +kernel
  refine ⟨fun record hrecord => (htypes record hrecord).1,
    fun record hrecord => (htypes record hrecord).2.1, fun record hrecord => ?_, by decide +kernel⟩
  exact (Option.any_eq_true _ _).mp (htypes record hrecord).2.2

/-- A body that is there at once. -/
def atOnce (bytes : Bytes) : Body := ⟨[⟨0, bytes⟩], 0, .closed⟩

theorem bytes_atOnce (bytes : Bytes) : (atOnce bytes).bytes = bytes := by
  simp [Body.bytes, Feed.bytes, Feed.start, atOnce]

def bareListing : Text :=
  "\x7b\"metadata\":\x7b\"resourceVersion\":\"1\"\x7d,\"items\":[]\x7d"

def bareLines : List Text :=
  ["\x7b\"type\":\"MODIFIED\",\"object\":\x7b\"metadata\":\x7b\"resourceVersion\":\"2\"\x7d\x7d\x7d",
    "\x7b\"type\":\"BOOKMARK\",\"object\":\x7b\"metadata\":\x7b\"resourceVersion\":\"3\"\x7d\x7d\x7d"]

theorem list_bareListing :
    (Call.list ⟨"http://[::1]", [], none, none, none⟩ 0 "/items" [] none
      (.response 0 200 (some (atOnce (Utf8.encode bareListing))))).outcome =
        some (0, .value ⟨[], some "1", [("resourceVersion", .str "1")]⟩) := by
  have hparse : Json.parse? (Response.decode (atOnce (Utf8.encode bareListing)).bytes) =
      some (.obj [("metadata", .obj [("resourceVersion", .str "1")]), ("items", .arr [])]) := by
    rw [bytes_atOnce]
    decide +kernel
  exact Call.list_of_closed rfl (by decide +kernel) (by decide +kernel) rfl hparse rfl

/-- The second line is cut off. -/
theorem streams_bareLines :
    Streams (after "1" bareLog)
      (.response 0 200 (some (atOnce ((ndjson bareLines).take 90)))) := by
  have hplain : ∀ line ∈ bareLines, line.isWellFormed = true ∧ 0x0A ∉ line ∧
      line.getLast? ≠ some 0x0D := by
    decide +kernel
  obtain ⟨hformed, hnewline, hcarriage⟩ := hplain bareLines[0] List.mem_cons_self
  have hmodified : Spells bareLines[0] (bare .modified "2") :=
    ⟨hformed, hnewline, hcarriage, _, by decide +kernel, Or.inl rfl⟩
  obtain ⟨hformed, hnewline, hcarriage⟩ :=
    hplain bareLines[1] (List.mem_cons_of_mem _ List.mem_cons_self)
  have hbookmark : Spells bareLines[1] (bare .bookmark "3") :=
    ⟨hformed, hnewline, hcarriage, _, by decide +kernel, Or.inl rfl⟩
  have hafter : after "1" bareLog = [bare .modified "2", bare .bookmark "3"] := rfl
  refine ⟨0, _, [(bareLines[0], bare .modified "2"), (bareLines[1], bare .bookmark "3")], rfl, rfl,
    hafter.symm, by simpa using ⟨hmodified, hbookmark⟩, ?_⟩
  rw [bytes_atOnce]
  exact List.take_prefix _ _

/-- **Nothing is lost and nothing is repeated.** The server lists the collection at a version of its
log and answers each watch with the first events behind the version that the watch asks for, cut off
anywhere and in any chunks. Then, over any number of watches, the run hands over the events behind
the listing in the order of the log, each once. -/
theorem follow_log (client : Client) (url : Text) (consumer : Consumer σ Event)
    (hlog : IsLog log) {version : Text} (hknows : Knows log version) {reply : Reply}
    {replies : List Reply} {now : Time} {stop : Option Time} {state : σ} {time : Time}
    {found : ObjectList}
    (hlist : (Call.list client now url [] none reply).outcome = some (time, .value found))
    (hversion : found.resourceVersion = some version)
    (hserves : ∀ turn ∈ (follow client url consumer (reply :: replies) { now, stop, state }).legs.zip
      (reply :: replies), Serves log turn) :
    (follow client url consumer (reply :: replies) { now, stop, state }).FollowsLog log version
      (found.items.map .listed) := by
  let start : Session σ Event := { now, stop, state }
  rw [follow] at hserves ⊢
  cases hstopped : start.isStopped with
  | true =>
      rw [continueWith, hstopped, if_pos rfl]
      refine ⟨by simp, by simp, fun shown hshown => Or.inl ?_⟩
      rw [List.prefix_nil.mp hshown]
      exact List.nil_prefix
  | false =>
      rw [continueWith, hstopped, if_neg Bool.false_ne_true] at hserves ⊢
      simp only [leg] at hserves ⊢
      have hlisted := listed_list client url consumer reply start
      have hnothing := received_of_chunks (list_chunks client url consumer reply start)
      generalize list client url consumer reply start = leg at hserves hlisted hnothing ⊢
      have hstart : start.values = [] := rfl
      cases hlisted with
      | listed _ other hother _ hnext hvalues =>
          obtain ⟨-, rfl⟩ : time = _ ∧ found = other := by simpa [start, hlist] using hother
          rw [hstart, List.nil_append] at hvalues
          rw [hversion] at hnext
          simp only [hnext] at hserves ⊢
          obtain ⟨events, hgathers⟩ := gathers_continueWith hlog replies hknows leg.session
            fun turn hturn => hserves turn (List.mem_cons_of_mem _ hturn)
          rw [hvalues] at hgathers
          exact (hgathers.cons hnothing).followsLog
      | left _ other shown hother hverdict hnext hshown hvalues =>
          obtain ⟨-, rfl⟩ : time = _ ∧ found = other := by simpa [start, hlist] using hother
          rw [hstart, List.nil_append] at hvalues
          simp only [hnext]
          refine ⟨by simp [hnothing], fun _ hleft => absurd hverdict hleft, fun first hfirst => ?_⟩
          rw [hvalues] at hfirst
          exact Or.inl (hfirst.trans hshown)
      | failed _ _ hother => simp [start, hlist] at hother
      | pending hother => simp [start, hlist] at hother

/-- The bookmark is not received. -/
theorem follow_log_bare :
    IsLog bareLog ∧ Knows bareLog "1" ∧
      (follow ⟨"http://[::1]", [], none, none, none⟩ "/items" (Plan.consumer {})
        [.response 0 200 (some (atOnce (Utf8.encode bareListing))),
          .response 0 200 (some (atOnce ((ndjson bareLines).take 90)))]
        { now := 0, stop := some 7, state := {} }).FollowsLog bareLog "1" [] := by
  have hknows : Knows bareLog "1" := ⟨bare .added "1", List.mem_cons_self, rfl⟩
  exact ⟨isLog_bareLog, hknows, follow_log _ _ _ isLog_bareLog hknows list_bareListing rfl
    (serves_follow isLog_bareLog hknows list_bareListing rfl streams_bareLines)⟩

end ResourceWatch.Watch
