import ResourceWatch.Proofs.Client.Timeouts
import ResourceWatch.Proofs.Config
import ResourceWatch.Proofs.Json
import ResourceWatch.Proofs.Reactor.Completion
import ResourceWatch.Proofs.Reactor.Pacing
import ResourceWatch.Proofs.Reactor.Throttling

/-!
# Durations of a configuration

Time limits and delays are accepted without an upper bound, but they are waited out by timers. So a
time limit lasts as long as it says if it is one that a timer takes, and a delay does so if it is,
besides, whole or shorter than a millisecond. The others are over too early.
-/

namespace ResourceWatch

open Processing

variable {given other : Option Json} {config : ClientConfig} {pacing : ReactorConfig}
  {limit : Number}

/-- What a client makes of a time limit that was accepted. -/
structure ClientConfig.Lasts (config : ClientConfig) (limit : Number) : Prop where
  keeps : Number.le limit Clock.longestTimer = true → (Client.ofConfig config).KeepsLimit limit
  /-- A request that is not answered at once is given up in a millisecond. -/
  early : ¬Number.le limit Clock.longestTimer = true → ¬Clock.Spans 1 limit ∧
    ∀ now method url options, ((Client.ofConfig config).build? method url options).isSome = true →
      (Client.Call.request (Client.ofConfig config) now method url options none .silent).TimesOut
        (now + 1) limit

theorem ClientConfig.lasts (hcheck : check given = .ok config)
    (hlimit : config.requestTimeoutMs = some limit) : config.Lasts limit := by
  obtain ⟨hwhole, hpositive⟩ := of_check hcheck hlimit
  have hnonneg : Number.le 0 limit = true := by
    rw [Number.le, hpositive, Bool.true_or]
  have hspans := (Clock.spans_timer_iff hnonneg).trans (Clock.isKept_iff_of_isWhole hwhole)
  have hclient : (Client.ofConfig config).requestTimeoutMs = some limit := hlimit
  refine ⟨fun hle => ?_, fun hle => ?_⟩
  · exact (Client.timesCalls _).keepsLimit hclient (hspans.mpr hle)
  · have htimer : ((Clock.timer limit : Nat) : Int) = 1 := by
      rw [Clock.timer_of_not_le hle, Int.natCast_one]
    rw [htimer] at hspans
    refine ⟨fun hspan => hle (hspans.mp hspan), fun now method url options hbuild => ?_⟩
    have hsilent := Client.timesOut_silent hclient now hbuild
    rwa [htimer] at hsilent

theorem ReactorConfig.areWhole (hcheck : check given = .ok pacing)
    (hwhole : ∀ delay ∈ pacing.errorDelaysMs,
      delay.isWhole = true ∧ Number.le delay Clock.longestTimer = true) :
    Attempts.AreWhole pacing.errorDelaysMs := by
  intro delay hdelay
  obtain ⟨hdelayWhole, hle⟩ := hwhole delay hdelay
  exact Clock.exists_toInt?_of_isKept ((of_check hcheck).2 delay hdelay) hdelayWhole hle

theorem Attempts.neverEarly_course {delays : List Number} (hdelays : delays ≠ [])
    (hwhole : AreWhole delays) {now : Time} (hlow : -Date.furthest ≤ now) (errands : List Errand)
    (hhigh : (course delays now errands).now ≤ Date.furthest) :
    NeverEarly delays (course delays now errands).attempts := by
  have hbound : IsBound delays { now } now := ⟨by simp, hlow, .inl ⟨rfl, Int.le_refl _⟩⟩
  exact hbound.neverEarly_course (isKept_new delays now) hdelays hwhole hlow (by simp [NeverEarly])
    errands hhigh

/-- **How long accepted durations last.** The calls of a client that have no limit of their own are
never given up before an accepted one has passed, if a timer takes it, and in a millisecond
otherwise. Behind a failure in a run no call is made on its slot before the timer for the delay has
fired, and a job that waits has its call then; this is as long as the delay says if and only if a
timer keeps it. It is the same for calls on a throttler some of whose waits are interrupted, if the
delays are whole. -/
theorem accepted_durations (hclient : ClientConfig.check given = .ok config)
    (hreactor : ReactorConfig.check other = .ok pacing) {setting : Processing.Setting}
    (hdelays : setting.delays = pacing.errorDelaysMs) {registry : Registry}
    (hidle : registry.IsIdle)
    (hdraws : ∀ memory ∈ registry.memories, memory.throttler.DrawsFrom pacing.errorDelaysMs)
    (now : Time) (stop : Option Time) (deliveries : List Delivery) :
    ((Client.ofConfig config).TimesCalls ∧
      ∀ limit, config.requestTimeoutMs = some limit → config.Lasts limit) ∧
    Paces setting { now, stop, registry } deliveries
      (run setting { now, stop, registry } deliveries).state ∧
    (∀ delay ∈ pacing.errorDelaysMs,
      (Clock.IsKept delay → WaitsOut pacing.errorDelaysMs
        (run setting { now, stop, registry } deliveries).state.trace delay) ∧
      (Clock.Spans (Clock.timer delay) delay ↔ Clock.IsKept delay)) ∧
    ((∀ delay ∈ pacing.errorDelaysMs,
        delay.isWhole = true ∧ Number.le delay Clock.longestTimer = true) →
      ∀ errands, -Date.furthest ≤ now →
        (Attempts.course pacing.errorDelaysMs now errands).now ≤ Date.furthest →
        Attempts.NeverEarly pacing.errorDelaysMs
          (Attempts.course pacing.errorDelaysMs now errands).attempts) := by
  obtain ⟨hsome, hnonneg⟩ := ReactorConfig.of_check hreactor
  have hpaces : Paces setting { now, stop, registry } deliveries
      (run setting { now, stop, registry } deliveries).state := by
    rw [← hdelays] at hsome hdraws
    exact paces_run hidle now stop deliveries hsome hdraws
  refine ⟨⟨Client.timesCalls _, fun limit hlimit => ?_⟩, hpaces, fun delay hdelay => ?_,
    fun hwhole errands hlow hhigh => ?_⟩
  · exact ClientConfig.lasts hclient hlimit
  · have hspans := Clock.spans_timer_iff (hnonneg delay hdelay)
    refine ⟨fun hkept => ?_, hspans⟩
    rw [← hdelays]
    exact hpaces.waitsOut (hspans.mpr hkept)
  · exact Attempts.neverEarly_course hsome (ReactorConfig.areWhole hreactor hwhole) hlow errands
      hhigh

/-- The configuration of a client with a time limit. -/
def patient (limit : Number) : Json :=
  .obj [("server", .str "http://[::1]"), ("requestTimeoutMs", .num limit)]

/-- The configuration of a reactor with one delay. -/
def backingOff (delay : Number) : Json :=
  .obj [("errorDelaysMs", .arr [.num delay])]

theorem accepted_durations_short :
    ClientConfig.check (some (patient 5)) =
        .ok ⟨"http://[::1]", some 5, none, defaultUserAgent⟩ ∧
      ReactorConfig.check (some (backingOff 10)) = .ok ⟨[10]⟩ ∧ clumsy.delays = [10] ∧
      Registry.IsIdle {} ∧
      (∀ memory ∈ Registry.memories {}, memory.throttler.DrawsFrom [10]) ∧
      (Client.ofConfig ⟨"http://[::1]", some 5, none, defaultUserAgent⟩).KeepsLimit 5 ∧
      WaitsOut [10] (run clumsy { now := 0, stop := none } modifiedTwice).state.trace 10 ∧
      Attempts.NeverEarly [10] (Attempts.course [10] 0 Attempts.troubled).attempts := by
  have hclient : ClientConfig.check (some (patient 5)) =
      .ok ⟨"http://[::1]", some 5, none, defaultUserAgent⟩ := by
    apply Schema.Checked.eq_ok
    decide +kernel
  have hreactor : ReactorConfig.check (some (backingOff 10)) = .ok ⟨[10]⟩ := by
    apply Schema.Checked.eq_ok
    decide +kernel
  have hdelays : clumsy.delays = [10] := rfl
  have hdraws : ∀ memory ∈ Registry.memories {}, memory.throttler.DrawsFrom [10] := by
    intro memory hmemory
    cases hmemory
  have hten : Number.isWhole 10 = true ∧ Number.le 10 Clock.longestTimer = true := by
    decide +kernel
  have hwhole : ∀ delay ∈ [(10 : Number)],
      delay.isWhole = true ∧ Number.le delay Clock.longestTimer = true := by
    intro delay hdelay
    rw [List.mem_singleton.mp hdelay]
    exact hten
  have hdates : (Attempts.course [10] 0 Attempts.troubled).now ≤ Date.furthest := by
    decide +kernel
  obtain ⟨⟨-, hlasts⟩, -, hwaits, hnever⟩ := accepted_durations hclient hreactor hdelays
    Registry.isIdle_empty hdraws 0 none modifiedTwice
  have hmem : (10 : Number) ∈ [10] := List.mem_cons_self
  refine ⟨hclient, hreactor, hdelays, Registry.isIdle_empty, hdraws, ?_, ?_, ?_⟩
  · exact (hlasts 5 rfl).keeps (by decide +kernel)
  · exact (hwaits 10 hmem).1 ⟨hten.2, .inl hten.1⟩
  · exact hnever hwhole Attempts.troubled (by decide) hdates

/-! ### Durations that are over too early -/

/-- Whether a request that was begun at a time is given up before a limit is over. -/
def isCutShort (now : Time) (limit : Number) (call : Client.Call Response) : Bool :=
  match call.outcome with
  | some (time, .failed (.timedOut _)) => !decide (Clock.Spans (time - now) limit)
  | _ => false

theorem not_keepsLimit_of_isCutShort {client : Client} (now : Time) (method : Method) (url : Text)
    (options : RequestOptions) (reply : Reply)
    (hshort : isCutShort now limit
      (Client.Call.request client now method url options none reply) = true) :
    ¬client.KeepsLimit limit := by
  intro hkeeps
  unfold isCutShort at hshort
  split at hshort
  · rename_i time given htimesOut
    have hspans := hkeeps.request now method url options reply time given htimesOut
    rw [decide_eq_true hspans] at hshort
    cases hshort
  · cases hshort

/-- Whether a history is one of two calls on a slot, of which the first fails and the second is made
before a delay is over. -/
def isHasty (delay : Number) (history : List (Time × Happening)) : Bool :=
  match history with
  | [_, (time, .settled _ slot (some _)), _, (calledAt, .called call), _, _] =>
    call.slot == slot && !decide (Clock.Spans (calledAt - time) delay)
  | _ => false

theorem not_waitsOut_of_isHasty {setting : Processing.Setting} {start last : State}
    {deliveries : List Delivery} {delay : Number} (hpaces : Paces setting start deliveries last)
    (hdelays : setting.delays = [delay]) (hhasty : isHasty delay last.trace = true) :
    ¬WaitsOut [delay] last.trace delay := by
  intro hwaits
  unfold isHasty at hhasty
  split at hhasty
  · rename_i _ _ time number slot error _ calledAt call _ _ htrace
    have hsettled : last.trace[1]? = some (time, .settled number slot (some error)) := by
      rw [htrace]
      rfl
    have hcalled : last.trace[3]? = some (calledAt, .called call) := by
      rw [htrace]
      rfl
    rw [Bool.and_eq_true, beq_iff_eq] at hhasty
    -- The failure takes the only delay there is.
    obtain ⟨taken, hfails⟩ := hpaces.fails 1 number slot time error hsettled
    have hmem := (hpaces.waits 1 slot time taken hfails).1
    rw [hdelays] at hmem hfails
    obtain rfl := List.mem_singleton.mp hmem
    have hspans := hwaits 1 slot time hfails 3 calledAt call (by decide) hcalled hhasty.1
    simp [hspans] at hhasty
  · cases hhasty

/-- The first call fails, and there is one delay. -/
def clumsyAfter (delay : Number) : Processing.Setting :=
  { clumsy with delays := [delay] }

/-- **Durations that are accepted but not kept**: a time limit that is longer than a timer takes,
and delays that are so, or infinite, or a millisecond and a half. -/
theorem not_kept_of_accepted :
    (∃ config, ClientConfig.check (some (patient 2147483648)) = .ok config ∧
      config.requestTimeoutMs = some 2147483648 ∧
      ¬(Client.ofConfig config).KeepsLimit 2147483648) ∧
    ∀ delay ∈ [2147483648, .infinite false, .ofSteps false (3 * unity) 2],
      ReactorConfig.check (some (backingOff delay)) = .ok ⟨[delay]⟩ ∧
      ¬WaitsOut [delay]
        (run (clumsyAfter delay) { now := 0, stop := none } modifiedTwice).state.trace delay := by
  refine ⟨⟨⟨"http://[::1]", some 2147483648, none, defaultUserAgent⟩, ?_, rfl, ?_⟩,
    fun delay hdelay => ?_⟩
  · apply Schema.Checked.eq_ok
    decide +kernel
  · -- The response would come after five milliseconds.
    apply not_keepsLimit_of_isCutShort 0 .get "/pods" {}
      (.response 5 200 (some ⟨[⟨0, Utf8.encode "\x7b\x7d"⟩], 0, .closed⟩))
    decide +kernel
  · have hshort : ∀ delay ∈ [2147483648, .infinite false, .ofSteps false (3 * unity) 2],
        (ReactorConfig.check (some (backingOff delay))).toOption = some ⟨[delay]⟩ ∧
        isHasty delay
          (run (clumsyAfter delay) { now := 0, stop := none } modifiedTwice).state.trace = true := by
      decide +kernel
    obtain ⟨hcheck, hhasty⟩ := hshort delay hdelay
    have hdelays : (clumsyAfter delay).delays ≠ [] := List.cons_ne_nil _ _
    have hpaces := paces_run Registry.isIdle_empty 0 none modifiedTwice hdelays (by simp)
    exact ⟨Schema.Checked.eq_ok hcheck, not_waitsOut_of_isHasty hpaces rfl hhasty⟩

end ResourceWatch
