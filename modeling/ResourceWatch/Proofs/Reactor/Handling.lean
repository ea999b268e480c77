import ResourceWatch.Proofs.Reactor.Order

/-!
# The handling of a source of events

Each event of a resource becomes a job on the slot that is recalled for it. Which slot that is
depends on the events alone, and not on what the handler does meanwhile. As long as the stop signal
does not come, the handler is called for these jobs and for nothing else.
-/

namespace ResourceWatch

/-! ### Recalling -/

namespace Registry

/-- Two registries know the same resources. -/
structure SameSlots (first second : Registry) : Prop where
  slots : first.slots = second.slots
  length : first.memories.length = second.memories.length

variable {registry other : Registry} {cells : Cells} {object : Object} {template : Option Template}
  {listed : Bool} {slot : Nat}

theorem SameSlots.trans {first second third : Registry} (hfirst : SameSlots first second)
    (hsecond : SameSlots second third) : SameSlots first third :=
  ⟨hfirst.slots.trans hsecond.slots, hfirst.length.trans hsecond.length⟩

theorem SameSlots.forgetUid (hsame : SameSlots registry other) (uid : Text) :
    SameSlots (registry.forgetUid uid) (other.forgetUid uid) :=
  ⟨by rw [Registry.forgetUid, Registry.forgetUid, hsame.slots], hsame.length⟩

theorem SameSlots.recalled (hsame : SameSlots registry other) (cells : Cells) (object : Object)
    (template : Option Template) (listed : Bool) :
    (registry.recalled cells object template listed).slot =
        (other.recalled cells object template listed).slot ∧
      SameSlots (registry.recalled cells object template listed).registry
        (other.recalled cells object template listed).registry := by
  simp only [Registry.recalled]
  split
  · exact ⟨rfl, hsame⟩
  · rename_i uid _
    simp only [recalledUid, hsame.slots]
    split
    · exact ⟨rfl, hsame⟩
    · split
      · exact ⟨rfl, hsame⟩
      · simp only [keep, hsame.length]
        exact ⟨trivial, by simp [hsame.slots], by simp [hsame.length]⟩

/-- The same memory is made for a resource, if any. -/
theorem SameSlots.exists_recalled (hsame : SameSlots registry other) (cells : Cells)
    (object : Object) (template : Option Template) (listed : Bool) :
    ∃ added, (registry.recalled cells object template listed).registry.memories =
        registry.memories ++ added ∧
      (other.recalled cells object template listed).registry.memories = other.memories ++ added := by
  simp only [Registry.recalled]
  split
  · exact ⟨[], by simp, by simp⟩
  · rename_i uid _
    simp only [recalledUid, hsame.slots]
    split
    · exact ⟨[], by simp, by simp⟩
    · split
      · exact ⟨[], by simp, by simp⟩
      · exact ⟨_, rfl, rfl⟩

/-- A registry with a slot, and with no other memories than one that there were, and perhaps one
that is new. -/
structure Keeps (registry : Registry) (slot : Nat) (next : Registry) : Prop where
  isRemembered : next.IsRemembered
  slot_lt : slot < next.memories.length
  memories : next.memories = registry.memories ∨ ∃ memo listed,
    next.memories = registry.memories ++ [{ memo, noticedByListing := listed }]

/-- A resource is known already, or a memory for it is made in a new slot. -/
theorem recalled_cases (hslot : (registry.recalled cells object template listed).slot = .ok slot) :
    ∃ uid, object.identity = .ok uid ∧
      (registry.slots.lookup uid = some slot ∧
          (registry.recalled cells object template listed).registry = registry ∨
        slot = registry.memories.length ∧ registry.slots.lookup uid = none ∧ ∃ memo,
          (registry.recalled cells object template listed).registry =
            ⟨registry.memories ++ [{ memo, noticedByListing := listed }],
              registry.slots ++ [(uid, slot)]⟩) := by
  revert hslot
  simp only [recalled]
  split
  · simp
  · rename_i uid hidentity
    simp only [recalledUid]
    split
    · rename_i found hfound
      rintro hslot
      rw [Except.ok.injEq] at hslot
      exact ⟨uid, hidentity, .inl ⟨hslot ▸ hfound, rfl⟩⟩
    · rename_i hunknown
      split
      · simp
      · rename_i memo _
        intro hslot
        simp only [keep, Except.ok.injEq] at hslot ⊢
        exact ⟨uid, hidentity, .inr ⟨hslot.symm, hunknown, memo, by rw [hslot]⟩⟩

theorem mem_of_lookup {uid : Text} (hlookup : registry.slots.lookup uid = some slot) :
    (uid, slot) ∈ registry.slots := by
  obtain ⟨before, rest, hsplit, -⟩ := List.lookup_eq_some_iff.mp hlookup
  rw [hsplit]
  simp

theorem keeps_recalled (hremembered : registry.IsRemembered)
    (hslot : (registry.recalled cells object template listed).slot = .ok slot) :
    Keeps registry slot (registry.recalled cells object template listed).registry := by
  obtain ⟨uid, -, ⟨hlookup, hsame⟩ | ⟨rfl, -, memo, hnew⟩⟩ := recalled_cases hslot
  · rw [hsame]
    exact ⟨hremembered, hremembered (uid, slot) (mem_of_lookup hlookup), .inl rfl⟩
  · rw [hnew]
    refine ⟨?_, by simp, .inr ⟨memo, listed, rfl⟩⟩
    intro pair hpair
    rw [List.mem_append, List.mem_singleton] at hpair
    rw [List.length_append, List.length_singleton]
    rcases hpair with hold | rfl
    · have hlt := hremembered pair hold
      omega
    · exact Nat.lt_succ_self _

theorem Keeps.forgetUid {next : Registry} (hkeeps : Keeps registry slot next) (uid : Text) :
    Keeps registry slot (next.forgetUid uid) where
  isRemembered pair hpair := hkeeps.isRemembered pair (List.mem_filter.mp hpair).1
  slot_lt := hkeeps.slot_lt
  memories := hkeeps.memories

/-- A memory that is new has nothing in its queue and no failures behind it, as one that is not
there. -/
theorem Keeps.memory_eq {next : Registry} (hkeeps : Keeps registry slot next) (place : Nat) :
    (next.memories[place]?.getD {}).queue = (registry.memories[place]?.getD {}).queue ∧
      (next.memories[place]?.getD {}).throttler = (registry.memories[place]?.getD {}).throttler := by
  rcases hkeeps.memories with hmemories | ⟨memo, listed, hmemories⟩
  · rw [hmemories]
    exact ⟨rfl, rfl⟩
  · rw [hmemories, List.getElem?_append]
    split
    · exact ⟨rfl, rfl⟩
    · rename_i hle
      rw [List.getElem?_eq_none (Nat.le_of_not_lt hle), List.getElem?_singleton]
      split <;> exact ⟨rfl, rfl⟩

theorem memory_update (hslot : slot < registry.memories.length) (change : Memory → Memory)
    (place : Nat) :
    (registry.update slot change).memories[place]?.getD {} =
      if slot = place then change (registry.memories[place]?.getD {})
      else registry.memories[place]?.getD {} := by
  rw [update, List.getElem?_modify]
  split
  · rename_i hsame
    subst hsame
    simp [hslot]
  · simp

/-- A registry whose memories have no jobs. -/
structure IsIdle (registry : Registry) : Prop where
  isRemembered : registry.IsRemembered
  isIdle : ∀ memory ∈ registry.memories, memory.queue.isIdle = true

theorem isIdle_empty : IsIdle {} where
  isRemembered := by simp [IsRemembered]
  isIdle := by simp

theorem Keeps.isIdle {next : Registry} (hkeeps : Keeps registry slot next)
    (hidle : registry.IsIdle) : next.IsIdle where
  isRemembered := hkeeps.isRemembered
  isIdle memory hmemory := by
    rcases hkeeps.memories with hmemories | ⟨memo, listed, hmemories⟩
    · exact hidle.isIdle memory (hmemories ▸ hmemory)
    · rw [hmemories, List.mem_append, List.mem_singleton] at hmemory
      rcases hmemory with hold | rfl
      · exact hidle.isIdle memory hold
      · rfl

end Registry

namespace Processing

open Throttling

/-! ### Jobs -/

/-- The jobs for these events with the slots that are recalled for them, up to the first event whose
resource is not recalled. -/
def jobsOf (setting : Setting) (registry : Registry) (number : Nat) :
    List Event → List (Job × Nat)
  | [] => []
  | event :: rest =>
    if event.type = some .bookmark then jobsOf setting registry number rest
    else
      let found := registry.recalled setting.cells event.object setting.template event.type.isNone
      match event.object.identity, found.slot with
      | .ok uid, .ok slot =>
        let registry :=
          if event.type = some .deleted then found.registry.forgetUid uid else found.registry
        (⟨number, uid, event⟩, slot) :: jobsOf setting registry (number + 1) rest
      | _, _ => []

/-- The events of a source up to its end. -/
def arrivals : List Delivery → List Event
  | .event _ event :: rest => event :: arrivals rest
  | _ => []

variable {setting : Setting} {state next : State} {jobs : List (Job × Nat)} {event : Event}
  {registry : Registry}

theorem jobsOf_congr {registry other : Registry} (hsame : registry.SameSlots other) (number : Nat)
    (events : List Event) :
    jobsOf setting registry number events = jobsOf setting other number events := by
  induction events generalizing registry other number with
  | nil => rfl
  | cons event rest ih =>
      obtain ⟨hslot, hregistry⟩ :=
        hsame.recalled setting.cells event.object setting.template event.type.isNone
      simp only [jobsOf, hslot, ih hsame]
      split
      · rfl
      · split
        · split
          · rw [ih (hregistry.forgetUid _)]
          · rw [ih hregistry]
        · rfl

theorem events_jobsOf (setting : Setting) (registry : Registry) (number : Nat)
    (events : List Event) :
    (jobsOf setting registry number events).map (·.1.event) <+:
      events.filter fun event => event.type ≠ some .bookmark := by
  induction events generalizing registry number with
  | nil => exact List.nil_prefix
  | cons event rest ih =>
      rw [jobsOf]
      split
      · rename_i hbookmark
        rw [List.filter_cons_of_neg (by simpa using hbookmark)]
        exact ih _ _
      · rename_i hevent
        rw [List.filter_cons_of_pos (by simpa using hevent)]
        simp only
        split
        · rw [List.map_cons, List.prefix_cons_inj]
          exact ih _ _
        · exact List.nil_prefix

/-- What becomes of an event. -/
inductive Dispatched (setting : Setting) (state : State) (event : Event) :
    State × Option Failure → Prop where
  | bookmark (hbookmark : event.type = some .bookmark)
      (hjobs : ∀ number rest, jobsOf setting state.registry number (event :: rest) =
        jobsOf setting state.registry number rest) :
      Dispatched setting state event (state, none)
  | failed (failure : Failure) (duplications : Nat)
      (hjobs : ∀ number rest, jobsOf setting state.registry number (event :: rest) = []) :
      Dispatched setting state event ({ state with duplications }, some failure)
  | queued (uid : Text) (slot : Nat) (registry : Registry) (duplications : Nat)
      (hevent : event.type ≠ some .bookmark)
      (hkeeps : state.registry.IsRemembered → state.registry.Keeps slot registry)
      (hjobs : ∀ number rest, jobsOf setting state.registry number (event :: rest) =
        (⟨number, uid, event⟩, slot) :: jobsOf setting registry (number + 1) rest) :
      Dispatched setting state event
        ({ state with
            registry := registry.update slot fun memory =>
              { memory with queue := memory.queue.push ⟨state.queued, uid, event⟩ }
            queued := state.queued + 1
            duplications }, none)

/-- **An event is queued on the slot that is recalled for it**, unless it is a bookmark or fails. -/
theorem dispatched_dispatch (setting : Setting) (state : State) (event : Event) :
    Dispatched setting state event (state.dispatch setting event) := by
  rw [State.dispatch]
  split
  · rename_i hbookmark
    exact .bookmark hbookmark fun number rest => by rw [jobsOf, if_pos hbookmark]
  · rename_i hevent
    simp only
    split
    · rename_i failure hidentity
      refine .failed failure _ fun number rest => ?_
      simp only [jobsOf, if_neg hevent, hidentity]
    · rename_i failure hslot _
      refine .failed failure _ fun number rest => ?_
      simp only [jobsOf, if_neg hevent, hslot]
      cases event.object.identity <;> rfl
    · rename_i uid slot hidentity hslot
      refine .queued uid slot _ _ hevent (fun hremembered => ?_) fun number rest => ?_
      · have hkeeps := Registry.keeps_recalled hremembered hslot
        split
        · exact hkeeps.forgetUid uid
        · exact hkeeps
      · simp only [jobsOf, if_neg hevent, hidentity, hslot]

theorem now_dispatch (setting : Setting) (state : State) (event : Event) :
    (state.dispatch setting event).1.now = state.now := by
  have hdispatched := dispatched_dispatch setting state event
  generalize state.dispatch setting event = result at hdispatched
  cases hdispatched <;> rfl

/-! ### What the source does to the order -/

theorem uncalled_push (memory : Memory) (job : Job) :
    ({ memory with queue := memory.queue.push job } : Memory).uncalled =
      memory.uncalled ++ [job] := by
  simp only [Memory.uncalled, Queue.push]
  split <;> simp

theorem Held.congr {history : History} {slot : Nat} {now : Time} {memory other : Memory}
    (hheld : Held setting history slot now memory)
    (hrunning : other.queue.running = memory.queue.running)
    (hthrottler : other.throttler = memory.throttler) : Held setting history slot now other := by
  cases hheld with
  | quiet bound hbound hquiet =>
      exact .quiet bound (by rw [Memory.quietUntil?, hrunning]; exact hbound) hquiet
  | calling place time call hcalling hplace hslot hsame hothers =>
      exact .calling place time call (hrunning.trans hcalling) hplace hslot
        (hsame.trans hthrottler.symm) hothers

theorem jobsOn_concat (jobs : List (Job × Nat)) (job : Job) (slot place : Nat) :
    jobsOn place (jobs ++ [(job, slot)]) =
      if slot = place then jobsOn place jobs ++ [job] else jobsOn place jobs := by
  rw [jobsOn, List.filter_append, List.map_append, ← jobsOn]
  split <;> simp_all

/-- **A job more comes behind the others on its slot.** -/
theorem Tracks.push {slot : Nat} {registry : Registry} (htracks : Tracks setting jobs state)
    (hkeeps : state.registry.Keeps slot registry) (uid : Text) (event : Event)
    (duplications : Nat) :
    Tracks setting (jobs ++ [(⟨state.queued, uid, event⟩, slot)])
      { state with
        registry := registry.update slot fun memory =>
          { memory with queue := memory.queue.push ⟨state.queued, uid, event⟩ }
        queued := state.queued + 1
        duplications } where
  remembered := by
    simpa [Registry.IsRemembered, Registry.update] using hkeeps.isRemembered
  queued := by simp [htracks.queued]
  numbered := by
    rw [List.map_append, htracks.numbered, List.length_append, List.length_singleton,
      List.range_succ, htracks.queued]
    rfl
  uncalled place := by
    obtain ⟨hqueue, -⟩ := hkeeps.memory_eq place
    have hbefore := htracks.uncalled place
    rw [State.memoryAt, Memory.uncalled, ← hqueue, ← Memory.uncalled] at hbefore
    rw [State.memoryAt, Registry.memory_update hkeeps.slot_lt, jobsOn_concat]
    split
    · rw [uncalled_push, ← List.append_assoc, hbefore]
    · exact hbefore
  held place := by
    obtain ⟨hqueue, hthrottler⟩ := hkeeps.memory_eq place
    have hrunning := congrArg Queue.running hqueue
    rw [State.memoryAt, Registry.memory_update hkeeps.slot_lt]
    split
    · exact (htracks.held place).congr hrunning hthrottler
    · exact (htracks.held place).congr hrunning hthrottler
  apart := htracks.apart

theorem Tracks.later {time : Time} (htracks : Tracks setting jobs state) (hnow : state.now ≤ time) :
    Tracks setting jobs { state with now := time } where
  remembered := htracks.remembered
  queued := htracks.queued
  numbered := htracks.numbered
  uncalled := htracks.uncalled
  held slot := by
    have hnothing : HasNoCall slot [] := by simp [HasNoCall]
    have hheld := (htracks.held slot).append hnow hnothing
    rwa [List.append_nil] at hheld
  apart := htracks.apart

/-- What holds unless the stop signal has come, as far as it is known. -/
def TracksUnlessStopped (setting : Setting) (jobs : List (Job × Nat)) (state : State) : Prop :=
  state.isStopped = false → Tracks setting jobs state

theorem tracks_advanceBy (htracks : TracksUnlessStopped setting jobs state) (limit : Option Time)
    (steps : Nat) : TracksUnlessStopped setting jobs (State.advanceBy setting limit steps state) :=
  advanceBy_induction (P := TracksUnlessStopped setting jobs)
    (fun _ _ _ _ _ _ _ hmemory hnow _ hfired hstate hnext =>
      (hstate (hfired.isStopped hnow hnext)).fired hmemory hnow hfired hnext) steps state htracks

theorem isStopped_advanceBy (limit : Option Time) (steps : Nat) :
    (State.advanceBy setting limit steps state).isStopped = false → state.isStopped = false :=
  advanceBy_induction (P := fun next => next.isStopped = false → state.isStopped = false)
    (fun _ _ _ _ _ _ _ _ hnow _ hfired hstate hnext => hstate (hfired.isStopped hnow hnext)) steps
    state id

theorem now_advanceBy (setting : Setting) {time : Time} (hnow : state.now ≤ time) (steps : Nat) :
    (State.advanceBy setting (some time) steps state).now ≤ time :=
  advanceBy_induction (P := fun state => state.now ≤ time)
    (fun _ _ _ _ _ _ _ _ _ hlimit hfired hstate => hfired.now ▸ hlimit time rfl hstate) steps state
    hnow

theorem sameSlots_advanceBy (setting : Setting) (limit : Option Time) (steps : Nat)
    (state : State) :
    (State.advanceBy setting limit steps state).registry.SameSlots state.registry :=
  advanceBy_induction (P := fun next => next.registry.SameSlots state.registry)
    (fun _ _ _ _ _ _ _ _ _ _ hfired hstate =>
      ⟨hfired.slots.trans hstate.slots, by rw [hfired.memories, List.length_set, hstate.length]⟩)
    steps state ⟨rfl, rfl⟩

theorem queued_advanceBy (setting : Setting) (limit : Option Time) (steps : Nat) (state : State) :
    (State.advanceBy setting limit steps state).queued = state.queued :=
  advanceBy_induction (P := fun next => next.queued = state.queued)
    (fun _ _ _ _ _ _ _ _ _ _ hfired hstate => hfired.queued.trans hstate) steps state rfl

theorem sameSlots_wait (setting : Setting) (state : State) (time : Time) :
    (state.wait setting time).registry.SameSlots state.registry :=
  sameSlots_advanceBy setting (some time) state.work state

theorem isStopped_advanceBy_of_wait {time : Time} (hnow : state.now ≤ time)
    (hstopped : (state.wait setting time).isStopped = false) :
    (State.advanceBy setting (some time) state.work state).isStopped = false := by
  rw [Bool.eq_false_iff]
  intro hreached
  have hlater : (state.wait setting time).isStopped = true :=
    Clock.reached_of_le (now_advanceBy setting hnow state.work) hreached
  rw [hstopped] at hlater
  simp at hlater

theorem tracks_wait {time : Time} (hnow : state.now ≤ time)
    (htracks : TracksUnlessStopped setting jobs state) :
    TracksUnlessStopped setting jobs (state.wait setting time) := fun hstopped =>
  (tracks_advanceBy htracks (some time) state.work (isStopped_advanceBy_of_wait hnow hstopped)).later
    (now_advanceBy setting hnow state.work)

/-- What is known behind an event that was taken. -/
inductive Took (setting : Setting) (jobs : List (Job × Nat)) (state : State) (event : Event) :
    State × Taken → Prop where
  | goesOn (next : State) (jobs' : List (Job × Nat))
      (htracks : TracksUnlessStopped setting jobs' next)
      (hjobs : ∀ rest, jobs ++ jobsOf setting state.registry jobs.length (event :: rest) =
        jobs' ++ jobsOf setting next.registry jobs'.length rest)
      (hevents : jobs'.map (·.1.event) =
        jobs.map (·.1.event) ++ [event].filter fun event => event.type ≠ some .bookmark) :
      Took setting jobs state event (next, .goesOn)
  | leaves (next : State) (hstopped : next.isStopped = true) :
      Took setting jobs state event (next, .leaves)
  | fails (next : State) (failure : Failure) (htracks : TracksUnlessStopped setting jobs next)
      (hjobs : ∀ rest, jobsOf setting state.registry jobs.length (event :: rest) = []) :
      Took setting jobs state event (next, .fails failure)

theorem took_take {time : Time} (hnow : state.now ≤ time)
    (htracks : TracksUnlessStopped setting jobs state) (event : Event) :
    Took setting jobs state event (state.take setting time event) := by
  have hwaited := tracks_wait hnow htracks
  have hsame := sameSlots_wait setting state time
  have hreached : (state.wait setting time).now = time := rfl
  simp only [State.take]
  generalize state.wait setting time = waited at hwaited hsame hreached ⊢
  cases hstopped : waited.isStopped with
  | true => exact .leaves waited hstopped
  | false =>
      have htracked := hwaited hstopped
      have hle : waited.now ≤ time := hreached ▸ Int.le_refl _
      have hdispatched := dispatched_dispatch setting waited event
      rw [if_neg Bool.false_ne_true]
      generalize waited.dispatch setting event = result at hdispatched ⊢
      cases hdispatched with
      | bookmark hbookmark hjobs =>
          refine .goesOn _ jobs (tracks_wait hle hwaited) (fun rest => ?_) (by simp [hbookmark])
          rw [← jobsOf_congr hsame, hjobs, jobsOf_congr (sameSlots_wait setting waited time)]
      | failed failure duplications hjobs =>
          refine .fails _ failure (tracks_wait hle fun _ => ?_) fun rest => ?_
          · exact ⟨htracked.remembered, htracked.queued, htracked.numbered, htracked.uncalled,
              htracked.held, htracked.apart⟩
          · rw [← jobsOf_congr hsame, hjobs]
      | queued uid slot registry duplications hevent hkeeps hjobs =>
          have hpushed := htracked.push (hkeeps htracked.remembered) uid event duplications
          generalize hnext : ({ waited with
            registry := registry.update slot fun memory =>
              { memory with queue := memory.queue.push ⟨waited.queued, uid, event⟩ }
            queued := waited.queued + 1
            duplications } : State) = next at hpushed ⊢
          have hlater : (next.wait setting time).registry.SameSlots registry :=
            Registry.SameSlots.trans (sameSlots_wait setting next time)
              (hnext ▸ ⟨rfl, by simp [Registry.update]⟩)
          have hnow : next.now ≤ time := by rw [← hnext]; exact hle
          refine .goesOn _ _ (tracks_wait hnow fun _ => hpushed) (fun rest => ?_) (by simp [hevent])
          rw [← jobsOf_congr hsame, hjobs, jobsOf_congr hlater, htracked.queued, List.length_append,
            List.append_assoc]
          rfl

theorem now_le_delayed (state : State) (delay : Nat) : state.now ≤ state.now + delay :=
  Int.le_add_of_nonneg_right (Int.natCast_nonneg _)

/-- **A source of events is handled in order.** The jobs are those that its events would be without
any handling meanwhile. -/
theorem tracks_receive (deliveries : List Delivery) (delivered : Nat)
    (htracks : TracksUnlessStopped setting jobs state) :
    TracksUnlessStopped setting
      (jobs ++ jobsOf setting state.registry jobs.length (arrivals deliveries))
      (state.receive setting delivered deliveries).state := by
  -- What is taken moves from the jobs to come to those that are there.
  induction deliveries generalizing state delivered jobs with
  | nil => simpa [State.receive, arrivals, jobsOf] using htracks
  | cons delivery rest ih =>
      cases delivery with
      | failure delay error =>
          simp only [State.receive, arrivals, jobsOf, List.append_nil]
          exact tracks_wait (now_le_delayed state delay) htracks
      | event delay event =>
          have hnow := now_le_delayed state delay
          have htook := took_take hnow htracks event
          simp only [State.receive, arrivals]
          generalize state.take setting (state.now + delay) event = result at htook ⊢
          cases htook with
          | goesOn next jobs' htracks' hjobs _ =>
              rw [hjobs]
              exact ih (delivered + 1) htracks'
          | leaves next hstopped => exact fun hnot => by simp [hstopped] at hnot
          | fails next failure htracks' hjobs =>
              rw [hjobs, List.append_nil]
              exact htracks'

/-- Unless something fails, all events are handled but the bookmarks. -/
theorem events_receive (deliveries : List Delivery) (delivered : Nat)
    (htracks : TracksUnlessStopped setting jobs state)
    (hstopped : (state.receive setting delivered deliveries).state.isStopped = false)
    (hfailure : (state.receive setting delivered deliveries).failure = none) :
    (jobs ++ jobsOf setting state.registry jobs.length (arrivals deliveries)).map (·.1.event) =
      jobs.map (·.1.event) ++
        (arrivals deliveries).filter fun event => event.type ≠ some .bookmark := by
  induction deliveries generalizing state delivered jobs with
  | nil => simp [arrivals, jobsOf]
  | cons delivery rest ih =>
      cases delivery with
      | failure delay error => simp [State.receive] at hfailure
      | event delay event =>
          have hnow := now_le_delayed state delay
          have htook := took_take hnow htracks event
          simp only [State.receive] at hstopped hfailure
          generalize state.take setting (state.now + delay) event = result
            at htook hstopped hfailure
          cases htook with
          | goesOn next jobs' htracks' hjobs hevents =>
              rw [arrivals, hjobs, ih (delivered + 1) htracks' hstopped hfailure, hevents,
                List.append_assoc, ← List.filter_append, List.singleton_append]
          | leaves next hreached => simp [hreached] at hstopped
          | fails next failure htracks' hjobs => simp at hfailure

/-! ### The whole run -/

theorem uncalled_eq_nil (htracks : Tracks setting jobs state)
    (hidle : ∀ memory ∈ state.registry.memories, state.due? memory = none)
    (hsettles : ∀ place time call, state.trace[place]? = some (time, .called call) →
      (behaviourAt setting state.trace place call).duration.isSome = true) (slot : Nat) :
    (state.memoryAt slot).uncalled = [] := by
  have hheld := htracks.held slot
  rw [State.memoryAt] at hheld ⊢
  cases hmemory : state.registry.memories[slot]? with
  | none => rfl
  | some memory =>
      have hdue := hidle memory (List.mem_of_getElem? hmemory)
      rw [hmemory, Option.getD_some] at hheld
      rw [Option.getD_some, Memory.uncalled]
      rw [State.due?] at hdue
      rcases hrunning : memory.queue.running with _ | ⟨job, due | ⟨due, failure⟩ | due⟩
      · simpa [hrunning] using hdue
      · cases hstop : state.stop <;> simp [hrunning, Stage.due?, Clock.earlier, hstop] at hdue
      · -- A call under way never settles.
        cases hheld with
        | quiet bound hbound => simp [Memory.quietUntil?, hrunning] at hbound
        | calling place time call hcalling hplace =>
            obtain ⟨duration, hduration⟩ :=
              Option.isSome_iff_exists.mp (hsettles place time call hplace)
            rw [hcalling] at hdue
            simp [Stage.due?, Behaviour.settlesAt?, hduration] at hdue
      · cases hstop : state.stop <;> simp [hrunning, Stage.due?, Clock.earlier, hstop] at hdue

theorem Tracks.getElem?_number (htracks : Tracks setting jobs state) {job : Job} {slot : Nat}
    (hmem : (job, slot) ∈ jobs) : jobs[job.number]? = some (job, slot) := by
  obtain ⟨place, hplace⟩ := List.mem_iff_getElem?.mp hmem
  have hnumber := congrArg (·[place]?) htracks.numbered
  have hlt : place < jobs.length := (List.getElem?_eq_some_iff.mp hplace).1
  simp only [List.getElem?_map, hplace, Option.map_some, List.getElem?_range hlt,
    Option.some.injEq] at hnumber
  rw [hnumber]
  exact hplace

/-- What the handling of events comes to, if these are the jobs for them. -/
structure Run.Handles (setting : Setting) (events : List Event) (jobs : List (Job × Nat))
    (run : Run) : Prop where
  /-- The jobs are for the events that are no bookmarks, in the order of their arrival. -/
  arrival : jobs.map (·.1.event) <+: events.filter fun event => event.type ≠ some .bookmark
  /-- All of these events have a job if none of them fails. -/
  complete : run.failure = none →
    jobs.map (·.1.event) = events.filter fun event => event.type ≠ some .bookmark
  /-- A call is for a job, with its event, and on its slot. -/
  called : ∀ time call, (time, .called call) ∈ run.state.trace →
    jobs[call.job.number]? = some (call.job, call.slot)
  /-- No two calls are for the same job. -/
  once : (run.state.calls.map fun (_, call) => call.job.number).Nodup
  /-- If each call settles, there is a call for each job. -/
  all : (∀ place time call, run.state.trace[place]? = some (time, .called call) →
      (behaviourAt setting run.state.trace place call).duration.isSome = true) →
    ∀ job slot, (job, slot) ∈ jobs →
      ∃ time call, (time, .called call) ∈ run.state.trace ∧ call.job = job ∧ call.slot = slot
  /-- The calls on a slot come one after another, in the order of the jobs. -/
  apart : Apart setting run.state.trace

theorem number_ne (hapart : Apart setting state.trace)
    (hcalled : ∀ time call, (time, .called call) ∈ state.trace →
      jobs[call.job.number]? = some (call.job, call.slot)) {first second : Nat}
    (hlt : first < second) {time later : Time} {call next : Call}
    (hfirst : state.trace[first]? = some (time, .called call))
    (hsecond : state.trace[second]? = some (later, .called next)) :
    call.job.number ≠ next.job.number := by
  intro hsame
  have hjob := hcalled time call (List.mem_of_getElem? hfirst)
  rw [hsame, hcalled later next (List.mem_of_getElem? hsecond), Option.some.injEq,
    Prod.mk.injEq] at hjob
  have hnumber := (hapart first second time later call next hlt hfirst hsecond hjob.2.symm).1
  omega

theorem nodup_numbers (hapart : Apart setting state.trace)
    (hcalled : ∀ time call, (time, .called call) ∈ state.trace →
      jobs[call.job.number]? = some (call.job, call.slot)) :
    (state.calls.map fun (_, call) => call.job.number).Nodup := by
  rw [List.Nodup, List.pairwise_map, State.calls, List.pairwise_filterMap,
    List.pairwise_iff_getElem]
  intro first second hfirst hsecond hlt call hcall next hnext
  rcases hentry : state.trace[first] with ⟨time, found | _ | _⟩
  · rcases hother : state.trace[second] with ⟨later, other | _ | _⟩
    · rw [hentry, Option.some.injEq] at hcall
      rw [hother, Option.some.injEq] at hnext
      subst hcall hnext
      exact number_ne hapart hcalled hlt (List.getElem?_eq_some_iff.mpr ⟨hfirst, hentry⟩)
        (List.getElem?_eq_some_iff.mpr ⟨hsecond, hother⟩)
    · simp [hother] at hnext
    · simp [hother] at hnext
  · simp [hentry] at hcall
  · simp [hentry] at hcall

theorem tracks_of_isIdle (hidle : registry.IsIdle) (now : Time) (stop : Option Time) :
    Tracks setting [] { now, stop, registry } := by
  have hempty (slot : Nat) :
      (registry.memories[slot]?.getD {}).queue.running = none ∧
        (registry.memories[slot]?.getD {}).queue.waiting = [] := by
    cases hmemory : registry.memories[slot]? with
    | none => exact ⟨rfl, rfl⟩
    | some memory =>
        have hqueue := hidle.isIdle memory (List.mem_of_getElem? hmemory)
        simpa [Queue.isIdle] using hqueue
  refine ⟨hidle.isRemembered, rfl, rfl, fun slot => ?_, fun slot => ?_, ?_⟩
  · obtain ⟨hrunning, hwaiting⟩ := hempty slot
    rw [State.memoryAt, Memory.uncalled, hrunning, hwaiting]
    rfl
  · refine .quiet now ?_ (by simp [Quiet])
    rw [State.memoryAt, Memory.quietUntil?, (hempty slot).1]
  · simp [Apart]

/-- Calls that settle leave no job behind, so that each job has had its call. -/
theorem exists_called (htracks : Tracks setting jobs state)
    (hidle : ∀ memory ∈ state.registry.memories, state.due? memory = none)
    (hsettles : ∀ place time call, state.trace[place]? = some (time, .called call) →
      (behaviourAt setting state.trace place call).duration.isSome = true) (job : Job) (slot : Nat)
    (hmem : (job, slot) ∈ jobs) :
    ∃ time call, (time, .called call) ∈ state.trace ∧ call.job = job ∧ call.slot = slot := by
  have hall := htracks.uncalled slot
  rw [uncalled_eq_nil htracks hidle hsettles slot, List.append_nil] at hall
  have hjob : job ∈ calledOn slot state.trace := hall ▸ mem_jobsOn.mpr hmem
  exact of_mem_calledOn hjob

/-- The end of a run is only logged. -/
theorem exists_finish (setting : Setting) (run : Run) :
    ∃ log, (run.finish setting).state = { run.state.finish setting with log } ∧
      (run.finish setting).failure = run.failure := by
  simp only [Run.finish]
  split <;> exact ⟨_, rfl, rfl⟩

/-- **What is known of a run in which the stop signal does not come.** -/
theorem tracks_run (hidle : registry.IsIdle) (now : Time) (stop : Option Time)
    (deliveries : List Delivery)
    (hstopped : (run setting { now, stop, registry } deliveries).state.isStopped = false) :
    let run := run setting { now, stop, registry } deliveries
    Tracks setting (jobsOf setting registry 0 (arrivals deliveries)) run.state ∧
      (∀ memory ∈ run.state.registry.memories, run.state.due? memory = none) ∧
      (run.failure = none → (jobsOf setting registry 0 (arrivals deliveries)).map (·.1.event) =
        (arrivals deliveries).filter fun event => event.type ≠ some .bookmark) := by
  have hstart : TracksUnlessStopped setting [] { now, stop, registry } :=
    fun _ => tracks_of_isIdle hidle now stop
  have hreceived := tracks_receive deliveries 0 hstart
  have hevents := events_receive deliveries 0 hstart
  rw [run] at hstopped ⊢
  generalize State.receive setting { now, stop, registry } 0 deliveries = received
    at hreceived hevents hstopped ⊢
  have hfinished := tracks_advanceBy hreceived none received.state.work
  have hdue := due?_finish setting received.state
  obtain ⟨log, hstate, hfailure⟩ := exists_finish setting received
  rw [hstate] at hstopped
  obtain ⟨hremembered, hqueued, hnumbered, huncalled, hheld, hapart⟩ := hfinished hstopped
  simp only [hstate, hfailure]
  refine ⟨⟨hremembered, hqueued, hnumbered, huncalled, hheld, hapart⟩, hdue, ?_⟩
  exact hevents (isStopped_advanceBy none received.state.work hstopped)

/-- **Each event is handled once, and in order.** Events that are no bookmarks become jobs, on the
slots that are recalled for them. As long as the stop signal does not come, the handler is called
for these jobs, at most once each and exactly once if it always settles, and on a slot for one after
another: each call comes behind the end of the one before it and of the wait that this one leads
to. -/
theorem run_handles (setting : Setting) (hidle : registry.IsIdle) (now : Time) (stop : Option Time)
    (deliveries : List Delivery)
    (hstopped : (run setting { now, stop, registry } deliveries).state.isStopped = false) :
    (run setting { now, stop, registry } deliveries).Handles setting (arrivals deliveries)
      (jobsOf setting registry 0 (arrivals deliveries)) := by
  obtain ⟨htracks, hdue, hevents⟩ := tracks_run hidle now stop deliveries hstopped
  have hcalled : ∀ time call,
      (time, .called call) ∈ (run setting { now, stop, registry } deliveries).state.trace →
        (jobsOf setting registry 0 (arrivals deliveries))[call.job.number]? =
          some (call.job, call.slot) := by
    intro time call hcall
    have hmem : call.job ∈ jobsOn call.slot (jobsOf setting registry 0 (arrivals deliveries)) := by
      rw [← htracks.uncalled call.slot]
      exact List.mem_append_left _ (mem_calledOn hcall)
    exact htracks.getElem?_number (mem_jobsOn.mp hmem)
  exact {
    arrival := events_jobsOf setting registry 0 (arrivals deliveries)
    complete := hevents
    called := hcalled
    once := nodup_numbers htracks.apart hcalled
    all := exists_called htracks hdue
    apart := htracks.apart }

/-- An object with nothing but its identity. -/
def identified (uid : Text) : Object :=
  [("metadata", .obj [("uid", .str uid)])]

/-- The first call takes some time and fails. -/
def clumsy : Setting where
  handler _ number :=
    if number = 0 then { duration := some 5, failure := some (.error "Error" "boom") } else {}
  template := none
  delays := [10]

/-- A resource that is known beforehand. -/
def known : Registry := (Registry.recalled {} [] (identified "a") none false).registry

/-- The resource is modified, deleted and made anew. -/
def replaced : List Delivery :=
  [.event 1 ⟨some .modified, identified "a"⟩, .event 0 ⟨some .bookmark, identified "b"⟩,
    .event 2 ⟨some .deleted, identified "a"⟩, .event 2 ⟨some .added, identified "a"⟩]

theorem run_handles_replaced :
    known.IsIdle ∧
      (run clumsy { now := 0, stop := some 99, registry := known } replaced).state.isStopped =
        false ∧
      (run clumsy { now := 0, stop := some 99, registry := known } replaced).Handles clumsy
        (arrivals replaced) (jobsOf clumsy known 0 (arrivals replaced)) := by
  have hidle : known.IsIdle :=
    (Registry.keeps_recalled Registry.isIdle_empty.isRemembered rfl).isIdle
      Registry.isIdle_empty
  have hstopped :
      (run clumsy { now := 0, stop := some 99, registry := known } replaced).state.isStopped =
        false := by
    decide +kernel
  exact ⟨hidle, hstopped, run_handles clumsy hidle 0 (some 99) replaced hstopped⟩

end Processing

end ResourceWatch
