import ResourceWatch.Proofs.Reactor.Refusals

/-!
# Slots as a matter of the events alone

While a source gives its events, the handler is at work for earlier ones, perhaps on slots that are
forgotten by then. Nothing of this shows in the registry: which slots there are, for which
resources, and what was noticed by listing, is what a plain pass over the jobs leaves behind,
however the handler behaves, whatever the delays are, and at whatever times the events come. How far
the events are taken, and what a run fails with, shows in what its source gives.
-/

namespace ResourceWatch

namespace Processing

variable {setting : Setting} {registry : Registry} {event : Event} {uid : Text} {slot : Nat}
  {jobs : List (Job × Nat)}

/-! ### What a run does to the slots -/

variable {state next : State} {limit : Option Time} {time due : Time} {memory : Memory}

/-- The jobs that a slot was handed: those for which the handler was called on it, and those that
wait on it. -/
def State.handed (state : State) (slot : Nat) : List Job :=
  calledOn slot state.trace ++ (state.memoryAt slot).uncalled

/-- How a run reflects the jobs that were queued: its registry is the one that they leave behind,
and each slot was handed those that are on it. -/
structure Reflects (setting : Setting) (registry : Registry) (jobs : List (Job × Nat))
    (state : State) : Prop where
  alike : state.registry.Alike (behind setting registry jobs)
  handed : ∀ slot, state.handed slot =
    (registry.memories[slot]?.getD {}).uncalled ++ jobsOn slot jobs
  queued : state.queued = jobs.length
  told : ∀ time call, (time, .called call) ∈ state.trace →
    state.registry.memories[call.slot]?.map Memory.noticedByListing =
      some call.memory.noticedByListing

def ReflectsUnlessStopped (setting : Setting) (registry : Registry) (jobs : List (Job × Nat))
    (state : State) : Prop :=
  state.isStopped = false → Reflects setting registry jobs state

theorem noticed_plan {throttling : Throttling.Setting} {stop : Option Time} {plan : Plan}
    (hplan : plan? throttling stop time slot memory = some plan) :
    plan.memory.noticedByListing = memory.noticedByListing ∧
      ∀ call, .called call ∉ plan.settled := by
  unfold plan? at hplan
  split at hplan
  · obtain ⟨⟨job, queue⟩, -, rfl⟩ := Option.map_eq_some_iff.mp hplan
    exact ⟨rfl, by simp⟩
  · rename_i job stage hrunning
    obtain rfl := Option.some.inj hplan
    refine ⟨rfl, ?_⟩
    cases stage <;> simp

theorem noticed_proceeded (setting : Setting) (state : State) (slot : Nat) (memory : Memory)
    (job : Job) (step : Throttling.Step) :
    (proceeded setting state slot memory job step).1.noticedByListing = memory.noticedByListing ∧
      ∀ call, .called call ∈ (proceeded setting state slot memory job step).2 →
        call.slot = slot ∧ call.memory.noticedByListing = memory.noticedByListing := by
  unfold proceeded
  cases hnext : step.next with
  | wait stage => exact ⟨rfl, by simp⟩
  | call =>
      refine ⟨rfl, fun call hcall => ?_⟩
      obtain rfl := Happening.called.inj (List.mem_singleton.mp hcall)
      exact ⟨rfl, rfl⟩
  | «over» succeeded => exact ⟨rfl, by simp⟩

/-- A step changes nothing about what was noticed by listing, and hands a call the memory of its
slot. -/
theorem noticed_goOn (setting : Setting) (hnext : state.next? limit = some (due, slot)) :
    (state.goOn setting slot due).registry.Alike state.registry ∧
      ∀ time call, (time, .called call) ∈ (state.goOn setting slot due).trace →
        (time, .called call) ∈ state.trace ∨
          state.registry.memories[call.slot]?.map Memory.noticedByListing =
            some call.memory.noticedByListing := by
  have hdue := dueAt?_of_next? hnext
  have hmemory := getElem?_of_dueAt? hdue
  obtain ⟨plan, hplan⟩ :=
    exists_plan setting.throttling state.stop (max state.now due) slot hdue
  have hframed := framed_fire setting hmemory hplan
  obtain ⟨hkeeps, hsettled⟩ := noticed_plan hplan
  obtain ⟨hafter, hcalled⟩ := noticed_proceeded setting { state with now := max state.now due }
    slot plan.memory plan.job plan.step
  rw [State.goOn]
  generalize proceeded setting { state with now := max state.now due } slot plan.memory plan.job
    plan.step = result at hframed hafter hcalled
  refine ⟨⟨hframed.slots, ?_⟩, fun time call hcall => ?_⟩
  · rw [hframed.memories, List.map_set]
    refine List.ext_getElem? fun place => ?_
    rw [List.getElem?_set]
    split
    · rename_i hsame
      subst hsame
      rw [List.getElem?_map, hmemory, List.length_map,
        if_pos (List.getElem?_eq_some_iff.mp hmemory).1, hafter, hkeeps, Option.map_some]
    · rfl
  · rw [hframed.trace] at hcall
    rcases List.mem_append.mp hcall with hold | hadded
    · exact .inl hold
    · obtain ⟨happening, hmem, heq⟩ := List.mem_map.mp hadded
      obtain ⟨-, rfl⟩ := Prod.mk.inj heq
      rcases List.mem_append.mp hmem with hmem | hmem
      · exact absurd hmem (hsettled call)
      · obtain ⟨rfl, hnoticed⟩ := hcalled call hmem
        exact .inr (by rw [hmemory, Option.map_some, hnoticed, hkeeps])

theorem Reflects.goOn (hreflects : Reflects setting registry jobs state)
    (hnext : state.next? limit = some (due, slot))
    (hstopped : (state.goOn setting slot due).isStopped = false) :
    Reflects setting registry jobs (state.goOn setting slot due) := by
  obtain ⟨hregistry, hcalls⟩ := noticed_goOn setting hnext
  obtain ⟨after, added, hfired⟩ := fired_goOn setting hnext
  have hmemory := getElem?_of_dueAt? (dueAt?_of_next? hnext)
  obtain ⟨-, hgoing⟩ := hfired.stop_eq hstopped
  refine ⟨hregistry.trans hreflects.alike, fun place => ?_, ?_, fun time call hcall => ?_⟩
  · rw [← hreflects.handed place]
    exact hfired.jobs_eq hmemory hgoing place
  · exact hfired.queued.trans hreflects.queued
  · rw [hregistry.noticed_eq]
    rcases hcalls time call hcall with hold | hnew
    · exact hreflects.told time call hold
    · exact hnew

theorem reflectsUnlessStopped_advanceBy
    (hreflects : ReflectsUnlessStopped setting registry jobs state) (limit : Option Time)
    (steps : Nat) :
    ReflectsUnlessStopped setting registry jobs (State.advanceBy setting limit steps state) := by
  induction steps generalizing state with
  | zero => exact hreflects
  | succ steps ih =>
      cases hnext : state.next? limit with
      | none =>
          rw [advanceBy_of_next?_eq_none hnext]
          exact hreflects
      | some found =>
          obtain ⟨due, slot⟩ := found
          rw [advanceBy_succ hnext]
          refine ih fun hstopped => ?_
          obtain ⟨after, added, hfired⟩ := fired_goOn setting hnext
          have hbefore := hfired.isStopped (Int.le_max_left _ _) hstopped
          exact (hreflects hbefore).goOn hnext hstopped

theorem reflectsUnlessStopped_wait (hnow : state.now ≤ time)
    (hreflects : ReflectsUnlessStopped setting registry jobs state) :
    ReflectsUnlessStopped setting registry jobs (state.wait setting time) := by
  intro hstopped
  obtain ⟨halike, hhanded, hqueued, htold⟩ := reflectsUnlessStopped_advanceBy hreflects (some time)
    state.work (isStopped_advanceBy_of_wait hnow hstopped)
  exact ⟨halike, hhanded, hqueued, htold⟩

theorem Reflects.isRemembered (hreflects : Reflects setting registry jobs state)
    (hkept : registry.IsKept) : state.registry.IsRemembered := by
  have hsame := hreflects.alike.sameSlots
  intro pair hpair
  rw [hsame.length]
  exact (isKept_behind hkept jobs).remembered pair (hsame.slots ▸ hpair)

theorem keeps_remembered (hremembered : registry.IsRemembered)
    (hslot : (registry.recalled setting.cells event.object setting.template
      event.type.isNone).slot = .ok slot) (uid : Text) :
    registry.Keeps slot (remembered setting registry event uid) :=
  remembered_of_forgetUid (P := fun next => registry.Keeps slot next)
    (Registry.keeps_recalled hremembered hslot) fun _ hkeeps => hkeeps.forgetUid uid

theorem Reflects.push (hreflects : Reflects setting registry jobs state) (hkept : registry.IsKept)
    (hslot : (state.registry.recalled setting.cells event.object setting.template
      event.type.isNone).slot = .ok slot) (uid : Text) (duplications : Nat) :
    Reflects setting registry (jobs ++ [(⟨state.queued, uid, event⟩, slot)])
      { state with
        registry := (remembered setting state.registry event uid).update slot fun memory =>
          { memory with queue := memory.queue.push ⟨state.queued, uid, event⟩ }
        queued := state.queued + 1
        duplications } := by
  have hkeeps := keeps_remembered (hreflects.isRemembered hkept) hslot uid
  have hpushed := Registry.alike_update (remembered setting state.registry event uid) slot
    (fun memory => { memory with queue := memory.queue.push ⟨state.queued, uid, event⟩ })
    fun _ => rfl
  refine ⟨?_, fun place => ?_, ?_, fun time call hcall => ?_⟩
  · rw [behind_append]
    exact hpushed.trans (remembered_congr hreflects.alike event uid)
  · obtain ⟨hqueue, -⟩ := hkeeps.memory_eq place
    have hhanded := hreflects.handed place
    rw [State.handed, State.memoryAt, Memory.uncalled, ← hqueue, ← Memory.uncalled] at hhanded
    rw [State.handed, State.memoryAt, Registry.memory_update hkeeps.slot_lt, jobsOn_concat]
    split
    · rw [uncalled_push, ← List.append_assoc, hhanded, List.append_assoc]
    · exact hhanded
  · rw [List.length_append, List.length_singleton, hreflects.queued]
  · have htold := hreflects.told time call hcall
    rw [hpushed.noticed_eq]
    rcases hkeeps.memories with hmemories | ⟨memo, listed, hmemories⟩
    · rw [hmemories, htold]
    · have hlt : call.slot < state.registry.memories.length := by
        by_contra hle
        rw [List.getElem?_eq_none (Nat.le_of_not_lt hle)] at htold
        simp at htold
      rw [hmemories, List.getElem?_append_left hlt, htold]

/-- What an event comes to that is taken. -/
inductive Gives (setting : Setting) (registry : Registry) (jobs : List (Job × Nat)) (state : State)
    (event : Event) : State × Taken → Prop where
  | goesOn (next : State) (more : List (Job × Nat))
      (hreflects : ReflectsUnlessStopped setting registry (jobs ++ more) next)
      (hjobs : ∀ rest, jobsOf setting state.registry jobs.length (event :: rest) =
        more ++ jobsOf setting next.registry (jobs ++ more).length rest)
      (hrefusal : ∀ rest, refusal? setting state.registry (event :: rest) =
        refusal? setting next.registry rest) :
      Gives setting registry jobs state event (next, .goesOn)
  | leaves (next : State) (hstopped : next.isStopped = true) :
      Gives setting registry jobs state event (next, .leaves)
  | fails (next : State) (failure : Failure)
      (hreflects : ReflectsUnlessStopped setting registry jobs next)
      (hjobs : ∀ rest, jobsOf setting state.registry jobs.length (event :: rest) = [])
      (hrefusal : ∀ rest, refusal? setting state.registry (event :: rest) = some failure) :
      Gives setting registry jobs state event (next, .fails failure)

theorem gives_dispatch (hkept : registry.IsKept) (hreflects : Reflects setting registry jobs state)
    (hnow : state.now ≤ time) (event : Event) :
    Gives setting registry jobs state event
      (((state.dispatch setting event).1.wait setting time),
        (state.dispatch setting event).2.elim .goesOn .fails) := by
  have hlater (next : State) := sameSlots_wait setting next time
  by_cases hevent : event.type = some .bookmark
  · have hpassed (rest : List Event) :=
      jobsOf_bookmark setting state.registry jobs.length rest hevent
    rw [State.dispatch, if_pos hevent]
    refine .goesOn _ [] ?_ (fun rest => ?_) fun rest => ?_
    · rw [List.append_nil]
      exact reflectsUnlessStopped_wait hnow fun _ => hreflects
    · rw [jobsOf_congr (hlater state), List.append_nil, List.nil_append, (hpassed rest).1]
    · rw [refusal?_congr (hlater state), (hpassed rest).2]
  · rw [State.dispatch, if_neg hevent]
    cases hslot : (state.registry.recalled setting.cells event.object setting.template
        event.type.isNone).slot with
    | error failure =>
        have hrefused (rest : List Event) := jobsOf_refused hevent hslot jobs.length rest
        have hfailed (duplications : Nat) :
            ReflectsUnlessStopped setting registry jobs
              (State.wait setting { state with duplications } time) :=
          reflectsUnlessStopped_wait hnow fun _ =>
            ⟨hreflects.alike, hreflects.handed, hreflects.queued, hreflects.told⟩
        cases hidentity : event.object.identity with
        | error found =>
            obtain rfl : found = failure := by simpa [Registry.recalled, hidentity] using hslot
            exact .fails _ _ (hfailed _) (fun rest => (hrefused rest).1)
              fun rest => (hrefused rest).2
        | ok uid =>
            simp only [hslot]
            exact .fails _ _ (hfailed _) (fun rest => (hrefused rest).1)
              fun rest => (hrefused rest).2
    | ok slot =>
        obtain ⟨uid, hidentity, -⟩ := Registry.recalled_cases hslot
        have hrecalled (rest : List Event) :=
          jobsOf_recalled hevent hidentity hslot jobs.length rest
        simp only [hidentity, hslot]
        refine .goesOn _ [(⟨state.queued, uid, event⟩, slot)]
          (reflectsUnlessStopped_wait hnow fun _ => hreflects.push hkept hslot uid _)
          (fun rest => ?_) fun rest => ?_
        · rw [(hrecalled rest).1, jobsOf_congr (hlater _), hreflects.queued, List.length_append,
            List.length_singleton, List.singleton_append, List.cons.injEq]
          exact ⟨rfl, jobsOf_congr (Registry.sameSlots_update _ slot _) _ rest⟩
        · rw [(hrecalled rest).2, refusal?_congr (hlater _)]
          exact refusal?_congr (Registry.sameSlots_update _ slot _) rest

theorem gives_take (hkept : registry.IsKept)
    (hreflects : ReflectsUnlessStopped setting registry jobs state) (hnow : state.now ≤ time)
    (event : Event) :
    Gives setting registry jobs state event (state.take setting time event) := by
  cases hstopped : (state.wait setting time).isStopped with
  | true =>
      simp only [State.take, hstopped, if_true]
      exact .leaves _ hstopped
  | false =>
      have hwaited := reflectsUnlessStopped_wait hnow hreflects hstopped
      have hreached : (state.wait setting time).now = time := rfl
      have hgives := gives_dispatch hkept hwaited (Int.le_of_eq hreached) event
      have hsame := sameSlots_wait setting state time
      rw [take_eq hstopped]
      generalize (((state.wait setting time).dispatch setting event).1.wait setting time,
        ((state.wait setting time).dispatch setting event).2.elim Taken.goesOn .fails) = result
        at hgives ⊢
      cases hgives with
      | goesOn next more hreflects hjobs hrefusal =>
          exact .goesOn next more hreflects
            (fun rest => (jobsOf_congr hsame _ _).symm.trans (hjobs rest))
            fun rest => (refusal?_congr hsame _).symm.trans (hrefusal rest)
      | leaves next hreached => exact .leaves next hreached
      | fails next failure hreflects hjobs hrefusal =>
          exact .fails next failure hreflects
            (fun rest => (jobsOf_congr hsame _ _).symm.trans (hjobs rest))
            fun rest => (refusal?_congr hsame _).symm.trans (hrefusal rest)

/-- What a source fails with. -/
def sourceFailure? : List Delivery → Option Failure
  | .event _ _ :: rest => sourceFailure? rest
  | .failure _ error :: _ => some (.external error)
  | [] => none

theorem reflects_receive (hkept : registry.IsKept) (deliveries : List Delivery) (delivered : Nat)
    (hreflects : ReflectsUnlessStopped setting registry jobs state)
    (hstopped : (state.receive setting delivered deliveries).state.isStopped = false) :
    Reflects setting registry
        (jobs ++ jobsOf setting state.registry jobs.length (arrivals deliveries))
        (state.receive setting delivered deliveries).state ∧
      (state.receive setting delivered deliveries).failure =
        (refusal? setting state.registry (arrivals deliveries)).or (sourceFailure? deliveries) := by
  induction deliveries generalizing state delivered jobs with
  | nil =>
      simp only [arrivals, jobsOf, List.append_nil]
      exact ⟨hreflects hstopped, rfl⟩
  | cons delivery rest ih =>
      cases delivery with
      | failure delay error =>
          simp only [arrivals, jobsOf, List.append_nil]
          exact ⟨reflectsUnlessStopped_wait (now_le_delayed state delay) hreflects hstopped, rfl⟩
      | event delay event =>
          have hgives := gives_take hkept hreflects (now_le_delayed state delay) event
          rw [State.receive] at hstopped ⊢
          rw [arrivals, sourceFailure?]
          generalize state.take setting (state.now + delay) event = result at hgives hstopped ⊢
          cases hgives with
          | goesOn next more hnext hjobs hrefusal =>
              rw [hjobs, ← List.append_assoc, hrefusal]
              exact ih (delivered + 1) hnext hstopped
          | leaves next hreached =>
              rw [hreached] at hstopped
              exact absurd hstopped (by simp)
          | fails next failure hnext hjobs hrefusal =>
              rw [hjobs, List.append_nil, hrefusal]
              exact ⟨hnext hstopped, rfl⟩

/-! ### The whole run -/

/-- What a run on a registry comes to, if these are the jobs for what its source gives. -/
structure Run.Assigns (template : Option Template) (cells : Cells) (registry : Registry)
    (deliveries : List Delivery) (jobs : List (Job × Nat)) (run : Run) : Prop where
  /-- There is a job for each event that is no bookmark, up to the first one that is refused. The
  run fails with what this one is refused with, or else with what its source fails with. -/
  admitted : ∃ taken refusal,
    Admits template cells registry (arrivals deliveries) taken refusal ∧
      jobs.map (·.1.event) = (taken.filter fun event => event.type ≠ some .bookmark) ∧
      run.failure = refusal.or (sourceFailure? deliveries)
  identity : ∀ job slot, (job, slot) ∈ jobs → job.event.object.identity = .ok job.uid
  /-- The handler is called on each slot, or will be, for the jobs that are on it, in their order,
  behind what waited on it at the start. -/
  handed : ∀ slot, run.state.handed slot =
    (registry.memories[slot]?.getD {}).uncalled ++ jobsOn slot jobs
  /-- Two jobs of a resource are on one slot exactly if none from the first of them on up to the
  second is for its deletion. -/
  slot_eq_iff : ∀ first last job next slot found, first < last →
    jobs[first]? = some (job, slot) → jobs[last]? = some (next, found) → next.uid = job.uid →
    (found = slot ↔ IsKept jobs job.uid first last)
  /-- A slot that is new is for the first of its jobs. -/
  noticed : ∀ slot memory, registry.memories.length ≤ slot →
    run.state.registry.memories[slot]? = some memory →
      ∃ job rest, jobsOn slot jobs = job :: rest ∧
        memory.noticedByListing = job.event.type.isNone
  /-- Each call is told the same. -/
  told : ∀ time call, (time, .called call) ∈ run.state.trace →
    run.state.registry.memories[call.slot]?.map Memory.noticedByListing =
      some call.memory.noticedByListing
  /-- Those resources are remembered at the end whose last job is not for their deletion, and those
  that were known and have no job. -/
  remembered : ∀ uid, uid ∈ run.state.registry.uids ↔ Remains registry jobs uid

theorem reflects_start (setting : Setting) (registry : Registry) (now : Time) (stop : Option Time) :
    ReflectsUnlessStopped setting registry [] { now, stop, registry } := fun _ =>
  ⟨⟨rfl, rfl⟩, fun _ => (List.append_nil _).symm, rfl, fun _ _ hcall => absurd hcall (by simp)⟩

theorem reflects_run (hkept : registry.IsKept) (now : Time) (stop : Option Time)
    (deliveries : List Delivery)
    (hstopped : (run setting { now, stop, registry } deliveries).state.isStopped = false) :
    Reflects setting registry (jobsOf setting registry 0 (arrivals deliveries))
        (run setting { now, stop, registry } deliveries).state ∧
      (run setting { now, stop, registry } deliveries).failure =
        (refusal? setting registry (arrivals deliveries)).or (sourceFailure? deliveries) := by
  have hreceived := reflects_receive hkept deliveries 0 (reflects_start setting registry now stop)
  rw [run] at hstopped ⊢
  generalize State.receive setting { now, stop, registry } 0 deliveries = received
    at hreceived hstopped ⊢
  obtain ⟨log, hstate, hfailure⟩ := exists_finish setting received
  rw [hstate] at hstopped
  obtain ⟨-, hfails⟩ := hreceived (isStopped_advanceBy none received.state.work hstopped)
  obtain ⟨halike, hhanded, hqueued, htold⟩ := reflectsUnlessStopped_advanceBy
    (fun hgoing => (hreceived hgoing).1) none received.state.work hstopped
  rw [hstate, hfailure]
  exact ⟨⟨halike, hhanded, hqueued, htold⟩, hfails⟩

/-- The jobs depend on the settings by the template alone. -/
theorem jobsOf_settings (first second : Setting) (htemplate : first.template = second.template)
    (hcells : first.cells = second.cells) (registry : Registry) (number : Nat)
    (events : List Event) :
    jobsOf first registry number events = jobsOf second registry number events := by
  induction events generalizing registry number with
  | nil => rfl
  | cons event rest ih => simp only [jobsOf, htemplate, hcells, ih]

theorem Reflects.assigns {run : Run} {deliveries : List Delivery} (hkept : registry.IsKept)
    (hreflects : Reflects setting registry (jobsOf setting registry 0 (arrivals deliveries))
      run.state)
    (hfailure : run.failure =
      (refusal? setting registry (arrivals deliveries)).or (sourceFailure? deliveries)) :
    run.Assigns setting.template setting.cells registry deliveries
      (jobsOf setting registry 0 (arrivals deliveries)) := by
  have hassigned := assigned_jobsOf setting registry 0 (arrivals deliveries)
  refine ⟨?_, fun _ _ => identity_jobsOf 0 _, hreflects.handed, ?_, ?_, hreflects.told,
    fun uid => ?_⟩
  · obtain ⟨taken, hadmits, hevents⟩ := admits_jobsOf setting registry 0 (arrivals deliveries)
    exact ⟨taken, _, hadmits, hevents, hfailure⟩
  · intro first last job next slot found hlt hfirst hlast huid
    constructor
    · rintro rfl
      exact hassigned.isKept_of_slot_eq hkept hlt hfirst hlast
    · intro hkept
      exact slot_eq_of_isKept 0 _ hlt hfirst hlast huid hkept
  · intro slot memory hle hmemory
    have halike := hreflects.alike.noticed_eq slot
    rw [hmemory, Option.map_some] at halike
    obtain ⟨plain, hplain, hsame⟩ := Option.map_eq_some_iff.mp halike.symm
    obtain ⟨job, rest, hjobs, hnoticed⟩ := hassigned.noticed hkept hle hplain
    exact ⟨job, rest, hjobs, hsame ▸ hnoticed⟩
  · rw [← hassigned.mem_uids_iff, Registry.uids, hreflects.alike.slots, ← Registry.uids]

/-- **Slots are a matter of the events alone.** For a registry, a template and the events of a
source there are jobs on slots that every run comes to, whatever its handler does, whatever its
delays are, and at whatever times the events come, as long as the stop signal does not. All events
have their jobs up to the first one that is refused, at which the run fails. Two jobs of a resource
are on one slot exactly if it is not deleted in between, a new slot tells whether its first event is
of a listing, and at the end those resources are remembered whose last event is not their
deletion. -/
theorem run_assigns (template : Option Template) (cells : Cells) (hkept : registry.IsKept)
    (events : List Event) :
    ∃ jobs, ∀ (handler : Handler) (delays : List Number) (now : Time) (stop : Option Time)
      (deliveries : List Delivery), arrivals deliveries = events →
      (run ⟨handler, template, cells, delays⟩ { now, stop, registry } deliveries).state.isStopped =
        false →
      (run ⟨handler, template, cells, delays⟩ { now, stop, registry } deliveries).Assigns template
        cells registry deliveries jobs := by
  refine ⟨jobsOf ⟨fun _ _ => {}, template, cells, []⟩ registry 0 events, ?_⟩
  rintro handler delays now stop deliveries rfl hstopped
  obtain ⟨hreflects, hfailure⟩ := reflects_run hkept now stop deliveries hstopped
  have hsettings := jobsOf_settings ⟨fun _ _ => {}, template, cells, []⟩
    ⟨handler, template, cells, delays⟩ rfl rfl registry 0 (arrivals deliveries)
  rw [hsettings]
  generalize run ⟨handler, template, cells, delays⟩ { now, stop, registry } deliveries = final
    at hreflects hfailure ⊢
  exact hreflects.assigns hkept hfailure

/-- A run that does not fail has a job for each event that is no bookmark. -/
theorem Run.Assigns.complete {run : Run} {template : Option Template} {cells : Cells}
    {deliveries : List Delivery}
    (hassigns : run.Assigns template cells registry deliveries jobs)
    (hfailure : run.failure = none) :
    jobs.map (·.1.event) =
      (arrivals deliveries).filter fun event => event.type ≠ some .bookmark := by
  obtain ⟨taken, refusal, hadmits, hevents, heq⟩ := hassigns.admitted
  cases hadmits with
  | all => exact hevents
  | upTo => simp [heq] at hfailure

/-- The events of `replaced`, more slowly, and then an error. -/
def replacedSlowly : List Delivery :=
  [.event 30 ⟨some .modified, identified "a"⟩, .event 1 ⟨some .bookmark, identified "b"⟩,
    .event 40 ⟨some .deleted, identified "a"⟩, .event 5 ⟨some .added, identified "a"⟩,
    .failure 1 (.error "Error" "boom")]

/-- A handler that fails at once while earlier events are still being handled, and one that has all
the time there is, find the same slots for the same three events. -/
theorem run_assigns_replaced :
    known.IsKept ∧ ∃ jobs, jobs.length = 3 ∧
      (run clumsy { now := 0, stop := none, registry := known } replaced).Assigns none [] known
        replaced jobs ∧
      (run ⟨fun _ _ => {}, none, [], []⟩ { now := 7, stop := none, registry := known }
        replacedSlowly).Assigns none [] known replacedSlowly jobs := by
  have hkept : known.IsKept :=
    (Registry.performed_perform {} (.recall [] (identified "a") none false)).isKept
      Registry.isKept_empty
  obtain ⟨jobs, hjobs⟩ := run_assigns none [] hkept (arrivals replaced)
  have hfirst := hjobs clumsy.handler [10] 0 none replaced rfl (by decide +kernel)
  have hsecond := hjobs (fun _ _ => {}) [] 7 none replacedSlowly rfl (by decide +kernel)
  refine ⟨hkept, jobs, ?_, hfirst, hsecond⟩
  have hnone : (run clumsy { now := 0, stop := none, registry := known } replaced).failure = none :=
    Option.isNone_iff_eq_none.mp (by decide +kernel)
  have hevents := congrArg List.length (hfirst.complete hnone)
  rw [List.length_map] at hevents
  exact hevents

end Processing

end ResourceWatch
