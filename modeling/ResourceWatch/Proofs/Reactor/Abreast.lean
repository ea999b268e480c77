import ResourceWatch.Proofs.Reactor.Interleaving
import ResourceWatch.Proofs.Reactor.Slots

/-!
# Two states side by side

Two states are followed that are the same on some of the slots, those of one resource. A step on one
of these slots is taken in both of them, and any other step in one of them changes nothing that is
seen there.
-/

namespace ResourceWatch.Processing

open Throttling

/-! ### What is seen of a resource -/

/-- The calls of the handler for a resource. -/
def State.callsFor (state : State) (uid : Text) : List (Time × Call) :=
  state.calls.filter fun (_, call) => call.job.uid = uid

/-- What happened on some of the slots. -/
def onSlots (own : Nat → Bool) (history : History) : History :=
  history.filter fun (_, happening) => own happening.slot

/-- The states behind the steps that are taken up to a limit, each with the slot of the step. -/
def State.course (setting : Setting) (limit : Option Time) : Nat → State → List (Nat × State)
  | 0, _ => []
  | steps + 1, state =>
    match state.next? limit with
    | none => []
    | some (due, slot) =>
      (slot, state.goOn setting slot due) ::
        State.course setting limit steps (state.goOn setting slot due)

/-- The steps of a wait. -/
def State.waitCourse (setting : Setting) (state : State) (time : Time) : List (Nat × State) :=
  State.course setting (some time) state.work state

/-- The steps in which an event is taken. -/
def State.takeCourse (setting : Setting) (state : State) (time : Time) (event : Event) :
    List (Nat × State) :=
  let waited := state.wait setting time
  state.waitCourse setting time ++
    if waited.isStopped then [] else (waited.dispatch setting event).1.waitCourse setting time

/-- The steps in which the events of a source are taken. -/
def State.receiveCourse (setting : Setting) (state : State) : List Delivery → List (Nat × State)
  | [] => []
  | .failure delay _ :: _ => state.waitCourse setting (state.now + delay)
  | .event delay event :: rest =>
    state.takeCourse setting (state.now + delay) event ++
      match state.take setting (state.now + delay) event with
      | (next, .goesOn) => next.receiveCourse setting rest
      | _ => []

/-- All steps of a run. -/
def runCourse (setting : Setting) (state : State) (deliveries : List Delivery) :
    List (Nat × State) :=
  let received := (state.receive setting 0 deliveries).state
  state.receiveCourse setting deliveries ++ State.course setting none received.work received

/-- What is seen of some of the slots behind a step on one of them. -/
structure View where
  time : Time
  slot : Nat
  memory : Memory
  history : History

def viewOf (own : Nat → Bool) (step : Nat × State) : Option View :=
  if own step.1 then
    some ⟨step.2.now, step.1, step.2.memoryAt step.1, onSlots own step.2.trace⟩
  else none

/-- What is seen in the course of some steps. -/
def views (own : Nat → Bool) (course : List (Nat × State)) : List View :=
  course.filterMap (viewOf own)

variable {setting other : Setting} {state first second next : State} {limit : Option Time}
  {own : Nat → Bool} {uid : Text} {slot : Nat} {time due : Time} {memory after : Memory}
  {added : List Happening}

theorem course_of_next?_eq_none (hnext : state.next? limit = none) (steps : Nat) :
    State.course setting limit steps state = [] := by
  cases steps with
  | zero => rfl
  | succ steps => rw [State.course, hnext]

theorem course_succ (hnext : state.next? limit = some (due, slot)) (steps : Nat) :
    State.course setting limit (steps + 1) state =
      (slot, state.goOn setting slot due) ::
        State.course setting limit steps (state.goOn setting slot due) := by
  rw [State.course, hnext]

theorem onSlots_append (history more : History) :
    onSlots own (history ++ more) = onSlots own history ++ onSlots own more :=
  List.filter_append _ _

/-! ### Jobs on their slots -/

/-- The slots that are looked at have the jobs of a resource, and the others have none of them. -/
def IsSorted (own : Nat → Bool) (uid : Text) (state : State) : Prop :=
  ∀ slot, ∀ job ∈ calledOn slot state.trace ++ (state.memoryAt slot).uncalled,
    own slot = true ↔ job.uid = uid

theorem IsSorted.fired (hsorted : IsSorted own uid state)
    (hfired : Fired setting state slot time memory after added next)
    (hmemory : state.registry.memories[slot]? = some memory)
    (hstopped : Clock.reached state.stop time = false) : IsSorted own uid next := by
  intro other job hjob
  rw [hfired.jobs_eq hmemory hstopped] at hjob
  exact hsorted other job hjob

theorem callsIn_onSlots {history : History}
    (hcalls : ∀ time call, (time, .called call) ∈ history →
      (own call.slot = true ↔ call.job.uid = uid)) :
    (callsIn history).filter (fun (_, call) => call.job.uid = uid) =
      callsIn (onSlots own history) := by
  induction history with
  | nil => rfl
  | cons entry rest ih =>
      have hrest := ih fun time call hmem => hcalls time call (List.mem_cons_of_mem _ hmem)
      obtain ⟨time, happening⟩ := entry
      cases happening with
      | called call =>
          have hcall := hcalls time call List.mem_cons_self
          by_cases huid : call.job.uid = uid
          · have hown : own call.slot = true := hcall.mpr huid
            simpa [callsIn, onSlots, Happening.slot, huid, hown] using hrest
          · have hown : ¬own call.slot = true := fun hown => huid (hcall.mp hown)
            simpa [callsIn, onSlots, Happening.slot, huid, hown] using hrest
      | settled number slot failure =>
          simp only [callsIn, onSlots, List.filterMap_cons, List.filter_cons,
            Happening.slot] at hrest ⊢
          split <;> simpa using hrest
      | «over» number slot succeeded =>
          simp only [callsIn, onSlots, List.filterMap_cons, List.filter_cons,
            Happening.slot] at hrest ⊢
          split <;> simpa using hrest

/-- The calls for the resource are seen on its slots. -/
theorem IsSorted.callsFor_eq (hsorted : IsSorted own uid state) :
    state.callsFor uid = callsIn (onSlots own state.trace) :=
  callsIn_onSlots fun _ call hmem =>
    hsorted call.slot call.job (List.mem_append_left _ (mem_calledOn hmem))

theorem IsSorted.callCount_eq (hsorted : IsSorted own uid state) :
    state.callCount uid = (callsIn (onSlots own state.trace)).length :=
  congrArg List.length hsorted.callsFor_eq

/-! ### Two states side by side -/

/-- States that are the same on the slots that are looked at. -/
structure Alike (own : Nat → Bool) (first second : State) : Prop where
  stop : first.stop = second.stop
  registry : first.registry.SameSlots second.registry
  queued : first.queued = second.queued
  memory : ∀ slot, own slot = true → first.memoryAt slot = second.memoryAt slot
  history : onSlots own first.trace = onSlots own second.trace

/-- When the memory in a slot takes its step, if no other one goes on before. -/
def State.firesAt? (state : State) (slot : Nat) : Option Time :=
  (state.dueAt? slot).map (max state.now)

/-- States that are alike, and in which the slots that are looked at go on at the same times. -/
structure Abreast (own : Nat → Bool) (uid : Text) (first second : State) : Prop
    extends Alike own first second where
  fires : ∀ slot, own slot = true → first.firesAt? slot = second.firesAt? slot
  sorted : IsSorted own uid first
  sorted' : IsSorted own uid second

theorem Alike.symm (halike : Alike own first second) : Alike own second first :=
  ⟨halike.stop.symm, ⟨halike.registry.slots.symm, halike.registry.length.symm⟩, halike.queued.symm,
    fun slot hown => (halike.memory slot hown).symm, halike.history.symm⟩

theorem Abreast.symm (habreast : Abreast own uid first second) : Abreast own uid second first :=
  ⟨habreast.toAlike.symm, fun slot hown => (habreast.fires slot hown).symm, habreast.sorted',
    habreast.sorted⟩

/-- At the same time, alike states are abreast. -/
theorem Alike.fires (halike : Alike own first second) (hnow : first.now = second.now)
    (hown : own slot = true) : first.firesAt? slot = second.firesAt? slot := by
  rw [State.firesAt?, State.firesAt?, State.dueAt?, State.dueAt?, State.due?, State.due?,
    halike.memory slot hown, halike.stop, hnow]

/-- What goes on at the same time is due at the same time. -/
theorem Abreast.dueAt?_eq (habreast : Abreast own uid first second) (hown : own slot = true) :
    first.dueAt? slot = second.dueAt? slot := by
  have hfires := habreast.fires slot hown
  rw [State.firesAt?, State.firesAt?, State.dueAt?, State.dueAt?, State.due?, State.due?,
    habreast.memory slot hown, habreast.stop] at hfires
  rw [State.dueAt?, State.dueAt?, State.due?, State.due?, habreast.memory slot hown, habreast.stop]
  cases hrunning : (second.memoryAt slot).queue.running with
  | some handling => rfl
  | none =>
      -- A job that waits goes on at once, so that it is the same time in both.
      simp only [hrunning] at hfires ⊢
      split
      · rfl
      · rename_i hwaiting
        simpa [hwaiting] using hfires

/-! ### Steps -/

/-- What happens in a step happens on its slot. -/
theorem Advance.slot_eq (hadvance : Advance setting state slot time memory after added)
    (hstopped : Clock.reached state.stop time = false) :
    ∀ happening ∈ added, happening.slot = slot := by
  have hover {added : List Happening} (hadded : ∀ happening ∈ added, ∃ number succeeded,
      happening = .over number slot succeeded) : ∀ happening ∈ added, happening.slot = slot := by
    intro happening hmem
    obtain ⟨number, succeeded, rfl⟩ := hadded happening hmem
    rfl
  cases hadvance with
  | waits _ bound hquiet hbound hafter huncalled hadded => exact hover hadded
  | calls call bound hquiet hbound hslot => simpa [Happening.slot] using hslot
  | settles job due failure rest hrunning hdue hafter huncalled hadded =>
      exact List.forall_mem_cons.mpr ⟨rfl, hover hadded⟩
  | stopped _ hreached => simp [hstopped] at hreached

/-- A step on another slot is not seen. -/
theorem Fired.onSlots_eq (hfired : Fired setting state slot time memory after added next)
    (hstopped : Clock.reached state.stop time = false) (hother : own slot = false) :
    onSlots own next.trace = onSlots own state.trace := by
  have hnothing : onSlots own (added.map (time, ·)) = [] := by
    refine List.filter_eq_nil_iff.mpr fun entry hentry => ?_
    obtain ⟨happening, hmem, rfl⟩ := List.mem_map.mp hentry
    simp [hfired.advance.slot_eq hstopped happening hmem, hother]
  rw [hfired.trace, onSlots_append, hnothing, List.append_nil]

/-- A step on another slot does not change when a memory goes on, as it is not taken later. -/
theorem firesAt?_goOn (hnext : state.next? limit = some (due, slot)) {place : Nat}
    (hne : place ≠ slot) (hstopped : (state.goOn setting slot due).isStopped = false) :
    (state.goOn setting slot due).firesAt? place = state.firesAt? place := by
  obtain ⟨after, added, hfired⟩ := fired_goOn setting hnext
  have hstop := (hfired.stop_eq hstopped).1
  -- The step is the soonest one, so that the clock does not pass what is due in the other slot.
  have hleast {due' : Time} (hdue : state.dueAt? place = some due') : due ≤ due' :=
    (next?_least hnext hdue).1
  rw [State.dueAt?, State.due?] at hleast
  rw [State.firesAt?, State.firesAt?, State.dueAt?, State.dueAt?, State.due?, State.due?,
    hfired.memoryAt_of_ne hne, hfired.now, hstop]
  cases hrunning : (state.memoryAt place).queue.running with
  | some handling =>
      simp only [hrunning] at hleast ⊢
      cases hdue : handling.stage.due? state.stop with
      | none => rfl
      | some due' =>
          have hle := hleast hdue
          simp only [Option.map_some, Option.some.injEq, Time] at hle ⊢
          omega
  | none =>
      -- A job that waits goes on at once: a step that is due later would not be the soonest one.
      simp only [hrunning] at hleast ⊢
      split
      · rfl
      · rename_i hwaiting
        have hle : due ≤ state.now := hleast (by simp [hwaiting])
        simp only [Option.map_some, Option.some.injEq, Time] at hle ⊢
        omega

/-- **A step on another slot changes nothing.** -/
theorem Abreast.goOn_other (habreast : Abreast own uid first second)
    (hnext : first.next? limit = some (due, slot)) (hother : own slot = false)
    (hstopped : (first.goOn setting slot due).isStopped = false) :
    Abreast own uid (first.goOn setting slot due) second := by
  obtain ⟨after, added, hfired⟩ := fired_goOn setting hnext
  obtain ⟨hstop, hreached⟩ := hfired.stop_eq hstopped
  have hmemory := getElem?_of_dueAt? (dueAt?_of_next? hnext)
  have hne {place : Nat} (hown : own place = true) : place ≠ slot := by
    rintro rfl
    rw [hother] at hown
    exact Bool.false_ne_true hown
  exact {
    stop := hstop.trans habreast.stop
    registry := ⟨hfired.slots.trans habreast.registry.slots, by
      rw [hfired.memories, List.length_set, habreast.registry.length]⟩
    queued := hfired.queued.trans habreast.queued
    memory := fun place hown =>
      (hfired.memoryAt_of_ne (hne hown)).trans (habreast.memory place hown)
    history := (hfired.onSlots_eq hreached hother).trans habreast.history
    fires := fun place hown =>
      (firesAt?_goOn hnext (hne hown) hstopped).trans (habreast.fires place hown)
    sorted := habreast.sorted.fired hfired hmemory hreached
    sorted' := habreast.sorted' }

theorem Alike.framed {next' : State} (halike : Alike own first second)
    (hfirst : first.registry.memories[slot]? = some memory)
    (hsecond : second.registry.memories[slot]? = some memory)
    (hframed : Framed first slot time after added next)
    (hframed' : Framed second slot time after added next') (hstop : next.stop = first.stop)
    (hstop' : next'.stop = second.stop) : Alike own next next' where
  stop := hstop.trans (halike.stop.trans hstop'.symm)
  registry := ⟨hframed.slots.trans (halike.registry.slots.trans hframed'.slots.symm), by
    rw [hframed.memories, hframed'.memories, List.length_set, List.length_set,
      halike.registry.length]⟩
  queued := hframed.queued.trans (halike.queued.trans hframed'.queued.symm)
  memory place hown := by
    by_cases hsame : place = slot
    · subst hsame
      rw [hframed.memoryAt_self hfirst, hframed'.memoryAt_self hsecond]
    · rw [hframed.memoryAt_of_ne hsame, hframed'.memoryAt_of_ne hsame, halike.memory place hown]
  history := by
    rw [hframed.trace, hframed'.trace, onSlots_append, onSlots_append, halike.history]

/-- **A step on one of the slots is the same in both states.** -/
theorem Abreast.goOn_both (hagree : Setting.Agree uid setting other)
    (habreast : Abreast own uid first second) (hown : own slot = true)
    (hfirst : first.next? limit = some (due, slot))
    (hsecond : second.next? limit = some (due, slot))
    (hstopped : (first.goOn setting slot due).isStopped = false)
    (hstopped' : (second.goOn other slot due).isStopped = false) :
    Abreast own uid (first.goOn setting slot due) (second.goOn other slot due) ∧
      viewOf own (slot, first.goOn setting slot due) =
        viewOf own (slot, second.goOn other slot due) := by
  have hdue := dueAt?_of_next? hfirst
  have hdue' := dueAt?_of_next? hsecond
  have hmemory := getElem?_of_dueAt? hdue
  have hmemory' := getElem?_of_dueAt? hdue'
  have hsame := habreast.memory slot hown
  have htime : max first.now due = max second.now due := by
    have hfires := habreast.fires slot hown
    simpa [State.firesAt?, hdue, hdue'] using hfires
  -- What the handler does depends on the resource and on the calls for it so far, and both are
  -- seen on the slots.
  have hcount : first.callCount uid = second.callCount uid := by
    rw [habreast.sorted.callCount_eq, habreast.sorted'.callCount_eq, habreast.history]
  have huid : ∀ job ∈ (first.memoryAt slot).uncalled, job.uid = uid := fun job hjob =>
    (habreast.sorted slot job (List.mem_append_right _ hjob)).mp hown
  obtain ⟨after, added, hframed, hframed'⟩ := exists_framed_fire hagree hmemory (hsame ▸ hmemory')
    habreast.stop hcount huid hdue (max first.now due)
  have hgoOn : second.fire other slot (max first.now due) = second.goOn other slot due := by
    rw [htime, State.goOn]
  rw [hgoOn] at hframed'
  rw [← State.goOn] at hframed
  obtain ⟨_, _, hfired⟩ := fired_goOn setting hfirst
  obtain ⟨_, _, hfired'⟩ := fired_goOn other hsecond
  obtain ⟨hstop, hreached⟩ := hfired.stop_eq hstopped
  obtain ⟨hstop', hreached'⟩ := hfired'.stop_eq hstopped'
  have halike := habreast.toAlike.framed hmemory (hsame ▸ hmemory') hframed hframed' hstop hstop'
  have hnow : (first.goOn setting slot due).now = (second.goOn other slot due).now :=
    hframed.now.trans hframed'.now.symm
  refine ⟨⟨halike, fun place hown => halike.fires hnow hown,
    habreast.sorted.fired hfired hmemory hreached,
    habreast.sorted'.fired hfired' hmemory' hreached'⟩, ?_⟩
  simp only [viewOf, hown, if_true, hnow, halike.memory slot hown, halike.history]

/-! ### Many steps -/

/-- If the next step in each of two states is on the slots that are looked at, it is the same. -/
theorem Abreast.next?_eq (habreast : Abreast own uid first second)
    (hfirst : ∀ due slot, first.next? limit = some (due, slot) → own slot = true)
    (hsecond : ∀ due slot, second.next? limit = some (due, slot) → own slot = true) :
    first.next? limit = second.next? limit := by
  -- What is next in one state is due in the other one as well.
  have hexists {first second : State} (habreast : Abreast own uid first second)
      (hfirst : ∀ due slot, first.next? limit = some (due, slot) → own slot = true) {due : Time}
      {slot : Nat} (hnext : first.next? limit = some (due, slot)) :
      second.dueAt? slot = some due ∧ ∃ due' slot', second.next? limit = some (due', slot') := by
    have hdue := dueAt?_of_next? hnext
    rw [habreast.dueAt?_eq (hfirst due slot hnext)] at hdue
    exact ⟨hdue, exists_next? hdue (soonest?_of_next? hnext).2⟩
  cases hnext : first.next? limit with
  | none =>
      cases hnext' : second.next? limit with
      | none => rfl
      | some found =>
          obtain ⟨-, due, slot, hsome⟩ := hexists habreast.symm hsecond hnext'
          rw [hnext] at hsome
          simp at hsome
  | some found =>
      obtain ⟨due, slot⟩ := found
      -- Each of the two is due in the other state, so that neither can come before the other.
      obtain ⟨hdue, due', slot', hnext'⟩ := hexists habreast hfirst hnext
      obtain ⟨hdue', -⟩ := hexists habreast.symm hsecond hnext'
      obtain ⟨hle, hlt⟩ := next?_least hnext hdue'
      obtain ⟨hle', hlt'⟩ := next?_least hnext' hdue
      obtain rfl : due = due' := Int.le_antisymm hle hle'
      have hslot : slot = slot' := by
        by_contra hne
        rcases Nat.lt_or_gt_of_ne hne with hless | hmore
        · exact Int.lt_irrefl _ (hlt' hless)
        · exact Int.lt_irrefl _ (hlt hmore)
      rw [hnext', hslot]

/-- **Two states stay abreast**, however many steps each of them takes on other slots. -/
theorem abreast_advanceBy (hagree : Setting.Agree uid setting other) (limit : Option Time)
    {steps steps' : Nat} (hwork : first.work ≤ steps) (hwork' : second.work ≤ steps')
    (habreast : Abreast own uid first second)
    (hstopped : (State.advanceBy setting limit steps first).isStopped = false)
    (hstopped' : (State.advanceBy other limit steps' second).isStopped = false) :
    Abreast own uid (State.advanceBy setting limit steps first)
        (State.advanceBy other limit steps' second) ∧
      views own (State.course setting limit steps first) =
        views own (State.course other limit steps' second) := by
  -- Each step leaves less to do in one of the states.
  induction htotal : steps + steps' using Nat.strongRecOn
    generalizing steps steps' first second with
  | ind total ih =>
  -- As long as one of the states goes on elsewhere, the other one waits for it.
  by_cases hother : ∃ due slot, first.next? limit = some (due, slot) ∧ own slot = false
  · obtain ⟨due, slot, hnext, hown⟩ := hother
    obtain ⟨less, rfl, hless⟩ := exists_succ_of_work hwork hnext setting
    rw [advanceBy_succ hnext] at hstopped ⊢
    have hgoOn := habreast.goOn_other hnext hown (isStopped_advanceBy limit less hstopped)
    obtain ⟨hafter, hviews⟩ :=
      ih (less + steps') (by omega) hless hwork' hgoOn hstopped hstopped' rfl
    refine ⟨hafter, ?_⟩
    rw [course_succ hnext, views, List.filterMap_cons_none (by simp [viewOf, hown]), ← views,
      hviews]
  by_cases hother' : ∃ due slot, second.next? limit = some (due, slot) ∧ own slot = false
  · obtain ⟨due, slot, hnext, hown⟩ := hother'
    obtain ⟨less, rfl, hless⟩ := exists_succ_of_work hwork' hnext other
    rw [advanceBy_succ hnext] at hstopped' ⊢
    have hgoOn := habreast.symm.goOn_other hnext hown (isStopped_advanceBy limit less hstopped')
    obtain ⟨hafter, hviews⟩ :=
      ih (steps + less) (by omega) hwork hless hgoOn.symm hstopped hstopped' rfl
    refine ⟨hafter, ?_⟩
    rw [course_succ hnext, views, views, List.filterMap_cons_none (by simp [viewOf, hown]),
      ← views, hviews]
    rfl
  have hown (due : Time) (slot : Nat) (hnext : first.next? limit = some (due, slot)) :
      own slot = true := by
    simpa using fun hnot => hother ⟨due, slot, hnext, hnot⟩
  have hown' (due : Time) (slot : Nat) (hnext : second.next? limit = some (due, slot)) :
      own slot = true := by
    simpa using fun hnot => hother' ⟨due, slot, hnext, hnot⟩
  have hsame := habreast.next?_eq hown hown'
  cases hnext : first.next? limit with
  | none =>
      have hnext' : second.next? limit = none := hsame ▸ hnext
      rw [advanceBy_of_next?_eq_none hnext, advanceBy_of_next?_eq_none hnext',
        course_of_next?_eq_none hnext, course_of_next?_eq_none hnext']
      exact ⟨habreast, rfl⟩
  | some found =>
      obtain ⟨due, slot⟩ := found
      have hnext' : second.next? limit = some (due, slot) := hsame ▸ hnext
      obtain ⟨less, rfl, hless⟩ := exists_succ_of_work hwork hnext setting
      obtain ⟨less', rfl, hless'⟩ := exists_succ_of_work hwork' hnext' other
      rw [advanceBy_succ hnext] at hstopped ⊢
      rw [advanceBy_succ hnext'] at hstopped' ⊢
      obtain ⟨hgoOn, hview⟩ := habreast.goOn_both hagree (hown due slot hnext) hnext hnext'
        (isStopped_advanceBy limit less hstopped) (isStopped_advanceBy limit less' hstopped')
      obtain ⟨hafter, hviews⟩ :=
        ih (less + less') (by omega) hless hless' hgoOn hstopped hstopped' rfl
      refine ⟨hafter, ?_⟩
      rw [course_succ hnext, course_succ hnext', views, views, List.filterMap_cons,
        List.filterMap_cons, hview, ← views, ← views, hviews]

theorem Abreast.atTime (habreast : Abreast own uid first second) (time : Time) :
    Abreast own uid { first with now := time } { second with now := time } :=
  have halike : Alike own { first with now := time } { second with now := time } :=
    ⟨habreast.stop, habreast.registry, habreast.queued, habreast.memory, habreast.history⟩
  ⟨halike, fun _ hown => halike.fires rfl hown, habreast.sorted, habreast.sorted'⟩

theorem abreast_wait (hagree : Setting.Agree uid setting other)
    (habreast : Abreast own uid first second) (hnow : first.now ≤ time) (hnow' : second.now ≤ time)
    (hstopped : (first.wait setting time).isStopped = false)
    (hstopped' : (second.wait other time).isStopped = false) :
    Abreast own uid (first.wait setting time) (second.wait other time) ∧
      views own (first.waitCourse setting time) = views own (second.waitCourse other time) := by
  obtain ⟨hafter, hviews⟩ := abreast_advanceBy hagree (some time) (Nat.le_refl _) (Nat.le_refl _)
    habreast (isStopped_advanceBy_of_wait hnow hstopped) (isStopped_advanceBy_of_wait hnow' hstopped')
  exact ⟨hafter.atTime time, hviews⟩

end ResourceWatch.Processing
