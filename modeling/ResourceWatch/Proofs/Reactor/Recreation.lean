import ResourceWatch.Proofs.Reactor.Slots

/-!
# Resources that are deleted and seen again

The events of a resource are handled one after another as long as it is not deleted. A deletion
takes the slot away at once, so that what comes behind it waits for nothing that came before.
-/

namespace ResourceWatch.Processing

variable {setting : Setting} {registry : Registry} {state : State} {jobs : List (Job × Nat)}
  {history : History} {slot : Nat} {job : Job}

/-- No call for an event begins before the calls for all earlier events of its resource have
settled. -/
def InOrder (jobs : List (Job × Nat)) (history : History) : Prop :=
  ∀ (place first : Nat) time next job slot, history[place]? = some (time, .called next) →
    first < next.job.number → jobs[first]? = some (job, slot) →
    job.event.object.identity = next.job.event.object.identity →
    ∃ settled settledAt failure, settled < place ∧
      history[settled]? = some (settledAt, .settled first slot failure)

theorem Tracks.mem_jobs (htracks : Tracks setting jobs state) {time : Time} {call : Call}
    (hcall : (time, .called call) ∈ state.trace) : (call.job, call.slot) ∈ jobs := by
  have hmem := List.mem_append_left (state.memoryAt call.slot).uncalled (mem_calledOn hcall)
  rw [htracks.uncalled] at hmem
  exact mem_jobsOn.mp hmem

/-- On a slot the handler was called for all jobs in front of one for which it was called. -/
theorem Tracks.mem_calledOn_of_lt (htracks : Tracks setting jobs state) {time : Time} {next : Call}
    (hnext : (time, .called next) ∈ state.trace) (hjob : (job, next.slot) ∈ jobs)
    (hlt : job.number < next.job.number) : job ∈ calledOn next.slot state.trace := by
  have hordered := pairwise_jobsOn htracks.numbered next.slot
  have hmem := mem_jobsOn.mpr hjob
  rw [← htracks.uncalled next.slot] at hordered hmem
  rcases List.mem_append.mp hmem with hcalled | huncalled
  · exact hcalled
  · have hbehind := (List.pairwise_append.mp hordered).2.2 _ (mem_calledOn hnext) job huncalled
    omega

theorem Tracks.number_eq (htracks : Tracks setting jobs state) {place : Nat}
    (hplace : jobs[place]? = some (job, slot)) : job.number = place := by
  have hnumber := congrArg (·[place]?) htracks.numbered
  have hlt : place < jobs.length := (List.getElem?_eq_some_iff.mp hplace).1
  simpa [List.getElem?_map, hplace, List.getElem?_range hlt] using hnumber

/-- **The events of a resource are handled in order as long as it is not deleted.** In front of a
call for one of them there is a call for each earlier one, and this is over, with the wait that it
leads to. -/
theorem run_in_order_of_isKept (setting : Setting) (hidle : registry.IsIdle) (now : Time)
    (stop : Option Time) (deliveries : List Delivery)
    (hstopped : (run setting { now, stop, registry } deliveries).state.isStopped = false)
    {place : Nat} {time : Time} {next : Call}
    (hnext : (run setting { now, stop, registry } deliveries).state.trace[place]? =
      some (time, .called next)) {first : Nat} (hlt : first < next.job.number)
    (hfirst : (jobsOf setting registry 0 (arrivals deliveries))[first]? = some (job, slot))
    (hresource : job.event.object.identity = next.job.event.object.identity)
    (hkept : IsKept (jobsOf setting registry 0 (arrivals deliveries)) job.uid first
      next.job.number) :
    ∃ earlier calledAt call, earlier < place ∧
      (run setting { now, stop, registry } deliveries).state.trace[earlier]? =
        some (calledAt, .called call) ∧ call.job = job ∧
      IsOver setting (run setting { now, stop, registry } deliveries).state.trace earlier calledAt
        call place time := by
  obtain ⟨htracks, -, -⟩ := tracks_run hidle now stop deliveries hstopped
  generalize (run setting { now, stop, registry } deliveries).state = final at hnext htracks ⊢
  have hcalled := List.mem_of_getElem? hnext
  have hjobs := htracks.mem_jobs hcalled
  have huid : next.job.uid = job.uid := by
    rw [identity_jobsOf 0 _ hjobs, identity_jobsOf 0 _ (List.mem_of_getElem? hfirst),
      Except.ok.injEq] at hresource
    exact hresource.symm
  have hslot : next.slot = slot :=
    slot_eq_of_isKept 0 _ hlt hfirst (htracks.getElem?_number hjobs) huid hkept
  have hnumber : job.number < next.job.number := (htracks.number_eq hfirst).symm ▸ hlt
  have hbefore := htracks.mem_calledOn_of_lt hcalled
    (hslot.symm ▸ List.mem_of_getElem? hfirst) hnumber
  obtain ⟨calledAt, call, hmem, rfl, hon⟩ := of_mem_calledOn hbefore
  obtain ⟨earlier, hearlier⟩ := List.mem_iff_getElem?.mp hmem
  rcases Nat.lt_trichotomy earlier place with hless | rfl | hmore
  · obtain ⟨-, hover⟩ := htracks.apart earlier place calledAt time call next hless hearlier hnext hon
    exact ⟨earlier, calledAt, call, hless, hearlier, rfl, hover⟩
  · rw [hnext, Option.some.injEq, Prod.mk.injEq, Happening.called.injEq] at hearlier
    rw [hearlier.2] at hnumber
    exact absurd hnumber (Nat.lt_irrefl _)
  · have hreverse := (htracks.apart place earlier time calledAt next call hmore hnext hearlier
      hon.symm).1
    omega

/-- Whether an entry of a history is the call for a job of a resource. -/
def isCallFor (number : Nat) (uid : Text) (entry : Option (Time × Happening)) : Bool :=
  match entry with
  | some (_, .called call) => call.job.number = number ∧ call.job.event.object.uid? = some uid
  | _ => false

theorem exists_call {place number : Nat} {uid : Text}
    (hcall : isCallFor number uid history[place]? = true) :
    ∃ time call, history[place]? = some (time, .called call) ∧ call.job.number = number ∧
      call.job.event.object.identity = .ok uid := by
  unfold isCallFor at hcall
  split at hcall
  · rename_i time call hplace
    obtain ⟨hnumber, huid⟩ : call.job.number = number ∧ call.job.event.object.uid? = some uid := by
      simpa using hcall
    exact ⟨time, call, hplace, hnumber, by rw [Object.identity, huid]⟩
  · exact absurd hcall Bool.false_ne_true

/-- The first call takes some time. -/
def leisurely : Setting where
  handler _ number := if number = 0 then { duration := some 10 } else {}
  template := none
  delays := []

/-- A resource is modified and then deleted. -/
def modifiedDeleted : List Delivery :=
  [.event 1 ⟨some .modified, identified "a"⟩, .event 1 ⟨some .deleted, identified "a"⟩]

/-- The deletion is handled behind the modification, which takes its time. -/
theorem run_in_order_of_deleted :
    ∃ place time next,
      (run leisurely { now := 0, stop := none } modifiedDeleted).state.trace[place]? =
        some (time, .called next) ∧ next.job.number = 1 ∧
      ∃ earlier calledAt call, earlier < place ∧
        (run leisurely { now := 0, stop := none } modifiedDeleted).state.trace[earlier]? =
          some (calledAt, .called call) ∧ call.job = ⟨0, "a", ⟨some .modified, identified "a"⟩⟩ ∧
        IsOver leisurely (run leisurely { now := 0, stop := none } modifiedDeleted).state.trace
          earlier calledAt call place time := by
  have hstopped :
      (run leisurely { now := 0, stop := none } modifiedDeleted).state.isStopped = false := by
    decide +kernel
  have hcall : isCallFor 1 "a"
      (run leisurely { now := 0, stop := none } modifiedDeleted).state.trace[3]? = true := by
    decide +kernel
  have hjob : (jobsOf leisurely {} 0 (arrivals modifiedDeleted))[0]? =
      some (⟨0, "a", ⟨some .modified, identified "a"⟩⟩, 0) := rfl
  obtain ⟨time, next, hnext, hnumber, hresource⟩ := exists_call hcall
  refine ⟨3, time, next, hnext, hnumber, ?_⟩
  refine run_in_order_of_isKept leisurely Registry.isIdle_empty 0 none modifiedDeleted hstopped hnext
    (hnumber ▸ Nat.zero_lt_one) hjob hresource.symm fun place entry _ hlt hentry _ => ?_
  -- Only the modification lies in front of the deletion.
  obtain rfl : place = 0 := by omega
  rw [hjob, Option.some.injEq] at hentry
  subst hentry
  simp

/-- A resource is deleted and seen again. -/
def deletedAdded : List Delivery :=
  [.event 1 ⟨some .deleted, identified "a"⟩, .event 1 ⟨some .added, identified "a"⟩]

/-- **A deletion breaks the order.** The resource is seen again while its deletion is being handled,
and this is not waited for. -/
theorem not_inOrder_of_deleted :
    (run leisurely { now := 0, stop := none } deletedAdded).state.isStopped = false ∧
      ¬InOrder (jobsOf leisurely {} 0 (arrivals deletedAdded))
        (run leisurely { now := 0, stop := none } deletedAdded).state.trace := by
  have hdeletion : isCallFor 0 "a"
      (run leisurely { now := 0, stop := none } deletedAdded).state.trace[0]? = true := by
    decide +kernel
  have haddition : isCallFor 1 "a"
      (run leisurely { now := 0, stop := none } deletedAdded).state.trace[1]? = true := by
    decide +kernel
  have hjob : (jobsOf leisurely {} 0 (arrivals deletedAdded))[0]? =
      some (⟨0, "a", ⟨some .deleted, identified "a"⟩⟩, 0) := rfl
  refine ⟨by decide +kernel, fun hinOrder => ?_⟩
  obtain ⟨later, next, hnext, hnumber, hresource⟩ := exists_call haddition
  obtain ⟨time, call, hcall, -⟩ := exists_call hdeletion
  obtain ⟨settled, settledAt, failure, hlt, hsettled⟩ :=
    hinOrder 1 0 later next _ _ hnext (hnumber ▸ Nat.zero_lt_one) hjob hresource.symm
  obtain rfl : settled = 0 := by omega
  rw [hcall] at hsettled
  simp at hsettled

end ResourceWatch.Processing
