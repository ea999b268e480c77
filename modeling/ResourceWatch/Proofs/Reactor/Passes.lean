import ResourceWatch.Proofs.Reactor.Receiving
import ResourceWatch.Proofs.Reactor.Recreation
import ResourceWatch.Proofs.Reactor.Registry

/-!
# What jobs leave behind

The registry behind some jobs is the outcome of a plain pass over them, in which nothing is handled.
It tells which slots there are, for which resources, and what was noticed by listing; and the jobs
tell by themselves which of them share a slot.
-/

namespace ResourceWatch

namespace Registry

/-- Registries that know the same resources, and in which the same ones were noticed by listing. -/
structure Alike (first second : Registry) : Prop where
  slots : first.slots = second.slots
  noticed : first.memories.map Memory.noticedByListing =
    second.memories.map Memory.noticedByListing

variable {first second third registry : Registry} {uid : Text} {slot : Nat}

theorem Alike.sameSlots (halike : first.Alike second) : first.SameSlots second where
  slots := halike.slots
  length := by simpa using congrArg List.length halike.noticed

theorem Alike.trans (hfirst : first.Alike second) (hsecond : second.Alike third) :
    first.Alike third :=
  ⟨hfirst.slots.trans hsecond.slots, hfirst.noticed.trans hsecond.noticed⟩

theorem Alike.forgetUid (halike : first.Alike second) (uid : Text) :
    (first.forgetUid uid).Alike (second.forgetUid uid) :=
  ⟨(halike.sameSlots.forgetUid uid).slots, halike.noticed⟩

theorem Alike.recalled (halike : first.Alike second) (cells : Cells) (object : Object)
    (template : Option Template) (listed : Bool) :
    (first.recalled cells object template listed).registry.Alike
      (second.recalled cells object template listed).registry := by
  obtain ⟨-, hsame⟩ := halike.sameSlots.recalled cells object template listed
  obtain ⟨added, hfirst, hsecond⟩ := halike.sameSlots.exists_recalled cells object template listed
  refine ⟨hsame.slots, ?_⟩
  rw [hfirst, hsecond, List.map_append, List.map_append, halike.noticed]

theorem alike_update (registry : Registry) (slot : Nat) (change : Memory → Memory)
    (hchange : ∀ memory, (change memory).noticedByListing = memory.noticedByListing) :
    (registry.update slot change).Alike registry := by
  refine ⟨rfl, List.ext_getElem? fun place => ?_⟩
  rw [update, List.getElem?_map, List.getElem?_map, List.getElem?_modify]
  cases registry.memories[place]? with
  | none => rfl
  | some memory => by_cases hsame : slot = place <;> simp [hsame, hchange]

theorem Alike.noticed_eq (halike : first.Alike second) (slot : Nat) :
    first.memories[slot]?.map Memory.noticedByListing =
      second.memories[slot]?.map Memory.noticedByListing := by
  rw [← List.getElem?_map, ← List.getElem?_map, halike.noticed]

end Registry

namespace Processing

variable {setting : Setting} {registry other : Registry} {event : Event} {uid : Text}
  {slot number : Nat} {jobs : List (Job × Nat)}

/-! ### The registry behind some jobs -/

theorem remembered_of_forgetUid {P : Registry → Prop}
    (hrecalled : P (registry.recalled setting.cells event.object setting.template
      event.type.isNone).registry)
    (hforget : ∀ registry, P registry → P (registry.forgetUid uid)) :
    P (remembered setting registry event uid) := by
  unfold remembered
  split
  · exact hforget _ hrecalled
  · exact hrecalled

theorem memories_remembered : (remembered setting registry event uid).memories =
    (registry.recalled setting.cells event.object setting.template
      event.type.isNone).registry.memories := by
  unfold remembered
  split <;> rfl

theorem remembered_congr (halike : registry.Alike other) (event : Event) (uid : Text) :
    (remembered setting registry event uid).Alike (remembered setting other event uid) := by
  have hrecalled :=
    halike.recalled setting.cells event.object setting.template event.type.isNone
  unfold remembered
  split
  · exact hrecalled.forgetUid uid
  · exact hrecalled

/-- The operation that an event leads to first. -/
def recalling (setting : Setting) (event : Event) : Registry.Operation :=
  .recall setting.cells event.object setting.template event.type.isNone

theorem performed_recalling (setting : Setting) (registry : Registry) (event : Event) :
    Registry.Performed registry (recalling setting event)
      (registry.perform (recalling setting event)) :=
  Registry.performed_perform registry _

theorem recalls_recalling (hidentity : event.object.identity = .ok uid)
    (hslot : (registry.recalled setting.cells event.object setting.template
      event.type.isNone).slot = .ok slot) :
    (registry.perform (recalling setting event)).Recalls uid slot :=
  ⟨hidentity, by simp only [recalling, Registry.perform, hslot, Registry.Answer.ofExcept]⟩

theorem isKept_remembered (hkept : registry.IsKept) (event : Event) (uid : Text) :
    (remembered setting registry event uid).IsKept :=
  remembered_of_forgetUid ((performed_recalling setting registry event).isKept hkept)
    fun _ hkept => hkept.forgetUid uid

theorem isSpent_remembered (hspent : registry.IsSpent slot) (event : Event) (uid : Text) :
    (remembered setting registry event uid).IsSpent slot := by
  have hrecalled := hspent.perform (performed_recalling setting registry event)
  refine remembered_of_forgetUid (P := fun registry => registry.IsSpent slot) hrecalled ?_
  intro registry hspent
  exact ⟨hspent.slot_lt, fun pair hpair => hspent.free pair (List.mem_filter.mp hpair).1⟩

/-- A resource is remembered behind an event of its own unless this is its deletion, and behind an
event of another one if it was before. -/
theorem mem_uids_remembered {found : Nat} (hidentity : event.object.identity = .ok uid)
    (hslot : (registry.recalled setting.cells event.object setting.template
      event.type.isNone).slot = .ok found) (wanted : Text) :
    wanted ∈ (remembered setting registry event uid).uids ↔
      if uid = wanted then event.type ≠ some .deleted else wanted ∈ registry.uids := by
  have hrecalled : wanted ∈ (registry.recalled setting.cells event.object setting.template
      event.type.isNone).registry.uids ↔ uid = wanted ∨ wanted ∈ registry.uids := by
    refine ((performed_recalling setting registry event).mem_uids wanted).trans ?_
    have hforgets : ¬(registry.perform (recalling setting event)).Forgets wanted := by
      rintro ⟨object, hoperation, -⟩
      simp [recalling, Registry.perform] at hoperation
    have hrecalls := recalls_recalling hidentity hslot
    constructor
    · rintro (⟨slot, hobject, -⟩ | ⟨hmem, -⟩)
      · rw [hrecalls.1, Except.ok.injEq] at hobject
        exact .inl hobject
      · exact .inr hmem
    · rintro (rfl | hmem)
      · exact .inl ⟨found, hrecalls⟩
      · exact .inr ⟨hmem, hforgets⟩
  unfold remembered
  by_cases hdeleted : event.type = some .deleted
  · rw [if_pos hdeleted, Registry.mem_uids_forgetUid, hrecalled]
    by_cases hsame : uid = wanted
    · simp [hsame, hdeleted]
    · simp [hsame, Ne.symm hsame]
  · rw [if_neg hdeleted, hrecalled]
    by_cases hsame : uid = wanted
    · simp [hsame, hdeleted]
    · simp [hsame]

/-- What is remembered behind some jobs if nothing is handled meanwhile. -/
def behind (setting : Setting) (registry : Registry) (jobs : List (Job × Nat)) : Registry :=
  jobs.foldl (fun registry entry => remembered setting registry entry.1.event entry.1.uid) registry

theorem behind_append (setting : Setting) (registry : Registry) (jobs more : List (Job × Nat)) :
    behind setting registry (jobs ++ more) = behind setting (behind setting registry jobs) more :=
  List.foldl_append

theorem memories_behind (setting : Setting) (registry : Registry) (jobs : List (Job × Nat)) :
    registry.memories <+: (behind setting registry jobs).memories := by
  induction jobs generalizing registry with
  | nil => exact List.prefix_refl _
  | cons entry rest ih =>
      have hstep := (performed_recalling setting registry entry.1.event).memories
      refine List.IsPrefix.trans ?_ (ih (remembered setting registry entry.1.event entry.1.uid))
      rw [memories_remembered]
      exact hstep

/-- The memory of a slot that is new stays where it was put. -/
theorem getElem?_behind_of_new {fresh : Memory}
    (hmemories : (remembered setting registry event uid).memories = registry.memories ++ [fresh])
    (jobs : List (Job × Nat)) :
    (behind setting (remembered setting registry event uid) jobs).memories[
      registry.memories.length]? = some fresh := by
  obtain ⟨more, hmore⟩ := memories_behind setting (remembered setting registry event uid) jobs
  rw [← hmore, hmemories, List.append_assoc, List.getElem?_append_right (Nat.le_refl _),
    Nat.sub_self]
  rfl

theorem isKept_behind (hkept : registry.IsKept) (jobs : List (Job × Nat)) :
    (behind setting registry jobs).IsKept := by
  induction jobs generalizing registry with
  | nil => exact hkept
  | cons entry rest ih => exact ih (isKept_remembered hkept entry.1.event entry.1.uid)

/-- Jobs that come one after another, each on the slot that is recalled for it. -/
inductive Assigned (setting : Setting) : Registry → Nat → List (Job × Nat) → Prop where
  | nil (registry : Registry) (number : Nat) : Assigned setting registry number []
  | cons {registry : Registry} {number slot : Nat} {event : Event} {uid : Text}
      {jobs : List (Job × Nat)} (hidentity : event.object.identity = .ok uid)
      (hslot : (registry.recalled setting.cells event.object setting.template
        event.type.isNone).slot = .ok slot)
      (hrest : Assigned setting (remembered setting registry event uid) (number + 1) jobs) :
      Assigned setting registry number ((⟨number, uid, event⟩, slot) :: jobs)

theorem assigned_jobsOf (setting : Setting) (registry : Registry) (number : Nat)
    (events : List Event) :
    Assigned setting registry number (jobsOf setting registry number events) := by
  induction events generalizing registry number with
  | nil => exact .nil registry number
  | cons event rest ih =>
      have hbegins := begins_jobsOf setting registry number event rest
      generalize jobsOf setting registry number (event :: rest) = jobs at hbegins ⊢
      cases hbegins with
      | bookmark => exact ih registry number
      | fails => exact .nil registry number
      | job uid slot hevent hidentity hslot => exact .cons hidentity hslot (ih _ _)

/-! ### What the jobs tell of the slots -/

theorem Assigned.slot_ne (hassigned : Assigned setting registry number jobs)
    (hspent : registry.IsSpent slot) : ∀ entry ∈ jobs, entry.2 ≠ slot := by
  induction hassigned with
  | nil => simp
  | cons hidentity hslot hrest ih =>
      rename_i registry number found event uid jobs
      intro entry hentry
      rcases List.mem_cons.mp hentry with rfl | hmem
      · rintro rfl
        exact hspent.answer_ne (performed_recalling setting registry event)
          (recalls_recalling hidentity hslot).2
      · exact ih (isSpent_remembered hspent _ _) entry hmem

theorem IsKept.cons {entry : Job × Nat} {last : Nat} (hkept : IsKept jobs uid 0 last)
    (hentry : entry.1.uid = uid → entry.1.event.type ≠ some .deleted) :
    IsKept (entry :: jobs) uid 0 (last + 1) := by
  intro place found hfirst hlast hplace huid
  cases place with
  | zero =>
      obtain rfl : entry = found := by simpa using hplace
      exact hentry huid
  | succ place =>
      rw [List.getElem?_cons_succ] at hplace
      exact hkept place found (Nat.zero_le _) (by omega) hplace huid

theorem isKept_cons_succ {entry : Job × Nat} {first last : Nat} :
    IsKept (entry :: jobs) uid (first + 1) (last + 1) ↔ IsKept jobs uid first last := by
  refine ⟨IsKept.tail, fun hkept place found hfirst hlast hplace => ?_⟩
  obtain ⟨less, rfl⟩ : ∃ less, place = less + 1 := ⟨place - 1, by omega⟩
  rw [List.getElem?_cons_succ] at hplace
  exact hkept less found (by omega) (by omega) hplace

theorem isSpent_of_deleted (hkept : registry.IsKept) (hidentity : event.object.identity = .ok uid)
    (hslot : (registry.recalled setting.cells event.object setting.template
      event.type.isNone).slot = .ok slot) (hdeleted : event.type = some .deleted) :
    (remembered setting registry event uid).IsSpent slot := by
  rw [remembered, if_pos hdeleted]
  exact (Registry.owns_recalled hkept.remembered hkept.separate hslot hidentity).isSpent_forgetUid

/-- A job on the slot that a resource has by now shows that the resource is not deleted before. -/
theorem Assigned.isKept_of_lookup (hassigned : Assigned setting registry number jobs)
    (hkept : registry.IsKept) (hlookup : registry.slots.lookup uid = some slot) {last : Nat}
    {job : Job} (hjob : jobs[last]? = some (job, slot)) : IsKept jobs uid 0 last := by
  induction hassigned generalizing last with
  | nil => simp at hjob
  | cons hidentity hslot hrest ih =>
      rename_i registry number found event other jobs
      cases last with
      | zero => exact fun place _ _ hlt => absurd hlt (Nat.not_lt_zero place)
      | succ last =>
          rw [List.getElem?_cons_succ] at hjob
          have hstays := lookup_recalled hlookup hslot
          have hnot : other = uid → event.type ≠ some .deleted := by
            -- Otherwise the slot would be spent, and no later job would be on it.
            rintro rfl hdeleted
            rw [lookup_recalled_self hslot hidentity, Option.some.injEq] at hstays
            subst hstays
            exact hrest.slot_ne (isSpent_of_deleted hkept hidentity hslot hdeleted) _
              (List.mem_of_getElem? hjob) rfl
          exact (ih (isKept_remembered hkept _ _) (lookup_remembered hstays hnot) hjob).cons hnot

/-- Two jobs on one slot show that their resource is not deleted in between. -/
theorem Assigned.isKept_of_slot_eq (hassigned : Assigned setting registry number jobs)
    (hkept : registry.IsKept) {first last : Nat} {job next : Job} (hlt : first < last)
    (hfirst : jobs[first]? = some (job, slot)) (hlast : jobs[last]? = some (next, slot)) :
    IsKept jobs job.uid first last := by
  induction hassigned generalizing first last with
  | nil => simp at hfirst
  | cons hidentity hslot hrest ih =>
      rename_i registry number found event uid jobs
      -- The first of the two may be the job that comes here, but not the last.
      obtain ⟨last, rfl⟩ : ∃ less, last = less + 1 := ⟨last - 1, by omega⟩
      rw [List.getElem?_cons_succ] at hlast
      cases first with
      | zero =>
          rw [List.getElem?_cons_zero, Option.some.injEq, Prod.mk.injEq] at hfirst
          obtain ⟨rfl, rfl⟩ := hfirst
          have hnot : event.type ≠ some .deleted := fun hdeleted =>
            hrest.slot_ne (isSpent_of_deleted hkept hidentity hslot hdeleted) _
              (List.mem_of_getElem? hlast) rfl
          have hlookup : (remembered setting registry event uid).slots.lookup uid = some found :=
            lookup_remembered (lookup_recalled_self hslot hidentity) fun _ => hnot
          exact (hrest.isKept_of_lookup (isKept_remembered hkept _ _) hlookup hlast).cons
            fun _ => hnot
      | succ first =>
          rw [List.getElem?_cons_succ] at hfirst
          exact isKept_cons_succ.mpr
            (ih (isKept_remembered hkept _ _) (Nat.lt_of_succ_lt_succ hlt) hfirst hlast)

theorem jobsOn_cons (entry : Job × Nat) (jobs : List (Job × Nat)) (slot : Nat) :
    jobsOn slot (entry :: jobs) =
      if entry.2 = slot then entry.1 :: jobsOn slot jobs else jobsOn slot jobs := by
  unfold jobsOn
  by_cases hslot : entry.2 = slot <;> simp [hslot]

/-- **A slot that is new is for the first job on it**, and tells whether this is of a listing. -/
theorem Assigned.noticed (hassigned : Assigned setting registry number jobs)
    (hkept : registry.IsKept) (hle : registry.memories.length ≤ slot) {memory : Memory}
    (hmemory : (behind setting registry jobs).memories[slot]? = some memory) :
    ∃ job rest, jobsOn slot jobs = job :: rest ∧
      memory.noticedByListing = job.event.type.isNone := by
  induction hassigned with
  | nil registry number =>
      have hnone : registry.memories[slot]? = none := List.getElem?_eq_none hle
      rw [behind, List.foldl_nil, hnone] at hmemory
      exact absurd hmemory (by simp)
  | cons hidentity hslot hrest ih =>
      rename_i registry number found event uid jobs
      have hafter : (remembered setting registry event uid).IsKept :=
        isKept_remembered hkept event uid
      obtain ⟨known, -, ⟨hlookup, hsame⟩ | ⟨rfl, -, memo, hnew⟩⟩ := Registry.recalled_cases hslot
      · -- The slot was there before, and so is not the one that is asked about.
        have hlt := hkept.remembered _ (Registry.mem_of_lookup hlookup)
        have hne : found ≠ slot := fun heq => absurd hlt (by omega)
        rw [jobsOn_cons, if_neg hne]
        refine ih hafter ?_ hmemory
        rw [memories_remembered, hsame]
        exact hle
      · -- The slot is new; it is the first one that is, if it is the one that is asked about.
        have hmemories : (remembered setting registry event uid).memories =
            registry.memories ++ [{ memo, noticedByListing := event.type.isNone }] := by
          rw [memories_remembered, hnew]
        rw [jobsOn_cons]
        by_cases hfirst : registry.memories.length = slot
        · subst hfirst
          rw [if_pos rfl]
          refine ⟨_, _, rfl, ?_⟩
          have hfresh := (getElem?_behind_of_new hmemories jobs).symm.trans hmemory
          rw [← Option.some.inj hfresh]
        · rw [if_neg hfirst]
          refine ih hafter ?_ hmemory
          rw [hmemories, List.length_append, List.length_singleton]
          omega

/-- The last of the jobs for a resource. -/
def lastFor? (uid : Text) (jobs : List (Job × Nat)) : Option Job :=
  ((jobs.map Prod.fst).filter (·.uid = uid)).getLast?

theorem getLast?_filter_cons {α : Type} (keep : α → Bool) (entry : α) (rest : List α) :
    ((entry :: rest).filter keep).getLast? =
      if keep entry = true then some ((rest.filter keep).getLast?.getD entry)
      else (rest.filter keep).getLast? := by
  by_cases hkeep : keep entry = true
  · rw [List.filter_cons_of_pos hkeep, List.getLast?_cons, if_pos hkeep]
  · rw [List.filter_cons_of_neg hkeep, if_neg hkeep]

theorem lastFor?_cons (entry : Job × Nat) (jobs : List (Job × Nat)) (uid : Text) :
    lastFor? uid (entry :: jobs) =
      if entry.1.uid = uid then some ((lastFor? uid jobs).getD entry.1) else lastFor? uid jobs := by
  unfold lastFor?
  rw [List.map_cons, getLast?_filter_cons]
  simp only [decide_eq_true_eq]

/-- Whether a resource is remembered behind some jobs: its last job tells. -/
def Remains (registry : Registry) (jobs : List (Job × Nat)) (uid : Text) : Prop :=
  match lastFor? uid jobs with
  | some job => job.event.type ≠ some .deleted
  | none => uid ∈ registry.uids

/-- **What is remembered at last.** -/
theorem Assigned.mem_uids_iff (hassigned : Assigned setting registry number jobs) (uid : Text) :
    uid ∈ (behind setting registry jobs).uids ↔ Remains registry jobs uid := by
  induction hassigned with
  | nil => exact Iff.rfl
  | cons hidentity hslot hrest ih =>
      rename_i registry number found event other jobs
      refine ih.trans ?_
      have hmem := mem_uids_remembered hidentity hslot uid
      unfold Remains
      rw [lastFor?_cons]
      cases hlast : lastFor? uid jobs with
      | none =>
          by_cases hsame : other = uid
          · rw [if_pos hsame] at hmem ⊢
            exact hmem
          · rw [if_neg hsame] at hmem ⊢
            exact hmem
      | some job =>
          by_cases hsame : other = uid
          · rw [if_pos hsame]
            exact Iff.rfl
          · rw [if_neg hsame]

end Processing

end ResourceWatch
