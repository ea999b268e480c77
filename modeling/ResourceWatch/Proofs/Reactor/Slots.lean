import Mathlib.Data.List.Nodup
import ResourceWatch.Proofs.Reactor.Handling

/-!
# The slots of a resource

A slot is made for one resource and is never given to another. A resource keeps its slot until it is
deleted, and gets a new one when it is seen again.
-/

namespace ResourceWatch

namespace Registry

variable {registry : Registry} {cells : Cells} {object : Object} {template : Option Template}
  {listed : Bool} {slot : Nat} {uid other : Text}

/-- No two resources have the same memory. -/
def IsSeparate (registry : Registry) : Prop :=
  (registry.slots.map Prod.snd).Nodup

/-- A slot that there is, and that no other resource has. -/
structure Owns (registry : Registry) (uid : Text) (slot : Nat) : Prop where
  slot_lt : slot < registry.memories.length
  uid_eq : ∀ pair ∈ registry.slots, pair.2 = slot → pair.1 = uid

theorem isSeparate_empty : IsSeparate {} := List.nodup_nil

theorem IsSeparate.recalled (hseparate : registry.IsSeparate) (hremembered : registry.IsRemembered)
    (hslot : (registry.recalled cells object template listed).slot = .ok slot) :
    (registry.recalled cells object template listed).registry.IsSeparate := by
  obtain ⟨uid, -, ⟨-, hsame⟩ | ⟨rfl, -, memo, hnew⟩⟩ := recalled_cases hslot
  · rw [hsame]
    exact hseparate
  · have hold : registry.memories.length ∉ registry.slots.map Prod.snd := by
      intro hmem
      obtain ⟨pair, hpair, heq⟩ := List.mem_map.mp hmem
      exact absurd (hremembered pair hpair) (by omega)
    rw [hnew, IsSeparate, List.map_append, List.map_singleton, ← List.concat_eq_append]
    exact List.Nodup.concat hold hseparate

theorem IsSeparate.forgetUid (hseparate : registry.IsSeparate) (uid : Text) :
    (registry.forgetUid uid).IsSeparate :=
  List.Nodup.sublist (List.Sublist.map _ List.filter_sublist) hseparate

/-- The slot that is recalled for a resource is its own. -/
theorem owns_recalled (hremembered : registry.IsRemembered) (hseparate : registry.IsSeparate)
    (hslot : (registry.recalled cells object template listed).slot = .ok slot)
    (hidentity : object.identity = .ok uid) :
    (registry.recalled cells object template listed).registry.Owns uid slot := by
  obtain ⟨found, hfound, ⟨hlookup, hsame⟩ | ⟨rfl, -, memo, hnew⟩⟩ := recalled_cases hslot
  · obtain rfl : found = uid := by simpa [hfound] using hidentity
    have hmem := mem_of_lookup hlookup
    rw [hsame]
    exact ⟨hremembered _ hmem, fun pair hpair heq =>
      congrArg Prod.fst (List.inj_on_of_nodup_map hseparate hpair hmem heq)⟩
  · obtain rfl : found = uid := by simpa [hfound] using hidentity
    rw [hnew]
    refine ⟨by simp, fun pair hpair heq => ?_⟩
    rcases List.mem_append.mp hpair with hold | hlast
    · exact absurd (hremembered pair hold) (by omega)
    · rw [List.mem_singleton.mp hlast]

/-- A slot that a resource owns stays its own, whatever is recalled. -/
theorem Owns.recalled (howns : registry.Owns uid slot) {found : Nat}
    (hslot : (registry.recalled cells object template listed).slot = .ok found) :
    (registry.recalled cells object template listed).registry.Owns uid slot := by
  obtain ⟨other, -, ⟨-, hsame⟩ | ⟨rfl, -, memo, hnew⟩⟩ := recalled_cases hslot
  · rw [hsame]
    exact howns
  · have hlt := howns.slot_lt
    rw [hnew]
    refine ⟨by simp; omega, fun pair hpair heq => ?_⟩
    rcases List.mem_append.mp hpair with hold | hlast
    · exact howns.uid_eq pair hold heq
    · rw [List.mem_singleton.mp hlast] at heq
      omega

theorem Owns.forgetUid (howns : registry.Owns uid slot) (other : Text) :
    (registry.forgetUid other).Owns uid slot :=
  ⟨howns.slot_lt, fun pair hpair => howns.uid_eq pair (List.mem_filter.mp hpair).1⟩

theorem Owns.uid_eq_of_recalled (howns : registry.Owns uid slot)
    (hslot : (registry.recalled cells object template listed).slot = .ok slot)
    (hidentity : object.identity = .ok other) : other = uid := by
  obtain ⟨found, hfound, ⟨hlookup, -⟩ | ⟨heq, -⟩⟩ := recalled_cases hslot
  · obtain rfl : found = other := by simpa [hfound] using hidentity
    exact howns.uid_eq _ (mem_of_lookup hlookup) rfl
  · exact absurd howns.slot_lt (by omega)

end Registry

namespace Processing

variable {setting : Setting} {registry : Registry} {uid : Text} {slot : Nat}

/-- What is remembered behind an event of a resource. -/
def remembered (setting : Setting) (registry : Registry) (event : Event) (uid : Text) : Registry :=
  let found := registry.recalled setting.cells event.object setting.template event.type.isNone
  if event.type = some .deleted then found.registry.forgetUid uid else found.registry

/-- How the jobs for some events begin. -/
inductive Begins (setting : Setting) (registry : Registry) (number : Nat) (event : Event)
    (rest : List Event) : List (Job × Nat) → Prop where
  | bookmark (hbookmark : event.type = some .bookmark) :
      Begins setting registry number event rest (jobsOf setting registry number rest)
  | fails (hevent : event.type ≠ some .bookmark) : Begins setting registry number event rest []
  | job (uid : Text) (slot : Nat) (hevent : event.type ≠ some .bookmark)
      (hidentity : event.object.identity = .ok uid)
      (hslot : (registry.recalled setting.cells event.object setting.template
        event.type.isNone).slot = .ok slot) :
      Begins setting registry number event rest
        ((⟨number, uid, event⟩, slot) ::
          jobsOf setting (remembered setting registry event uid) (number + 1) rest)

theorem begins_jobsOf (setting : Setting) (registry : Registry) (number : Nat) (event : Event)
    (rest : List Event) :
    Begins setting registry number event rest
      (jobsOf setting registry number (event :: rest)) := by
  rw [jobsOf]
  split
  · rename_i hbookmark
    exact .bookmark hbookmark
  · rename_i hevent
    simp only
    split
    · rename_i uid slot hidentity hslot
      exact .job uid slot hevent hidentity hslot
    · exact .fails hevent

section Remembered

variable {event : Event} {other : Text} {found : Nat}

theorem remembered_isRemembered (hremembered : registry.IsRemembered)
    (hslot : (registry.recalled setting.cells event.object setting.template
      event.type.isNone).slot = .ok slot) :
    (remembered setting registry event uid).IsRemembered := by
  have hkeeps := Registry.keeps_recalled hremembered hslot
  unfold remembered
  split
  · exact (hkeeps.forgetUid uid).isRemembered
  · exact hkeeps.isRemembered

theorem remembered_isSeparate (hremembered : registry.IsRemembered) (hseparate : registry.IsSeparate)
    (hslot : (registry.recalled setting.cells event.object setting.template
      event.type.isNone).slot = .ok slot) :
    (remembered setting registry event uid).IsSeparate := by
  have hrecalled := hseparate.recalled hremembered hslot
  unfold remembered
  split
  · exact hrecalled.forgetUid uid
  · exact hrecalled

theorem owns_remembered_self (hremembered : registry.IsRemembered) (hseparate : registry.IsSeparate)
    (hslot : (registry.recalled setting.cells event.object setting.template
      event.type.isNone).slot = .ok slot) (hidentity : event.object.identity = .ok uid) :
    (remembered setting registry event uid).Owns uid slot := by
  have howns := Registry.owns_recalled hremembered hseparate hslot hidentity
  unfold remembered
  split
  · exact howns.forgetUid uid
  · exact howns

theorem owns_remembered (howns : registry.Owns uid slot)
    (hslot : (registry.recalled setting.cells event.object setting.template
      event.type.isNone).slot = .ok found) :
    (remembered setting registry event other).Owns uid slot := by
  have hrecalled := howns.recalled hslot
  unfold remembered
  split
  · exact hrecalled.forgetUid other
  · exact hrecalled

end Remembered

/-- A job is for the resource that its event is of. -/
theorem identity_jobsOf (number : Nat) (events : List Event) {job : Job}
    (hmem : (job, slot) ∈ jobsOf setting registry number events) :
    job.event.object.identity = .ok job.uid := by
  induction events generalizing registry number with
  | nil => simp [jobsOf] at hmem
  | cons event rest ih =>
      have hbegins := begins_jobsOf setting registry number event rest
      generalize jobsOf setting registry number (event :: rest) = jobs at hbegins hmem
      cases hbegins with
      | bookmark => exact ih _ hmem
      | fails => simp at hmem
      | job uid found hevent hidentity hslot =>
          rcases List.mem_cons.mp hmem with heq | hmem
          · rw [(Prod.mk.inj heq).1]
            exact hidentity
          · exact ih _ hmem

/-- All jobs on a slot that a resource owns are for that resource. -/
theorem uid_eq_of_owns (howns : registry.Owns uid slot) (number : Nat) (events : List Event)
    {job : Job} (hmem : (job, slot) ∈ jobsOf setting registry number events) : job.uid = uid := by
  induction events generalizing registry number with
  | nil => simp [jobsOf] at hmem
  | cons event rest ih =>
      have hbegins := begins_jobsOf setting registry number event rest
      generalize jobsOf setting registry number (event :: rest) = jobs at hbegins hmem
      cases hbegins with
      | bookmark => exact ih howns _ hmem
      | fails => simp at hmem
      | job other found hevent hidentity hslot =>
          rcases List.mem_cons.mp hmem with heq | hmem
          · rw [Prod.mk.injEq] at heq
            obtain ⟨rfl, rfl⟩ := heq
            exact howns.uid_eq_of_recalled hslot hidentity
          · exact ih (owns_remembered howns hslot) _ hmem

/-- **No slot has jobs of two resources.** -/
theorem uid_eq_of_slot_eq (hremembered : registry.IsRemembered) (hseparate : registry.IsSeparate)
    (number : Nat) (events : List Event) {first second : Job}
    (hfirst : (first, slot) ∈ jobsOf setting registry number events)
    (hsecond : (second, slot) ∈ jobsOf setting registry number events) :
    first.uid = second.uid := by
  induction events generalizing registry number with
  | nil => simp [jobsOf] at hfirst
  | cons event rest ih =>
      have hbegins := begins_jobsOf setting registry number event rest
      generalize jobsOf setting registry number (event :: rest) = jobs at hbegins hfirst hsecond
      cases hbegins with
      | bookmark => exact ih hremembered hseparate _ hfirst hsecond
      | fails => simp at hfirst
      | job uid found hevent hidentity hslot =>
          -- The slot of the first job is owned by its resource, and so are the jobs to come on it.
          have howns := owns_remembered_self hremembered hseparate hslot hidentity
          rcases List.mem_cons.mp hfirst with heq | hlater
          · rw [Prod.mk.injEq] at heq
            obtain ⟨rfl, rfl⟩ := heq
            rcases List.mem_cons.mp hsecond with heq | hlater
            · rw [(Prod.mk.inj heq).1]
            · exact (uid_eq_of_owns howns _ _ hlater).symm
          · rcases List.mem_cons.mp hsecond with heq | hlast
            · rw [Prod.mk.injEq] at heq
              obtain ⟨rfl, rfl⟩ := heq
              exact uid_eq_of_owns howns _ _ hlater
            · exact ih (remembered_isRemembered hremembered hslot)
                (remembered_isSeparate hremembered hseparate hslot) _ hlater hlast

/-! ### A resource that is not deleted -/

theorem lookup_recalled_self {cells : Cells} {object : Object} {template : Option Template}
    {listed : Bool} (hslot : (registry.recalled cells object template listed).slot = .ok slot)
    (hidentity : object.identity = .ok uid) :
    (registry.recalled cells object template listed).registry.slots.lookup uid = some slot := by
  obtain ⟨found, hfound, ⟨hlookup, hsame⟩ | ⟨-, hunknown, memo, hnew⟩⟩ :=
    Registry.recalled_cases hslot
  · obtain rfl : found = uid := by simpa [hfound] using hidentity
    rw [hsame, hlookup]
  · obtain rfl : found = uid := by simpa [hfound] using hidentity
    rw [hnew, List.lookup_append, hunknown]
    simp

theorem lookup_recalled {cells : Cells} {object : Object} {template : Option Template}
    {listed : Bool} {found : Nat} (hlookup : registry.slots.lookup uid = some slot)
    (hslot : (registry.recalled cells object template listed).slot = .ok found) :
    (registry.recalled cells object template listed).registry.slots.lookup uid = some slot := by
  obtain ⟨other, -, ⟨-, hsame⟩ | ⟨-, -, memo, hnew⟩⟩ := Registry.recalled_cases hslot
  · rw [hsame, hlookup]
  · rw [hnew, List.lookup_append, hlookup]
    rfl

theorem lookup_forgetUid {other : Text} (hne : uid ≠ other) :
    (registry.forgetUid other).slots.lookup uid = registry.slots.lookup uid := by
  rw [Registry.forgetUid]
  generalize registry.slots = slots
  induction slots with
  | nil => rfl
  | cons pair rest ih =>
      obtain ⟨key, found⟩ := pair
      by_cases hkey : key = other
      · have hother : (uid == key) = false := by simpa [hkey] using hne
        rw [List.filter_cons_of_neg (by simp [hkey]), List.lookup_cons, hother, ih]
      · rw [List.filter_cons_of_pos (by simp [hkey]), List.lookup_cons, List.lookup_cons, ih]

/-- A resource is still remembered behind an event, unless this was its deletion. -/
theorem lookup_remembered {event : Event} {other : Text}
    (hlookup : (registry.recalled setting.cells event.object setting.template
      event.type.isNone).registry.slots.lookup uid = some slot)
    (hkept : other = uid → event.type ≠ some .deleted) :
    (remembered setting registry event other).slots.lookup uid = some slot := by
  unfold remembered
  split
  · rename_i hdeleted
    have hne : uid ≠ other := fun heq => hkept heq.symm hdeleted
    rw [lookup_forgetUid hne, hlookup]
  · exact hlookup

/-- None of the jobs from one place up to another is for the deletion of a resource. -/
def IsKept (jobs : List (Job × Nat)) (uid : Text) (first last : Nat) : Prop :=
  ∀ place entry, first ≤ place → place < last → jobs[place]? = some entry → entry.1.uid = uid →
    entry.1.event.type ≠ some .deleted

theorem IsKept.tail {entry : Job × Nat} {jobs : List (Job × Nat)} {first last : Nat}
    (hkept : IsKept (entry :: jobs) uid (first + 1) (last + 1)) : IsKept jobs uid first last :=
  fun place other hfirst hlast hplace =>
    hkept (place + 1) other (by omega) (by omega) (by simpa using hplace)

theorem IsKept.mono {jobs : List (Job × Nat)} {first first' last : Nat}
    (hkept : IsKept jobs uid first last) (hle : first ≤ first') : IsKept jobs uid first' last :=
  fun place entry hfirst => hkept place entry (by omega)

/-- A resource that has a slot keeps it as long as it is not deleted. -/
theorem slot_eq_of_lookup (hlookup : registry.slots.lookup uid = some slot) (number : Nat)
    (events : List Event) {last found : Nat} {job : Job}
    (hjob : (jobsOf setting registry number events)[last]? = some (job, found))
    (huid : job.uid = uid) (hkept : IsKept (jobsOf setting registry number events) uid 0 last) :
    found = slot := by
  induction events generalizing registry number last with
  | nil => simp [jobsOf] at hjob
  | cons event rest ih =>
      have hbegins := begins_jobsOf setting registry number event rest
      generalize jobsOf setting registry number (event :: rest) = jobs at hbegins hjob hkept
      cases hbegins with
      | bookmark => exact ih hlookup _ hjob hkept
      | fails => simp at hjob
      | job other recalled hevent hidentity hslot =>
          have hstays := lookup_recalled hlookup hslot
          cases last with
          | zero =>
              rw [List.getElem?_cons_zero, Option.some.injEq, Prod.mk.injEq] at hjob
              obtain ⟨rfl, rfl⟩ := hjob
              obtain rfl : other = uid := huid
              rw [lookup_recalled_self hslot hidentity, Option.some.injEq] at hstays
              exact hstays
          | succ last =>
              rw [List.getElem?_cons_succ] at hjob
              refine ih (lookup_remembered hstays fun heq => ?_) _ hjob
                (hkept.mono (Nat.zero_le 1)).tail
              exact hkept 0 _ (Nat.le_refl 0) (Nat.succ_pos last) rfl heq

/-- **The jobs of a resource are on one slot as long as it is not deleted.** -/
theorem slot_eq_of_isKept (number : Nat) (events : List Event) {first last found : Nat}
    {job next : Job} (hlt : first < last)
    (hfirst : (jobsOf setting registry number events)[first]? = some (job, slot))
    (hlast : (jobsOf setting registry number events)[last]? = some (next, found))
    (huid : next.uid = job.uid)
    (hkept : IsKept (jobsOf setting registry number events) job.uid first last) :
    found = slot := by
  induction events generalizing registry number first last with
  | nil => simp [jobsOf] at hfirst
  | cons event rest ih =>
      have hbegins := begins_jobsOf setting registry number event rest
      generalize jobsOf setting registry number (event :: rest) = jobs at hbegins hfirst hlast hkept
      cases hbegins with
      | bookmark => exact ih _ hlt hfirst hlast hkept
      | fails => simp at hfirst
      | job uid recalled hevent hidentity hslot =>
          obtain ⟨last, rfl⟩ : ∃ less, last = less + 1 := ⟨last - 1, by omega⟩
          rw [List.getElem?_cons_succ] at hlast
          cases first with
          | zero =>
              rw [List.getElem?_cons_zero, Option.some.injEq, Prod.mk.injEq] at hfirst
              obtain ⟨rfl, rfl⟩ := hfirst
              refine slot_eq_of_lookup (lookup_remembered
                (lookup_recalled_self hslot hidentity) fun heq => ?_) _ rest hlast huid
                (hkept.mono (Nat.zero_le 1)).tail
              exact hkept 0 _ (Nat.le_refl 0) hlt rfl rfl
          | succ first =>
              rw [List.getElem?_cons_succ] at hfirst
              exact ih _ (Nat.lt_of_succ_lt_succ hlt) hfirst hlast hkept.tail

end Processing

end ResourceWatch
