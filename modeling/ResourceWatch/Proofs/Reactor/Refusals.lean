import ResourceWatch.Proofs.Reactor.Passes

/-!
# Events that are refused

An event of no resource is refused, and so is one of a new resource when the template cannot be
copied. Which event is the first of these shows in the events alone: a resource is new if it was not
known at the start and none of its events came before, or if the last one of them was its deletion.
-/

namespace ResourceWatch.Processing

variable {setting : Setting} {registry next other : Registry} {template : Option Template}
  {cells : Cells} {event found : Event} {events before taken : List Event} {uid wanted : Text}
  {slot : Nat} {failure : Failure} {refusal : Option Failure}

/-! ### What the events tell of the resources -/

/-- The last of the events of a resource. -/
def lastOf? (uid : Text) (events : List Event) : Option Event :=
  (events.filter fun event =>
    event.type ≠ some .bookmark ∧ event.object.uid? = some uid).getLast?

/-- Whether a resource is known behind some events: its last event tells. -/
def IsKnown (registry : Registry) (events : List Event) (uid : Text) : Prop :=
  match lastOf? uid events with
  | some event => event.type ≠ some .deleted
  | none => uid ∈ registry.uids

/-- What an event is refused with that comes behind some others. -/
inductive Refuses (template : Option Template) (cells : Cells) (registry : Registry)
    (before : List Event) (event : Event) : Failure → Prop where
  | unidentified (hevent : event.type ≠ some .bookmark) (huid : event.object.uid? = none) :
      Refuses template cells registry before event .missingIdentity
  | uncopied (uid : Text) (original : Template) (failure : Failure)
      (hevent : event.type ≠ some .bookmark) (huid : event.object.uid? = some uid)
      (hunknown : ¬IsKnown registry before uid) (htemplate : template = some original)
      (hcopy : original.duplicate cells = .error failure) :
      Refuses template cells registry before event failure

/-- None of these events is refused. -/
def Accepts (template : Option Template) (cells : Cells) (registry : Registry)
    (events : List Event) : Prop :=
  ∀ before event after failure, events = before ++ event :: after →
    ¬Refuses template cells registry before event failure

/-- How far events are taken, and what the next one is refused with. -/
inductive Admits (template : Option Template) (cells : Cells) (registry : Registry)
    (events : List Event) : List Event → Option Failure → Prop where
  | all (haccepts : Accepts template cells registry events) :
      Admits template cells registry events events none
  | upTo (taken after : List Event) (event : Event) (failure : Failure)
      (hevents : events = taken ++ event :: after)
      (haccepts : Accepts template cells registry taken)
      (hrefuses : Refuses template cells registry taken event failure) :
      Admits template cells registry events taken (some failure)

theorem lastOf?_cons (event : Event) (events : List Event) (uid : Text) :
    lastOf? uid (event :: events) =
      if event.type ≠ some .bookmark ∧ event.object.uid? = some uid then
        some ((lastOf? uid events).getD event)
      else lastOf? uid events := by
  unfold lastOf?
  rw [getLast?_filter_cons]
  simp only [decide_eq_true_eq]

theorem refuses_cons_iff
    (hknown : ∀ before wanted, IsKnown registry (event :: before) wanted ↔
      IsKnown next before wanted) :
    Refuses template cells registry (event :: before) found failure ↔
      Refuses template cells next before found failure := by
  constructor
  · rintro (⟨hevent, huid⟩ | ⟨uid, original, _, hevent, huid, hunknown, htemplate, hcopy⟩)
    · exact .unidentified hevent huid
    · exact .uncopied uid original failure hevent huid ((hknown _ _).not.mp hunknown) htemplate
        hcopy
  · rintro (⟨hevent, huid⟩ | ⟨uid, original, _, hevent, huid, hunknown, htemplate, hcopy⟩)
    · exact .unidentified hevent huid
    · exact .uncopied uid original failure hevent huid ((hknown _ _).not.mpr hunknown) htemplate
        hcopy

theorem accepts_nil : Accepts template cells registry [] :=
  fun _ _ _ _ hevents => absurd hevents (by simp)

theorem Accepts.cons (haccepts : Accepts template cells next events)
    (hfirst : ∀ failure, ¬Refuses template cells registry [] event failure)
    (hknown : ∀ before wanted, IsKnown registry (event :: before) wanted ↔
      IsKnown next before wanted) :
    Accepts template cells registry (event :: events) := by
  intro before found after failure hevents
  cases before with
  | nil =>
      obtain ⟨rfl, -⟩ := List.cons_eq_cons.mp hevents
      exact hfirst failure
  | cons first before =>
      obtain ⟨rfl, hrest⟩ := List.cons_eq_cons.mp hevents
      exact (refuses_cons_iff hknown).not.mpr (haccepts before found after failure hrest)

theorem Admits.cons (hadmits : Admits template cells next events taken refusal)
    (hfirst : ∀ failure, ¬Refuses template cells registry [] event failure)
    (hknown : ∀ before wanted, IsKnown registry (event :: before) wanted ↔
      IsKnown next before wanted) :
    Admits template cells registry (event :: events) (event :: taken) refusal := by
  cases hadmits with
  | all haccepts => exact .all (haccepts.cons hfirst hknown)
  | upTo taken after found failure hevents haccepts hrefuses =>
      exact .upTo (event :: taken) after found failure (by rw [hevents, List.cons_append])
        (haccepts.cons hfirst hknown) ((refuses_cons_iff hknown).mpr hrefuses)

/-! ### The first of the events -/

theorem identity_eq_ok_iff : event.object.identity = .ok uid ↔ event.object.uid? = some uid := by
  rw [Object.identity]
  cases event.object.uid? <;> simp

theorem identity_eq_error_iff :
    event.object.identity = .error failure ↔
      event.object.uid? = none ∧ failure = .missingIdentity := by
  rw [Object.identity]
  cases event.object.uid? <;> simp [eq_comm]

/-- The first event is refused exactly if no slot is recalled for it. -/
theorem refuses_nil_iff (hevent : event.type ≠ some .bookmark) :
    Refuses setting.template setting.cells registry [] event failure ↔
      (registry.recalled setting.cells event.object setting.template event.type.isNone).slot =
        .error failure := by
  have hanswer : (registry.perform (recalling setting event)).answer = .refused failure ↔
      (registry.recalled setting.cells event.object setting.template event.type.isNone).slot =
        .error failure := by
    simp only [recalling, Registry.perform]
    cases (registry.recalled setting.cells event.object setting.template
      event.type.isNone).slot <;> simp [Registry.Answer.ofExcept]
  rw [← hanswer, (performed_recalling setting registry event).refused_iff]
  constructor
  · rintro (⟨-, huid⟩ | ⟨uid, original, _, -, huid, hunknown, htemplate, hcopy⟩)
    · exact .inl (identity_eq_error_iff.mpr ⟨huid, rfl⟩)
    · refine .inr ⟨setting.cells, event.object, original, event.type.isNone, uid, ?_,
        identity_eq_ok_iff.mpr huid, hunknown, hcopy⟩
      rw [← htemplate]
      rfl
  · rintro (hidentity | ⟨_, _, original, _, uid, hoperation, hidentity, hunknown, hcopy⟩)
    · obtain ⟨huid, rfl⟩ := identity_eq_error_iff.mp hidentity
      exact .unidentified hevent huid
    · obtain ⟨rfl, rfl, htemplate, -⟩ := Registry.Operation.recall.inj hoperation
      exact .uncopied uid original failure hevent (identity_eq_ok_iff.mp hidentity) hunknown
        htemplate hcopy

theorem not_refuses_bookmark (hbookmark : event.type = some .bookmark) :
    ¬Refuses template cells registry before event failure := by
  rintro (⟨hevent, -⟩ | ⟨_, _, _, hevent, -⟩)
  · exact hevent hbookmark
  · exact hevent hbookmark

theorem isKnown_cons_bookmark (hbookmark : event.type = some .bookmark) (before : List Event)
    (wanted : Text) :
    IsKnown registry (event :: before) wanted ↔ IsKnown registry before wanted := by
  unfold IsKnown
  rw [lastOf?_cons, if_neg fun hevent => hevent.1 hbookmark]

/-- What is known behind an event and some others is what is known behind the others on the registry
that the first one leaves. -/
theorem isKnown_cons (hevent : event.type ≠ some .bookmark)
    (hidentity : event.object.identity = .ok uid)
    (hslot : (registry.recalled setting.cells event.object setting.template
      event.type.isNone).slot = .ok slot) (before : List Event) (wanted : Text) :
    IsKnown registry (event :: before) wanted ↔
      IsKnown (remembered setting registry event uid) before wanted := by
  have huid := identity_eq_ok_iff.mp hidentity
  have hmem := mem_uids_remembered hidentity hslot wanted
  unfold IsKnown
  rw [lastOf?_cons]
  by_cases hsame : uid = wanted
  · rw [if_pos ⟨hevent, hsame ▸ huid⟩]
    cases hlast : lastOf? wanted before with
    | none => simpa [hsame] using hmem.symm
    | some last => exact Iff.rfl
  · rw [if_neg fun hof => hsame (Option.some.inj (huid.symm.trans hof.2))]
    cases hlast : lastOf? wanted before with
    | none => simpa [hsame] using hmem.symm
    | some last => exact Iff.rfl

/-! ### The jobs -/

/-- What the first event fails with that does. -/
def refusal? (setting : Setting) (registry : Registry) : List Event → Option Failure
  | [] => none
  | event :: rest =>
    if event.type = some .bookmark then refusal? setting registry rest
    else
      match event.object.identity, (registry.recalled setting.cells event.object setting.template
          event.type.isNone).slot with
      | .error failure, _ | _, .error failure => some failure
      | .ok uid, .ok _ => refusal? setting (remembered setting registry event uid) rest

theorem refusal?_congr (hsame : registry.SameSlots other) (events : List Event) :
    refusal? setting registry events = refusal? setting other events := by
  induction events generalizing registry other with
  | nil => rfl
  | cons event rest ih =>
      obtain ⟨hslot, hregistry⟩ :=
        hsame.recalled setting.cells event.object setting.template event.type.isNone
      simp only [refusal?, remembered, hslot, ih hsame]
      split
      · rfl
      · split
        · rfl
        · rfl
        · split
          · rw [ih (hregistry.forgetUid _)]
          · rw [ih hregistry]

theorem jobsOf_bookmark (setting : Setting) (registry : Registry) (number : Nat)
    (rest : List Event) (hbookmark : event.type = some .bookmark) :
    jobsOf setting registry number (event :: rest) = jobsOf setting registry number rest ∧
      refusal? setting registry (event :: rest) = refusal? setting registry rest := by
  rw [jobsOf, refusal?, if_pos hbookmark, if_pos hbookmark]
  exact ⟨rfl, rfl⟩

theorem jobsOf_refused (hevent : event.type ≠ some .bookmark)
    (hslot : (registry.recalled setting.cells event.object setting.template
      event.type.isNone).slot = .error failure) (number : Nat) (rest : List Event) :
    jobsOf setting registry number (event :: rest) = [] ∧
      refusal? setting registry (event :: rest) = some failure := by
  cases hidentity : event.object.identity with
  | error found =>
      obtain rfl : found = failure := by simpa [Registry.recalled, hidentity] using hslot
      simp only [jobsOf, refusal?, if_neg hevent, hidentity, and_self]
  | ok uid => simp only [jobsOf, refusal?, if_neg hevent, hidentity, hslot, and_self]

theorem jobsOf_recalled (hevent : event.type ≠ some .bookmark)
    (hidentity : event.object.identity = .ok uid)
    (hslot : (registry.recalled setting.cells event.object setting.template
      event.type.isNone).slot = .ok slot) (number : Nat) (rest : List Event) :
    jobsOf setting registry number (event :: rest) =
        (⟨number, uid, event⟩, slot) ::
          jobsOf setting (remembered setting registry event uid) (number + 1) rest ∧
      refusal? setting registry (event :: rest) =
        refusal? setting (remembered setting registry event uid) rest := by
  simp only [jobsOf, refusal?, if_neg hevent, hidentity, hslot, and_true]
  rfl

/-- **There are jobs for the events up to the first one that is refused.** -/
theorem admits_jobsOf (setting : Setting) (registry : Registry) (number : Nat)
    (events : List Event) :
    ∃ taken, Admits setting.template setting.cells registry events taken
        (refusal? setting registry events) ∧
      (jobsOf setting registry number events).map (·.1.event) =
        taken.filter fun event => event.type ≠ some .bookmark := by
  -- Each event that is taken moves the registry on, and what is known with it.
  induction events generalizing registry number with
  | nil => exact ⟨[], .all accepts_nil, rfl⟩
  | cons event rest ih =>
      by_cases hevent : event.type = some .bookmark
      · obtain ⟨taken, hadmits, hjobs⟩ := ih registry number
        obtain ⟨hbegins, hrefusal⟩ := jobsOf_bookmark setting registry number rest hevent
        rw [hbegins, hrefusal]
        refine ⟨event :: taken, hadmits.cons (fun _ => not_refuses_bookmark hevent)
          (isKnown_cons_bookmark hevent), ?_⟩
        rw [hjobs, List.filter_cons_of_neg (by simpa using hevent)]
      · cases hslot : (registry.recalled setting.cells event.object setting.template
            event.type.isNone).slot with
        | error failure =>
            obtain ⟨hbegins, hrefusal⟩ := jobsOf_refused hevent hslot number rest
            rw [hbegins, hrefusal]
            exact ⟨[], .upTo [] rest event failure rfl accepts_nil
              ((refuses_nil_iff hevent).mpr hslot), rfl⟩
        | ok slot =>
            obtain ⟨uid, hidentity, -⟩ := Registry.recalled_cases hslot
            obtain ⟨hbegins, hrefusal⟩ := jobsOf_recalled hevent hidentity hslot number rest
            obtain ⟨taken, hadmits, hjobs⟩ :=
              ih (remembered setting registry event uid) (number + 1)
            have hfirst (failure : Failure) :
                ¬Refuses setting.template setting.cells registry [] event failure := by
              rw [refuses_nil_iff hevent, hslot]
              simp
            rw [hbegins, hrefusal]
            refine ⟨event :: taken, hadmits.cons hfirst (isKnown_cons hevent hidentity hslot), ?_⟩
            rw [List.map_cons, hjobs, List.filter_cons_of_pos (by simpa using hevent)]

end ResourceWatch.Processing
