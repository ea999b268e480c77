import Mathlib.Data.Set.Card
import ResourceWatch.Proofs.Reactor.Slots

/-!
# The law of a registry

What a registry answers depends on what was asked of it before: a resource is remembered from its
recall on until it is forgotten, and has the same slot all that time, which no other time and no
other resource ever gets. Recalls made at once are recalls one after another, as each is one step.
-/

namespace ResourceWatch.Registry

/-- What can be asked of a registry. -/
inductive Operation where
  | recall (cells : Cells) (object : Object) (template : Option Template) (listed : Bool)
  | forget (object : Object)
  | has (object : Object)

def Operation.object : Operation → Object
  | .recall _ object _ _ => object
  | .forget object => object
  | .has object => object

inductive Answer where
  | slot (slot : Nat)
  | done
  | known (isKnown : Bool)
  | refused (failure : Failure)

/-- An operation and what came of it. -/
structure Act where
  operation : Operation
  answer : Answer
  /-- Whether the template was copied, or was tried to be. -/
  duplicated : Bool
  before : Registry
  after : Registry

def Answer.ofExcept {α : Type} (result : Except Failure α) (answer : α → Answer) : Answer :=
  match result with
  | .ok value => answer value
  | .error failure => .refused failure

def perform (registry : Registry) (operation : Operation) : Act :=
  match operation with
  | .recall cells object template listed =>
    let found := registry.recalled cells object template listed
    ⟨operation, .ofExcept found.slot .slot, found.duplicated, registry, found.registry⟩
  | .forget object =>
    ⟨operation, .ofExcept (registry.forget object) fun _ => .done, false, registry,
      (registry.forget object).toOption.getD registry⟩
  | .has object =>
    ⟨operation, .ofExcept (registry.has object) .known, false, registry, registry⟩

/-- All that comes of some operations, one after another. -/
def course (registry : Registry) : List Operation → List Act
  | [] => []
  | operation :: rest =>
    registry.perform operation :: (registry.perform operation).after.course rest

namespace Act

def Recalls (act : Act) (uid : Text) (slot : Nat) : Prop :=
  act.operation.object.identity = .ok uid ∧ act.answer = .slot slot

def Forgets (act : Act) (uid : Text) : Prop :=
  ∃ object, act.operation = .forget object ∧ object.identity = .ok uid

end Act

/-- A resource was recalled and was not forgotten since. -/
def Remembers (acts : List Act) (uid : Text) : Prop :=
  ∃ before act after slot, acts = before ++ act :: after ∧ act.Recalls uid slot ∧
    ∀ later ∈ after, ¬later.Forgets uid

variable {registry next : Registry} {operation : Operation} {act : Act} {acts more : List Act}
  {uid other : Text} {slot found : Nat}

/-! ### One operation -/

/-- All that can come of an operation. -/
inductive Performed (registry : Registry) : Operation → Act → Prop where
  | unidentified (operation : Operation) (failure : Failure)
      (hidentity : operation.object.identity = .error failure) :
      Performed registry operation ⟨operation, .refused failure, false, registry, registry⟩
  | hit (cells : Cells) (object : Object) (template : Option Template) (listed : Bool)
      (uid : Text) (slot : Nat) (hidentity : object.identity = .ok uid)
      (hlookup : registry.slots.lookup uid = some slot) :
      Performed registry (.recall cells object template listed)
        ⟨.recall cells object template listed, .slot slot, false, registry, registry⟩
  | uncopied (cells : Cells) (object : Object) (template : Template) (listed : Bool)
      (uid : Text) (failure : Failure) (hidentity : object.identity = .ok uid)
      (hlookup : registry.slots.lookup uid = none)
      (hcopy : template.duplicate cells = .error failure) :
      Performed registry (.recall cells object (some template) listed)
        ⟨.recall cells object (some template) listed, .refused failure, true, registry, registry⟩
  | made (cells : Cells) (object : Object) (template : Option Template) (listed : Bool)
      (uid : Text) (memo : Memo) (hidentity : object.identity = .ok uid)
      (hlookup : registry.slots.lookup uid = none)
      (hcopy : (template.map (Template.duplicate cells)).getD (.ok {}) = .ok memo) :
      Performed registry (.recall cells object template listed)
        ⟨.recall cells object template listed, .slot registry.memories.length, template.isSome,
          registry, ⟨registry.memories ++ [{ memo, noticedByListing := listed }],
            registry.slots ++ [(uid, registry.memories.length)]⟩⟩
  | forgets (object : Object) (uid : Text) (hidentity : object.identity = .ok uid) :
      Performed registry (.forget object)
        ⟨.forget object, .done, false, registry, registry.forgetUid uid⟩
  | tells (object : Object) (uid : Text) (hidentity : object.identity = .ok uid) :
      Performed registry (.has object)
        ⟨.has object, .known (registry.slots.lookup uid).isSome, false, registry, registry⟩

/-- **What comes of an operation.** -/
theorem performed_perform (registry : Registry) (operation : Operation) :
    Performed registry operation (registry.perform operation) := by
  cases hidentity : operation.object.identity with
  | error failure =>
      have hperform : registry.perform operation =
          ⟨operation, .refused failure, false, registry, registry⟩ := by
        cases operation <;>
          simp_all [perform, Operation.object, recalled, forget, has, Except.map, Answer.ofExcept,
            Except.toOption]
      rw [hperform]
      exact .unidentified operation failure hidentity
  | ok uid =>
      cases operation with
      | «recall» cells object template listed =>
          have hobject : object.identity = .ok uid := hidentity
          simp only [perform, recalled, hobject, recalledUid]
          cases hlookup : registry.slots.lookup uid with
          | some slot => exact .hit cells object template listed uid slot hobject hlookup
          | none =>
              cases template with
              | none => exact .made cells object none listed uid {} hobject hlookup rfl
              | some template =>
                  cases hcopy : template.duplicate cells with
                  | error failure =>
                      simp only [Option.map_some, Option.getD_some, hcopy]
                      exact .uncopied cells object template listed uid failure hobject hlookup hcopy
                  | ok memo =>
                      simp only [Option.map_some, Option.getD_some, hcopy]
                      exact .made cells object (some template) listed uid memo hobject hlookup hcopy
      | forget object =>
          have hobject : object.identity = .ok uid := hidentity
          simp only [perform, forget, hobject]
          exact .forgets object uid hobject
      | has object =>
          have hobject : object.identity = .ok uid := hidentity
          simp only [perform, has, hobject]
          exact .tells object uid hobject

/-- The resources that a registry remembers. -/
def uids (registry : Registry) : List Text :=
  registry.slots.map Prod.fst

theorem mem_uids_iff : uid ∈ registry.uids ↔ (registry.slots.lookup uid).isSome = true := by
  rw [uids]
  induction registry.slots with
  | nil => simp
  | cons pair rest ih =>
      obtain ⟨key, slot⟩ := pair
      rw [List.map_cons, List.mem_cons, ih, List.lookup_cons]
      by_cases hkey : uid = key
      · simp [hkey]
      · have hne : (uid == key) = false := by simpa using hkey
        simp [hkey, hne]

theorem lookup_eq_none_iff : registry.slots.lookup uid = none ↔ uid ∉ registry.uids := by
  rw [mem_uids_iff, Option.not_isSome_iff_eq_none]

/-- A registry that was kept in order: each resource is there once, with a memory of its own. -/
structure IsKept (registry : Registry) : Prop where
  remembered : registry.IsRemembered
  separate : registry.IsSeparate
  nodup : registry.uids.Nodup

theorem isKept_empty : IsKept {} :=
  ⟨isIdle_empty.isRemembered, isSeparate_empty, List.nodup_nil⟩

theorem IsKept.forgetUid (hkept : registry.IsKept) (uid : Text) :
    (registry.forgetUid uid).IsKept where
  remembered pair hpair := hkept.remembered pair (List.mem_filter.mp hpair).1
  separate := hkept.separate.forgetUid uid
  nodup := List.Nodup.sublist (List.Sublist.map _ List.filter_sublist) hkept.nodup

theorem mem_uids_forgetUid :
    uid ∈ (registry.forgetUid other).uids ↔ uid ∈ registry.uids ∧ uid ≠ other := by
  simp only [uids, Registry.forgetUid, List.mem_map, List.mem_filter, decide_eq_true_eq]
  constructor
  · rintro ⟨pair, ⟨hpair, hne⟩, rfl⟩
    exact ⟨⟨pair, hpair, rfl⟩, hne⟩
  · rintro ⟨⟨pair, hpair, rfl⟩, hne⟩
    exact ⟨pair, ⟨hpair, hne⟩, rfl⟩

theorem Performed.isKept (hperformed : Performed registry operation act) (hkept : registry.IsKept) :
    act.after.IsKept := by
  cases hperformed with
  | made cells object template listed uid memo hidentity hlookup hcopy =>
      have hnew : registry.memories.length ∉ registry.slots.map Prod.snd := by
        intro hmem
        obtain ⟨pair, hpair, heq⟩ := List.mem_map.mp hmem
        have hlt := hkept.remembered pair hpair
        omega
      refine ⟨?_, ?_, ?_⟩
      · intro pair hpair
        rw [List.length_append, List.length_singleton]
        rcases List.mem_append.mp hpair with hold | hlast
        · have hlt := hkept.remembered pair hold
          omega
        · rw [List.mem_singleton.mp hlast]
          exact Nat.lt_succ_self _
      · rw [IsSeparate, List.map_append, List.map_singleton, ← List.concat_eq_append]
        exact List.Nodup.concat hnew hkept.separate
      · rw [uids, List.map_append, List.map_singleton, ← List.concat_eq_append]
        exact List.Nodup.concat (lookup_eq_none_iff.mp hlookup) hkept.nodup
  | forgets object uid hidentity => exact hkept.forgetUid uid
  | unidentified | hit | uncopied | tells => exact hkept

/-- A resource is remembered behind an operation if it is recalled, or was remembered and is not
forgotten. -/
theorem Performed.mem_uids (hperformed : Performed registry operation act) (uid : Text) :
    uid ∈ act.after.uids ↔
      (∃ slot, act.Recalls uid slot) ∨ uid ∈ registry.uids ∧ ¬act.Forgets uid := by
  cases hperformed with
  | unidentified _ failure hidentity =>
      have hforgets :
          ¬Act.Forgets ⟨operation, .refused failure, false, registry, registry⟩ uid := by
        rintro ⟨object, rfl, hobject⟩
        simp [Operation.object, hobject] at hidentity
      simp [Act.Recalls, hforgets]
  | hit cells object template listed found slot hidentity hlookup =>
      have hmem : found ∈ registry.uids := mem_uids_iff.mpr (by rw [hlookup]; rfl)
      simp only [Act.Recalls, Act.Forgets, Operation.object, hidentity, Except.ok.injEq,
        Answer.slot.injEq, reduceCtorEq, false_and, exists_false, not_false_eq_true, and_true,
        exists_and_left, exists_eq', iff_or_self]
      rintro rfl
      exact hmem
  | uncopied => simp [Act.Recalls, Act.Forgets]
  | made cells object template listed found memo hidentity hlookup hcopy =>
      simp only [uids, List.map_append, List.map_singleton, List.mem_append, List.mem_singleton,
        Act.Recalls, Act.Forgets, Operation.object, hidentity, Except.ok.injEq, Answer.slot.injEq,
        reduceCtorEq, false_and, exists_false, not_false_eq_true, and_true, exists_and_left,
        exists_eq']
      rw [or_comm, eq_comm]
  | forgets object found hidentity =>
      rw [mem_uids_forgetUid]
      simp [Act.Recalls, Act.Forgets, hidentity, eq_comm]
  | tells => simp [Act.Recalls, Act.Forgets]

/-- Memories are only ever added. -/
theorem Performed.memories (hperformed : Performed registry operation act) :
    registry.memories <+: act.after.memories := by
  cases hperformed with
  | made => exact List.prefix_append _ _
  | unidentified | hit | uncopied | forgets | tells => exact List.prefix_refl _

/-- A slot that there is, and that no resource has. -/
structure IsSpent (registry : Registry) (slot : Nat) : Prop where
  slot_lt : slot < registry.memories.length
  free : ∀ pair ∈ registry.slots, pair.2 ≠ slot

theorem Owns.isSpent_forgetUid (howns : registry.Owns uid slot) :
    (registry.forgetUid uid).IsSpent slot where
  slot_lt := howns.slot_lt
  free pair hpair heq := by
    obtain ⟨hmem, hne⟩ := List.mem_filter.mp hpair
    simp only [ne_eq, decide_not, Bool.not_eq_eq_eq_not, Bool.not_true,
      decide_eq_false_iff_not] at hne
    exact hne (howns.uid_eq pair hmem heq)

theorem IsSpent.answer_ne (hspent : registry.IsSpent slot)
    (hperformed : Performed registry operation act) : act.answer ≠ .slot slot := by
  intro hanswer
  cases hperformed with
  | hit cells object template listed found place hidentity hlookup =>
      obtain rfl := Answer.slot.inj hanswer
      exact hspent.free _ (mem_of_lookup hlookup) rfl
  | made =>
      have hlt := hspent.slot_lt
      have heq := Answer.slot.inj hanswer
      omega
  | unidentified | uncopied | forgets | tells => simp at hanswer

theorem IsSpent.perform (hspent : registry.IsSpent slot)
    (hperformed : Performed registry operation act) : act.after.IsSpent slot := by
  cases hperformed with
  | made cells object template listed uid memo hidentity hlookup hcopy =>
      have hlt := hspent.slot_lt
      refine ⟨by simp only [List.length_append, List.length_singleton]; omega, fun pair hpair => ?_⟩
      rcases List.mem_append.mp hpair with hold | hlast
      · exact hspent.free pair hold
      · rw [List.mem_singleton.mp hlast]
        exact Nat.ne_of_gt hlt
  | forgets object uid hidentity =>
      exact ⟨hspent.slot_lt, fun pair hpair => hspent.free pair (List.mem_filter.mp hpair).1⟩
  | unidentified | hit | uncopied | tells => exact hspent

theorem Owns.perform (howns : registry.Owns uid slot)
    (hperformed : Performed registry operation act) : act.after.Owns uid slot := by
  cases hperformed with
  | made cells object template listed found memo hidentity hlookup hcopy =>
      have hlt := howns.slot_lt
      refine ⟨by simp only [List.length_append, List.length_singleton]; omega,
        fun pair hpair heq => ?_⟩
      rcases List.mem_append.mp hpair with hold | hlast
      · exact howns.uid_eq pair hold heq
      · rw [List.mem_singleton.mp hlast] at heq
        exact absurd heq (Nat.ne_of_gt hlt)
  | forgets object found hidentity => exact howns.forgetUid found
  | unidentified | hit | uncopied | tells => exact howns

/-- A slot that a resource owns is handed out for nothing else. -/
theorem Owns.uid_eq_of_recalls (howns : registry.Owns uid slot)
    (hperformed : Performed registry operation act) (hrecalls : act.Recalls other slot) :
    other = uid := by
  obtain ⟨hobject, hanswer⟩ := hrecalls
  cases hperformed with
  | hit cells object template listed found place hidentity hlookup =>
      obtain rfl := Answer.slot.inj hanswer
      obtain rfl : found = other := by simpa [Operation.object, hidentity] using hobject
      exact howns.uid_eq _ (mem_of_lookup hlookup) rfl
  | made =>
      have hlt := howns.slot_lt
      have heq := Answer.slot.inj hanswer
      omega
  | unidentified | uncopied | forgets | tells => simp at hanswer

/-- A resource that is recalled has its slot for itself. -/
theorem Performed.owns (hperformed : Performed registry operation act) (hkept : registry.IsKept)
    (hrecalls : act.Recalls uid slot) :
    act.after.slots.lookup uid = some slot ∧ act.after.Owns uid slot := by
  obtain ⟨hobject, hanswer⟩ := hrecalls
  cases hperformed with
  | hit cells object template listed found place hidentity hlookup =>
      obtain rfl := Answer.slot.inj hanswer
      obtain rfl : found = uid := by simpa [Operation.object, hidentity] using hobject
      have hmem := mem_of_lookup hlookup
      exact ⟨hlookup, hkept.remembered _ hmem, fun pair hpair heq =>
        congrArg Prod.fst (List.inj_on_of_nodup_map hkept.separate hpair hmem heq)⟩
  | made cells object template listed found memo hidentity hlookup hcopy =>
      obtain rfl := Answer.slot.inj hanswer
      obtain rfl : found = uid := by simpa [Operation.object, hidentity] using hobject
      refine ⟨by simp [List.lookup_append, hlookup], by simp, fun pair hpair heq => ?_⟩
      rcases List.mem_append.mp hpair with hold | hlast
      · exact absurd (hkept.remembered pair hold) (by omega)
      · rw [List.mem_singleton.mp hlast]
  | unidentified | uncopied | forgets | tells => simp at hanswer

/-- A resource keeps its slot until it is forgotten. -/
theorem Performed.lookup (hperformed : Performed registry operation act)
    (hlookup : registry.slots.lookup uid = some slot) (hkeeps : ¬act.Forgets uid) :
    act.after.slots.lookup uid = some slot := by
  cases hperformed with
  | made cells object template listed found memo hidentity _ =>
      simp [List.lookup_append, hlookup]
  | forgets object found hidentity =>
      have hne : uid ≠ found := fun heq => hkeeps ⟨object, rfl, heq ▸ hidentity⟩
      rw [Processing.lookup_forgetUid hne, hlookup]
  | unidentified | hit | uncopied | tells => exact hlookup

theorem Performed.eq_of_lookup (hperformed : Performed registry operation act)
    (hlookup : registry.slots.lookup uid = some slot) (hrecalls : act.Recalls uid found) :
    found = slot := by
  obtain ⟨hobject, hanswer⟩ := hrecalls
  cases hperformed with
  | hit cells object template listed other place hidentity hother =>
      obtain rfl := Answer.slot.inj hanswer
      obtain rfl : other = uid := by simpa [Operation.object, hidentity] using hobject
      exact Option.some.inj (hother.symm.trans hlookup)
  | made cells object template listed other memo hidentity hother =>
      obtain rfl : other = uid := by simpa [Operation.object, hidentity] using hobject
      simp [hlookup] at hother
  | unidentified | uncopied | forgets | tells => simp at hanswer

theorem Performed.isSpent_of_forgets (hperformed : Performed registry operation act)
    (howns : registry.Owns uid slot) (hforgets : act.Forgets uid) : act.after.IsSpent slot := by
  obtain ⟨object, hoperation, hobject⟩ := hforgets
  cases hperformed with
  | unidentified _ failure hidentity =>
      obtain rfl : operation = .forget object := hoperation
      simp [Operation.object, hobject] at hidentity
  | forgets found other hidentity =>
      obtain rfl := Operation.forget.inj hoperation
      obtain rfl : other = uid := by simpa [hidentity] using hobject
      exact howns.isSpent_forgetUid
  | hit | uncopied | made | tells => simp at hoperation

theorem Performed.known (hperformed : Performed registry operation act) {object : Object}
    (hoperation : act.operation = .has object) (hobject : object.identity = .ok uid) :
    ∃ isKnown, act.answer = .known isKnown ∧
      (isKnown = true ↔ (registry.slots.lookup uid).isSome = true) := by
  cases hperformed with
  | unidentified _ failure hidentity =>
      obtain rfl : operation = .has object := hoperation
      simp [Operation.object, hobject] at hidentity
  | tells found other hidentity =>
      obtain rfl := Operation.has.inj hoperation
      obtain rfl : other = uid := by simpa [hidentity] using hobject
      exact ⟨_, rfl, Iff.rfl⟩
  | hit | uncopied | made | forgets => simp at hoperation

theorem Performed.unchanged (hperformed : Performed registry operation act) {failure : Failure}
    (hanswer : act.answer = .refused failure) : act.after = act.before := by
  cases hperformed with
  | unidentified | uncopied => rfl
  | hit | made | forgets | tells => simp at hanswer

theorem Performed.duplicated_iff (hperformed : Performed registry operation act) :
    act.duplicated = true ↔ ∃ cells object template listed uid,
      act.operation = .recall cells object (some template) listed ∧
        object.identity = .ok uid ∧ uid ∉ registry.uids := by
  cases hperformed with
  | unidentified _ failure hidentity =>
      simp only [Bool.false_eq_true, false_iff]
      rintro ⟨cells, object, template, listed, uid, rfl, hobject, -⟩
      simp [Operation.object, hobject] at hidentity
  | hit cells object template listed uid slot hidentity hlookup =>
      simp only [Bool.false_eq_true, Operation.recall.injEq, false_iff]
      rintro ⟨cells, object, template, listed, other, ⟨rfl, rfl, rfl, rfl⟩, hobject, hunknown⟩
      obtain rfl : uid = other := by simpa [hidentity] using hobject
      simp [lookup_eq_none_iff.mpr hunknown] at hlookup
  | uncopied cells object template listed uid failure hidentity hlookup hcopy =>
      simp only [true_iff]
      exact ⟨cells, object, template, listed, uid, rfl, hidentity, lookup_eq_none_iff.mp hlookup⟩
  | made cells object template listed uid memo hidentity hlookup hcopy =>
      cases template with
      | none => simp
      | some template =>
          simp only [Option.isSome_some, true_iff]
          exact ⟨cells, object, template, listed, uid, rfl, hidentity,
            lookup_eq_none_iff.mp hlookup⟩
  | forgets => simp
  | tells => simp

theorem Performed.refused_iff (hperformed : Performed registry operation act) (failure : Failure) :
    act.answer = .refused failure ↔ act.operation.object.identity = .error failure ∨
      ∃ cells object template listed uid,
        act.operation = .recall cells object (some template) listed ∧ object.identity = .ok uid ∧
          uid ∉ registry.uids ∧ template.duplicate cells = .error failure := by
  cases hperformed with
  | unidentified _ found hidentity =>
      simp only [hidentity, Answer.refused.injEq, Except.error.injEq]
      refine ⟨.inl, ?_⟩
      rintro (heq | ⟨cells, object, template, listed, uid, rfl, hobject, -⟩)
      · exact heq
      · simp [Operation.object, hobject] at hidentity
  | hit cells object template listed uid slot hidentity hlookup =>
      simp only [reduceCtorEq, Operation.object, hidentity, Operation.recall.injEq, false_or,
        false_iff]
      rintro ⟨cells, object, template, listed, other, ⟨rfl, rfl, rfl, rfl⟩, hobject, hunknown, -⟩
      obtain rfl : uid = other := by simpa [hidentity] using hobject
      simp [lookup_eq_none_iff.mpr hunknown] at hlookup
  | uncopied cells object template listed uid found hidentity hlookup hcopy =>
      simp only [Answer.refused.injEq, Operation.object, hidentity, reduceCtorEq, false_or,
        Operation.recall.injEq, Option.some.injEq]
      constructor
      · rintro rfl
        exact ⟨cells, object, template, listed, uid, ⟨rfl, rfl, rfl, rfl⟩, hidentity,
          lookup_eq_none_iff.mp hlookup, hcopy⟩
      · rintro ⟨_, _, _, _, _, ⟨rfl, rfl, rfl, rfl⟩, -, -, hfailure⟩
        exact Except.error.inj (hcopy.symm.trans hfailure)
  | made cells object template listed uid memo hidentity hlookup hcopy =>
      simp only [reduceCtorEq, Operation.object, hidentity, Operation.recall.injEq, false_or,
        false_iff]
      rintro ⟨_, _, found, _, _, ⟨rfl, rfl, rfl, rfl⟩, -, -, hfailure⟩
      simp [hfailure] at hcopy
  | forgets object uid hidentity => simp [Operation.object, hidentity]
  | tells object uid hidentity => simp [Operation.object, hidentity]

/-! ### Many operations -/

/-- These acts lead from one registry to another. -/
inductive Leads : Registry → List Act → Registry → Prop where
  | nil (registry : Registry) : Leads registry [] registry
  | cons (registry last : Registry) (operation : Operation) (act : Act) (rest : List Act)
      (hperformed : Performed registry operation act) (hrest : Leads act.after rest last) :
      Leads registry (act :: rest) last

theorem exists_leads_course (registry : Registry) (operations : List Operation) :
    ∃ last, Leads registry (registry.course operations) last := by
  induction operations generalizing registry with
  | nil => exact ⟨registry, .nil registry⟩
  | cons operation rest ih =>
      obtain ⟨last, hrest⟩ := ih (registry.perform operation).after
      exact ⟨last, .cons registry last operation _ _ (performed_perform registry operation) hrest⟩

theorem Leads.split (hleads : Leads registry (acts ++ more) next) :
    ∃ middle, Leads registry acts middle ∧ Leads middle more next := by
  induction acts generalizing registry with
  | nil => exact ⟨registry, .nil registry, hleads⟩
  | cons act rest ih =>
      cases hleads with
      | cons _ _ operation _ _ hperformed hrest =>
          obtain ⟨middle, hbefore, hafter⟩ := ih hrest
          exact ⟨middle, .cons registry middle operation act rest hperformed hbefore, hafter⟩

theorem Leads.concat (hleads : Leads registry acts next)
    (hperformed : Performed next operation act) : Leads registry (acts ++ [act]) act.after := by
  induction hleads with
  | nil registry => exact .cons registry _ operation act [] hperformed (.nil _)
  | cons registry last first earlier rest hfirst _ ih =>
      exact .cons registry _ first earlier _ hfirst (ih hperformed)

theorem Leads.of_cons (hleads : Leads registry (act :: acts) next) :
    (∃ operation, Performed registry operation act) ∧ Leads act.after acts next := by
  cases hleads with
  | cons _ _ operation _ _ hperformed hrest => exact ⟨⟨operation, hperformed⟩, hrest⟩

/-- **What each operation preserves, all operations preserve.** -/
theorem Leads.induction {P : Registry → Prop} (hleads : Leads registry acts next)
    (hstep : ∀ registry operation act, act ∈ acts → Performed registry operation act → P registry →
      P act.after) (hregistry : P registry) : P next := by
  induction hleads with
  | nil registry => exact hregistry
  | cons registry last operation act rest hperformed _ ih =>
      refine ih (fun registry operation other hmem => ?_) ?_
      · exact hstep registry operation other (List.mem_cons_of_mem _ hmem)
      · exact hstep registry operation act List.mem_cons_self hperformed hregistry

theorem Leads.isKept (hleads : Leads registry acts next) (hkept : registry.IsKept) : next.IsKept :=
  hleads.induction (fun _ _ _ _ hperformed => hperformed.isKept) hkept

theorem Leads.owns (hleads : Leads registry acts next) (howns : registry.Owns uid slot) :
    next.Owns uid slot :=
  hleads.induction (P := fun registry => registry.Owns uid slot)
    (fun _ _ _ _ hperformed howns => howns.perform hperformed) howns

theorem Leads.isSpent (hleads : Leads registry acts next) (hspent : registry.IsSpent slot) :
    next.IsSpent slot :=
  hleads.induction (P := fun registry => registry.IsSpent slot)
    (fun _ _ _ _ hperformed hspent => hspent.perform hperformed) hspent

theorem Leads.lookup (hleads : Leads registry acts next)
    (hlookup : registry.slots.lookup uid = some slot) (hkeeps : ∀ act ∈ acts, ¬act.Forgets uid) :
    next.slots.lookup uid = some slot :=
  hleads.induction (P := fun registry => registry.slots.lookup uid = some slot)
    (fun _ _ act hmem hperformed hlookup => hperformed.lookup hlookup (hkeeps act hmem)) hlookup

theorem Leads.memories (hleads : Leads registry acts next) :
    registry.memories <+: next.memories :=
  hleads.induction (P := fun later => registry.memories <+: later.memories)
    (fun _ _ _ _ hperformed hbefore => hbefore.trans hperformed.memories) (List.prefix_refl _)

theorem remembers_cons :
    Remembers (act :: acts) uid ↔
      (∃ slot, act.Recalls uid slot) ∧ (∀ later ∈ acts, ¬later.Forgets uid) ∨
        Remembers acts uid := by
  constructor
  · rintro ⟨before, found, after, slot, hsplit, hrecalls, hkeeps⟩
    cases before with
    | nil =>
        obtain ⟨rfl, rfl⟩ := List.cons.inj hsplit
        exact .inl ⟨⟨slot, hrecalls⟩, hkeeps⟩
    | cons first before =>
        obtain ⟨rfl, hrest⟩ := List.cons.inj hsplit
        exact .inr ⟨before, found, after, slot, hrest, hrecalls, hkeeps⟩
  · rintro (⟨⟨slot, hrecalls⟩, hkeeps⟩ | ⟨before, found, after, slot, rfl, hrecalls, hkeeps⟩)
    · exact ⟨[], act, acts, slot, rfl, hrecalls, hkeeps⟩
    · exact ⟨act :: before, found, after, slot, rfl, hrecalls, hkeeps⟩

/-- **A registry remembers the resources that were recalled and not forgotten since.** -/
theorem Leads.mem_uids_iff (hleads : Leads registry acts next) (uid : Text) :
    uid ∈ next.uids ↔
      Remembers acts uid ∨ uid ∈ registry.uids ∧ ∀ act ∈ acts, ¬act.Forgets uid := by
  induction hleads with
  | nil registry => simp [Remembers]
  | cons registry last operation act rest hperformed _ ih =>
      rw [ih, hperformed.mem_uids, remembers_cons, List.forall_mem_cons, or_and_right,
        or_comm (b := Remembers rest uid), or_assoc, and_assoc]

/-- The slots that a registry has were handed out, or there before. -/
theorem Leads.exists_recalls (hleads : Leads registry acts next) {pair : Text × Nat}
    (hpair : pair ∈ next.slots) :
    pair ∈ registry.slots ∨ ∃ act ∈ acts, act.answer = .slot pair.2 := by
  induction hleads with
  | nil registry => exact .inl hpair
  | cons registry last operation act rest hperformed _ ih =>
      rcases ih hpair with hthere | ⟨later, hlater, hanswer⟩
      · cases hperformed with
        | made cells object template listed uid memo hidentity hlookup hcopy =>
            rcases List.mem_append.mp hthere with hold | hlast
            · exact .inl hold
            · rw [List.mem_singleton.mp hlast]
              exact .inr ⟨_, List.mem_cons_self, rfl⟩
        | forgets => exact .inl (List.mem_filter.mp hthere).1
        | unidentified | hit | uncopied | tells => exact .inl hthere
      · exact .inr ⟨later, List.mem_cons_of_mem _ hlater, hanswer⟩

/-- A slot that was handed out is there. -/
theorem Leads.slot_lt (hleads : Leads registry acts next) (hkept : registry.IsKept)
    (hact : act ∈ acts) (hanswer : act.answer = .slot slot) : slot < next.memories.length := by
  obtain ⟨before, after, rfl⟩ := List.append_of_mem hact
  obtain ⟨middle, hbefore, hrest⟩ := hleads.split
  obtain ⟨⟨operation, hperformed⟩, hafter⟩ := hrest.of_cons
  have hlt : slot < act.after.memories.length := by
    cases hperformed with
    | hit cells object template listed uid place hidentity hlookup =>
        obtain rfl := Answer.slot.inj hanswer
        exact (hbefore.isKept hkept).remembered _ (mem_of_lookup hlookup)
    | made =>
        obtain rfl := Answer.slot.inj hanswer
        simp
    | unidentified | uncopied | forgets | tells => simp at hanswer
  exact Nat.lt_of_lt_of_le hlt hafter.memories.length_le

/-! ### The law -/

/-- What a registry owes to what was asked of it, from the time when it was empty. -/
structure IsLawful (acts : List Act) : Prop where
  /-- Two recalls get the same slot for the same resource, unless it was forgotten between them. -/
  slots : ∀ before one between two after uid other slot found,
    acts = before ++ one :: (between ++ two :: after) → one.Recalls uid slot →
    two.Recalls other found →
      (found = slot ↔ other = uid ∧ ∀ act ∈ between, ¬act.Forgets uid)
  /-- A slot is not handed out again when its resource has been forgotten. -/
  spent : ∀ before one between gone behind two after uid slot,
    acts = before ++ one :: (between ++ gone :: (behind ++ two :: after)) →
    one.Recalls uid slot → gone.Forgets uid → two.answer ≠ .slot slot
  /-- A template is copied when a resource is recalled that is not remembered, and only then. -/
  copied : ∀ before act after, acts = before ++ act :: after →
    (act.duplicated = true ↔ ∃ cells object template listed uid,
      act.operation = .recall cells object (some template) listed ∧
        object.identity = .ok uid ∧ ¬Remembers before uid)
  /-- The first recall that gets a slot copies the template, if it has one, and tells whether the
  resource was noticed by a listing, once and for all. -/
  made : ∀ before act after cells object template listed slot, acts = before ++ act :: after →
    act.operation = .recall cells object template listed → act.answer = .slot slot →
    (∀ earlier ∈ before, earlier.answer ≠ .slot slot) →
      act.duplicated = template.isSome ∧ ∀ later ∈ act :: after,
        later.after.memories[slot]?.map Memory.noticedByListing = some listed
  /-- No other recall that gets the slot copies a template. -/
  hit : ∀ before act after slot, acts = before ++ act :: after → act.answer = .slot slot →
    (∃ earlier ∈ before, earlier.answer = .slot slot) → act.duplicated = false
  /-- A resource is known if it was recalled and not forgotten since. -/
  known : ∀ before act after object uid, acts = before ++ act :: after →
    act.operation = .has object → object.identity = .ok uid →
      ∃ isKnown, act.answer = .known isKnown ∧ (isKnown = true ↔ Remembers before uid)
  /-- The size counts these resources. -/
  size : ∀ before act after, acts = before ++ act :: after →
    act.after.size = {uid | Remembers (before ++ [act]) uid}.ncard
  /-- An operation is refused for an object without an identity, and a recall if the template of a
  resource that is not remembered has no copy. -/
  refused : ∀ before act after failure, acts = before ++ act :: after →
    (act.answer = .refused failure ↔ act.operation.object.identity = .error failure ∨
      ∃ cells object template listed uid,
        act.operation = .recall cells object (some template) listed ∧ object.identity = .ok uid ∧
          ¬Remembers before uid ∧ template.duplicate cells = .error failure)
  /-- What is refused changes nothing. -/
  unchanged : ∀ act ∈ acts, ∀ failure, act.answer = .refused failure → act.after = act.before

section Lawful

variable {before after : List Act} (hleads : Leads {} (before ++ act :: after) next)

include hleads

/-- The registry in front of an operation, and what becomes of it. -/
theorem Leads.at_act :
    ∃ middle operation, middle.IsKept ∧ (∀ uid, uid ∈ middle.uids ↔ Remembers before uid) ∧
      Performed middle operation act ∧ Leads {} before middle ∧ Leads act.after after next := by
  obtain ⟨middle, hbefore, hrest⟩ := hleads.split
  obtain ⟨⟨operation, hperformed⟩, hafter⟩ := hrest.of_cons
  refine ⟨middle, operation, hbefore.isKept isKept_empty, fun uid => ?_, hperformed, hbefore,
    hafter⟩
  rw [hbefore.mem_uids_iff, or_iff_left]
  simp [uids]

end Lawful

theorem Leads.slots (hleads : Leads {} acts next) {before between after : List Act} {one two : Act}
    (hsplit : acts = before ++ one :: (between ++ two :: after)) (hone : one.Recalls uid slot)
    (htwo : two.Recalls other found) :
    found = slot ↔ other = uid ∧ ∀ act ∈ between, ¬act.Forgets uid := by
  obtain ⟨middle, operation, hkept, -, hperformed, -, hrest⟩ := (hsplit ▸ hleads).at_act
  obtain ⟨hlookup, howns⟩ := hperformed.owns hkept hone
  obtain ⟨later, hbetween, hlast⟩ := hrest.split
  obtain ⟨⟨_, hfinal⟩, -⟩ := hlast.of_cons
  constructor
  · rintro rfl
    obtain rfl := (hbetween.owns howns).uid_eq_of_recalls hfinal htwo
    refine ⟨rfl, fun gone hgone hforgets => ?_⟩
    -- Once its resource is forgotten, the slot is no one's.
    obtain ⟨first, second, rfl⟩ := List.append_of_mem hgone
    obtain ⟨_, hfirst, hsecond⟩ := hbetween.split
    obtain ⟨⟨_, hforgotten⟩, hsecond⟩ := hsecond.of_cons
    have hspent := hforgotten.isSpent_of_forgets (hfirst.owns howns) hforgets
    exact (hsecond.isSpent hspent).answer_ne hfinal htwo.2
  · rintro ⟨rfl, hkeeps⟩
    exact hfinal.eq_of_lookup (hbetween.lookup hlookup hkeeps) htwo

theorem Leads.spent (hleads : Leads {} acts next) {before between behind after : List Act}
    {one gone two : Act}
    (hsplit : acts = before ++ one :: (between ++ gone :: (behind ++ two :: after)))
    (hone : one.Recalls uid slot) (hgone : gone.Forgets uid) : two.answer ≠ .slot slot := by
  obtain ⟨middle, operation, hkept, -, hperformed, -, hrest⟩ := (hsplit ▸ hleads).at_act
  obtain ⟨-, howns⟩ := hperformed.owns hkept hone
  obtain ⟨_, hbetween, hrest⟩ := hrest.split
  obtain ⟨⟨_, hforgotten⟩, hrest⟩ := hrest.of_cons
  obtain ⟨_, hbehind, hlast⟩ := hrest.split
  obtain ⟨⟨_, hfinal⟩, -⟩ := hlast.of_cons
  have hspent := hforgotten.isSpent_of_forgets (hbetween.owns howns) hgone
  exact (hbehind.isSpent hspent).answer_ne hfinal

theorem Leads.made (hleads : Leads {} acts next) {before after : List Act} {cells : Cells}
    {object : Object} {template : Option Template} {listed : Bool}
    (hsplit : acts = before ++ act :: after)
    (hoperation : act.operation = .recall cells object template listed)
    (hanswer : act.answer = .slot slot) (hnew : ∀ earlier ∈ before, earlier.answer ≠ .slot slot) :
    act.duplicated = template.isSome ∧ ∀ later ∈ act :: after,
      later.after.memories[slot]?.map Memory.noticedByListing = some listed := by
  obtain ⟨middle, operation, -, -, hperformed, hbefore, hafter⟩ := (hsplit ▸ hleads).at_act
  cases hperformed with
  | hit _ _ _ _ uid place hidentity hlookup =>
      obtain rfl := Answer.slot.inj hanswer
      rcases hbefore.exists_recalls (mem_of_lookup hlookup) with hold | ⟨earlier, hmem, hearlier⟩
      · simp at hold
      · exact absurd hearlier (hnew earlier hmem)
  | made _ _ _ flag uid memo hidentity hlookup hcopy =>
      obtain rfl := Answer.slot.inj hanswer
      obtain ⟨-, -, rfl, rfl⟩ := Operation.recall.inj hoperation
      refine ⟨rfl, fun later hlater => ?_⟩
      have hthere : (middle.memories ++
          [{ memo, noticedByListing := flag }])[middle.memories.length]? =
            some { memo, noticedByListing := flag } := List.getElem?_concat_length
      rcases List.mem_cons.mp hlater with rfl | hlater
      · rw [hthere]
        rfl
      · obtain ⟨first, second, rfl⟩ := List.append_of_mem hlater
        obtain ⟨_, hfirst, hsecond⟩ := hafter.split
        obtain ⟨⟨_, hperformed⟩, -⟩ := hsecond.of_cons
        obtain ⟨added, hmemories⟩ := hfirst.memories.trans hperformed.memories
        rw [← hmemories, List.getElem?_append_left (by simp), hthere]
        rfl
  | unidentified | uncopied | forgets | tells => simp at hanswer

theorem Leads.hit (hleads : Leads {} acts next) {before after : List Act}
    (hsplit : acts = before ++ act :: after) (hanswer : act.answer = .slot slot)
    (hold : ∃ earlier ∈ before, earlier.answer = .slot slot) : act.duplicated = false := by
  obtain ⟨middle, operation, -, -, hperformed, hbefore, -⟩ := (hsplit ▸ hleads).at_act
  obtain ⟨earlier, hmem, hearlier⟩ := hold
  have hlt := hbefore.slot_lt isKept_empty hmem hearlier
  cases hperformed with
  | made =>
      have heq := Answer.slot.inj hanswer
      omega
  | hit => rfl
  | unidentified | uncopied | forgets | tells => simp at hanswer

theorem Leads.size (hleads : Leads {} acts next) :
    next.size = {uid | Remembers acts uid}.ncard := by
  have hset : {uid | Remembers acts uid} = (next.uids.toFinset : Set Text) := by
    ext uid
    rw [Set.mem_ofPred_eq, Finset.mem_coe, List.mem_toFinset, hleads.mem_uids_iff, or_iff_left]
    simp [uids]
  rw [hset, Set.ncard_coe_finset, List.toFinset_card_of_nodup (hleads.isKept isKept_empty).nodup,
    uids, List.length_map, Registry.size]

/-- **The law of a registry.** -/
theorem isLawful_course (operations : List Operation) : IsLawful (course {} operations) := by
  obtain ⟨last, hleads⟩ := exists_leads_course {} operations
  generalize course {} operations = acts at hleads
  refine {
    slots := fun before one between two after uid other slot found hsplit hone htwo =>
      hleads.slots hsplit hone htwo
    spent := fun before one between gone behind two after uid slot hsplit hone hgone =>
      hleads.spent hsplit hone hgone
    made := fun before act after cells object template listed slot hsplit hoperation hanswer hnew =>
      hleads.made hsplit hoperation hanswer hnew
    hit := fun before act after slot hsplit hanswer hold => hleads.hit hsplit hanswer hold
    copied := ?_, known := ?_, size := ?_, refused := ?_, unchanged := ?_ }
  · intro before act after hsplit
    obtain ⟨middle, operation, -, huids, hperformed, -⟩ := (hsplit ▸ hleads).at_act
    simp only [hperformed.duplicated_iff, huids]
  · intro before act after object uid hsplit hoperation hobject
    obtain ⟨middle, operation, -, huids, hperformed, -⟩ := (hsplit ▸ hleads).at_act
    rw [← huids, mem_uids_iff]
    exact hperformed.known hoperation hobject
  · intro before act after hsplit
    obtain ⟨middle, operation, -, -, hperformed, hbefore, -⟩ := (hsplit ▸ hleads).at_act
    exact (hbefore.concat hperformed).size
  · intro before act after failure hsplit
    obtain ⟨middle, operation, -, huids, hperformed, -⟩ := (hsplit ▸ hleads).at_act
    simp only [hperformed.refused_iff, huids]
  · intro act hact failure hanswer
    obtain ⟨before, after, rfl⟩ := List.append_of_mem hact
    obtain ⟨middle, operation, -, -, hperformed, -⟩ := hleads.at_act
    exact hperformed.unchanged hanswer

end ResourceWatch.Registry
