import ResourceWatch.Proofs.Client.Reading
import ResourceWatch.Watch.Reading

/-!
# What a watch reads

The lines of a watch carry events up to the first line that is none, which may be an error event.
From the events follow the version that is remembered and the items that are handed over.
-/

namespace ResourceWatch

theorem ErrorClass.ofStatus_eq_gone (status : Number) :
    ofStatus status = .gone ↔ Number.same status 410 = true := by
  have hother (code : Number) (hcode : Number.same 410 code = false)
      (hgone : Number.same status 410 = true) : Number.same status code = false := by
    rw [Number.same, Number.place?_eq_of_same hgone, ← Number.same]
    exact hcode
  constructor
  · intro hclass
    cases hgone : Number.same status 410 with
    | true => rfl
    | false =>
        simp only [ofStatus, hgone, Bool.false_eq_true, if_false] at hclass
        repeat' split at hclass
        all_goals cases hclass
  · intro hgone
    have h401 := hother 401 (by decide +kernel) hgone
    have h403 := hother 403 (by decide +kernel) hgone
    have h404 := hother 404 (by decide +kernel) hgone
    have h409 := hother 409 (by decide +kernel) hgone
    simp [ofStatus, h401, h403, h404, h409, hgone]

namespace Watch

open Client

/-- The version of the last object that has one. -/
def lastVersion? (events : List WatchEvent) : Option Text :=
  (events.filterMap fun event => Object.resourceVersion? event.object).getLast?

theorem lastVersion?_append (first second : List WatchEvent) :
    lastVersion? (first ++ second) = (lastVersion? second).or (lastVersion? first) := by
  simp [lastVersion?, List.getLast?_append]

@[simp]
theorem lastVersion?_nil : lastVersion? [] = none := rfl

theorem lastVersion?_singleton (event : WatchEvent) :
    lastVersion? [event] = Object.resourceVersion? event.object := by
  cases hversion : Object.resourceVersion? event.object <;> simp [lastVersion?, hversion]

/-- The event on a line, an error event or another one. -/
def carried? (line : Text) : Option WatchEvent :=
  (Json.parse? line).bind fun value => (WatchEvent.check (some value)).toOption

/-- Whether a line carries an event that is no error. -/
def isEvent (line : Text) : Bool :=
  (carried? line).any fun event => event.type ≠ .error

/-- The events on lines, up to the first line that carries none or an error. -/
def eventsOf (lines : List Text) : List WatchEvent :=
  (lines.takeWhile isEvent).filterMap carried?

/-- The first line that carries no event, or an error. -/
def refused? (lines : List Text) : Option Text :=
  lines.find? fun line => !isEvent line

/-- Why a line carries no event that is no error: it is not JSON, its value is no event, or the
event is an error. -/
def refusal? (line : Text) : Option Failure :=
  match Json.parse? line with
  | none => some (.undecodable line)
  | some value =>
    match WatchEvent.check (some value) with
    | .error issues => some (.invalid issues)
    | .ok event => if event.type = .error then some (.api (errorOf event.object)) else none

/-- The object of the error event on a line. -/
def errorObject? (line : Text) : Option Object :=
  (carried? line).bind fun event => if event.type = .error then some event.object else none

/-- What an item is made of: all events but bookmarks. -/
def isItem (event : WatchEvent) : Bool :=
  event.type ≠ .bookmark

/-! ### One line -/

theorem mapError_ok {ε δ α : Type} (change : ε → δ) (value : α) :
    (Except.ok value).mapError change = .ok value := rfl

theorem mapError_error {ε δ α : Type} (change : ε → δ) (error : ε) :
    (Except.error error : Except ε α).mapError change = .error (change error) := rfl

/-- What is on a line: text that is not JSON, a value that is no event, an error event, or another
event. -/
inductive Carries (line : Text) : Prop where
  | text (hparse : Json.parse? line = none)
  | value (value : Json) (issues : List Schema.Issue) (hparse : Json.parse? line = some value)
      (hcheck : WatchEvent.check (some value) = .error issues)
  | error (value : Json) (object : Object) (hparse : Json.parse? line = some value)
      (hcheck : WatchEvent.check (some value) = .ok ⟨.error, object⟩)
  | event (value : Json) (found : WatchEvent) (hparse : Json.parse? line = some value)
      (hcheck : WatchEvent.check (some value) = .ok found) (hother : found.type ≠ .error)

theorem carries (line : Text) : Carries line := by
  cases hparse : Json.parse? line with
  | none => exact .text hparse
  | some value =>
      cases hcheck : WatchEvent.check (some value) with
      | error issues => exact .value value issues hparse hcheck
      | ok found =>
          by_cases herror : found.type = .error
          · obtain ⟨type, object⟩ := found
            subst herror
            exact .error value object hparse hcheck
          · exact .event value found hparse hcheck herror

/-- What a watch makes of a line is told by the text of the line alone. -/
theorem event_eq_error_iff {line : Text} {failure : Failure} :
    event line = .error failure ↔ refusal? line = some failure := by
  simp only [event, refusal?, Lines.record, bind, Except.bind]
  cases carries line with
  | text hparse => simp [hparse]
  | value value issues hparse hcheck => simp [hparse, hcheck, mapError_error]
  | error value object hparse hcheck => simp [hparse, hcheck, mapError_ok]
  | event value found hparse hcheck hother => simp [hparse, hcheck, hother, mapError_ok]

theorem event_eq_ok_iff {line : Text} {found : WatchEvent} :
    event line = .ok found ↔ carried? line = some found ∧ found.type ≠ .error := by
  simp only [event, carried?, Lines.record, bind, Except.bind]
  cases carries line with
  | text hparse => simp [hparse]
  | value value issues hparse hcheck => simp [hparse, hcheck, mapError_error, Except.toOption]
  | error value object hparse hcheck =>
      simp only [hparse, hcheck, mapError_ok, Except.toOption, Option.bind_some,
        Option.some.injEq, if_true, reduceCtorEq, false_iff, not_and]
      rintro rfl hother
      exact hother rfl
  | event value other hparse hcheck hother =>
      simp only [hparse, hcheck, mapError_ok, Except.toOption, Option.bind_some,
        Option.some.injEq, if_neg hother, Except.ok.injEq, iff_self_and]
      rintro rfl
      exact hother

theorem isEvent_eq_false_iff {line : Text} :
    isEvent line = false ↔ (refusal? line).isSome = true := by
  simp only [isEvent, carried?, refusal?]
  cases carries line with
  | text hparse => simp [hparse]
  | value value issues hparse hcheck => simp [hparse, hcheck, Except.toOption]
  | error value object hparse hcheck => simp [hparse, hcheck, Except.toOption]
  | event value found hparse hcheck hother => simp [hparse, hcheck, hother, Except.toOption]

theorem isEvent_of_event {line : Text} {found : WatchEvent} (hline : event line = .ok found) :
    isEvent line = true ∧ carried? line = some found := by
  obtain ⟨hcarried, hother⟩ := event_eq_ok_iff.mp hline
  exact ⟨by simp [isEvent, hcarried, hother], hcarried⟩

/-- An error event is refused as the error that its object stands for. -/
theorem refusal?_of_errorObject {line : Text} {object : Object}
    (hobject : errorObject? line = some object) :
    refusal? line = some (.api (errorOf object)) := by
  simp only [errorObject?, carried?] at hobject
  rw [refusal?]
  cases carries line with
  | text hparse => simp [hparse] at hobject
  | value value issues hparse hcheck => simp [hparse, hcheck, Except.toOption] at hobject
  | error value found hparse hcheck =>
      obtain rfl : found = object := by simpa [hparse, hcheck, Except.toOption] using hobject
      simp [hparse, hcheck]
  | event value found hparse hcheck hother =>
      simp [hparse, hcheck, hother, Except.toOption] at hobject

/-! ### The events on lines -/

theorem eventsOf_cons {line : Text} {found : WatchEvent} (hline : event line = .ok found)
    (rest : List Text) : eventsOf (line :: rest) = found :: eventsOf rest := by
  obtain ⟨hevent, hcarried⟩ := isEvent_of_event hline
  simp [eventsOf, hevent, hcarried]

theorem refused?_cons {line : Text} {found : WatchEvent} (hline : event line = .ok found)
    (rest : List Text) : refused? (line :: rest) = refused? rest := by
  simp [refused?, (isEvent_of_event hline).1]

/-- A line that is refused is the end of the events. -/
theorem of_event_error {line : Text} {failure : Failure} (hline : event line = .error failure)
    (rest : List Text) :
    eventsOf (line :: rest) = [] ∧ (refused? (line :: rest)).bind refusal? = some failure := by
  have hrefusal := event_eq_error_iff.mp hline
  have hevent : isEvent line = false := isEvent_eq_false_iff.mpr (by simp [hrefusal])
  simp [eventsOf, refused?, hevent, hrefusal]

/-- A line that is refused is refused for a reason. -/
theorem refused?_eq_none {lines : List Text} (hnone : (refused? lines).bind refusal? = none) :
    refused? lines = none := by
  cases hline : refused? lines with
  | none => rfl
  | some line =>
      have hevent : isEvent line = false := by simpa using List.find?_some hline
      have hrefusal := isEvent_eq_false_iff.mp hevent
      simp [hline] at hnone
      simp [hnone] at hrefusal

/-- **What a watch reads off lines.** -/
theorem transcript_changes (version : Option Text) (lines : List Text) :
    transcript changes version lines =
      { memory := (lastVersion? (eventsOf lines)).or version
        items := ((eventsOf lines).filter isItem).map .ofWatch
        failure := (refused? lines).bind refusal? } := by
  induction lines generalizing version with
  | nil => rfl
  | cons line rest ih =>
      simp only [transcript, changes]
      cases hline : event line with
      | error failure =>
          obtain ⟨hevents, hrefused⟩ := of_event_error hline rest
          simp [hevents, hrefused, Except.map]
      | ok found =>
          have hevents : eventsOf (line :: rest) = [found] ++ eventsOf rest :=
            eventsOf_cons hline rest
          simp only [Except.map, ih, hevents, refused?_cons hline, lastVersion?_append,
            lastVersion?_singleton, List.filter_append, List.map_append, Option.or_assoc]
          cases htype : decide (found.type = .bookmark) <;> simp_all [isItem]

/-- The code of the status that an object is. -/
def statusCode? (object : Object) : Option Number :=
  (Status.of? (some (.obj object))).bind Status.code

theorem isGone_errorOf (object : Object) :
    Failure.isGone (.api (errorOf object)) = true ↔
      ∃ code, statusCode? object = some code ∧ Number.same code 410 = true := by
  simp only [Failure.isGone, ApiError.errorClass, errorOf, decide_eq_true_eq,
    ErrorClass.ofStatus_eq_gone]
  rw [← statusCode?]
  cases statusCode? object with
  | none => simpa using (by decide +kernel : Number.same 500 410 = false)
  | some code => simp

/-- A line tells that the version is gone if it carries an error event whose status has that
code. -/
theorem isGone_refusal? (line : Text) :
    (∃ failure, refusal? line = some failure ∧ failure.isGone = true) ↔
      ∃ object code, errorObject? line = some object ∧ statusCode? object = some code ∧
        Number.same code 410 = true := by
  simp only [errorObject?, carried?, refusal?]
  cases carries line with
  | text hparse => simp [hparse, Failure.isGone]
  | value value issues hparse hcheck => simp [hparse, hcheck, Except.toOption, Failure.isGone]
  | error value object hparse hcheck => simp [hparse, hcheck, Except.toOption, isGone_errorOf]
  | event value found hparse hcheck hother => simp [hparse, hcheck, hother, Except.toOption]

end Watch

end ResourceWatch
