import Mathlib.Data.List.Basic
import ResourceWatch.Log.Logging

/-!
# Lines at a level

Which of the lines of debugging are written at another level. A warning that logging gives about
itself is written at every level; of all other records the level alone decides.
-/

namespace ResourceWatch

namespace Log

/-- Not a category of the records that logging makes about itself. -/
def IsOrdinary (category : List Text) : Prop :=
  metaCategory.isPrefixOf category = false

def AreOrdinary (records : List Record) : Prop :=
  ∀ record ∈ records, IsOrdinary record.category

theorem areOrdinary_nil : AreOrdinary [] := by
  simp [AreOrdinary]

theorem areOrdinary_singleton {record : Record} :
    AreOrdinary [record] ↔ IsOrdinary record.category := by
  simp [AreOrdinary]

theorem areOrdinary_append {first second : List Record} :
    AreOrdinary (first ++ second) ↔ AreOrdinary first ∧ AreOrdinary second := by
  simp [AreOrdinary, or_imp, forall_and]

theorem areOrdinary_inOrder {records : List Record} :
    AreOrdinary (inOrder records) ↔ AreOrdinary records := by
  simp [AreOrdinary, inOrder]

/-- A line that was written, with the level of its record. -/
structure Line where
  severity : Severity
  text : Text
deriving DecidableEq

def Record.line? (environment : Environment) (record : Record) : Option Line :=
  (Log.line? environment record).map fun text => ⟨record.severity, text⟩

theorem Record.severity_of_line? {environment : Environment} {record : Record} {line : Line}
    (hline : record.line? environment = some line) : line.severity = record.severity := by
  obtain ⟨text, -, rfl⟩ := Option.map_eq_some_iff.mp hline
  rfl

/-- The lines that are written for records. -/
def gradedLines (config : LoggingConfig) (records : List Record) : List Line :=
  (records.filter (isRouted config.level)).filterMap (Record.line? config.environment)

theorem map_text_gradedLines (config : LoggingConfig) (records : List Record) :
    (gradedLines config records).map Line.text = lines config records := by
  unfold gradedLines lines
  rw [List.map_filterMap]
  congr 1
  funext record
  simp [Record.line?, Function.comp_def]

theorem isRouted_iff {record : Record} (hordinary : IsOrdinary record.category)
    (level : LogLevel) :
    isRouted level record = true ↔
      isRouted .debug record = true ∧ (Severity.ofLevel level).rank ≤ record.severity.rank := by
  have hdebug : (Severity.ofLevel .debug).rank ≤ (Severity.ofLevel level).rank := by
    cases level <;> decide
  simp only [isRouted, show metaCategory.isPrefixOf record.category = false from hordinary,
    Bool.false_and, Bool.or_false, Bool.and_eq_true, decide_eq_true_eq]
  constructor
  · rintro ⟨hroot, hle⟩
    exact ⟨⟨hroot, Nat.le_trans hdebug hle⟩, hle⟩
  · rintro ⟨⟨hroot, -⟩, hle⟩
    exact ⟨hroot, hle⟩

theorem gradedLines_eq_filter {records : List Record} (hordinary : AreOrdinary records)
    (level : LogLevel) (environment : Environment) :
    gradedLines ⟨level, environment⟩ records =
      (gradedLines ⟨.debug, environment⟩ records).filter fun line =>
        (Severity.ofLevel level).rank ≤ line.severity.rank := by
  simp only [gradedLines, List.filter_filterMap, List.filterMap_filter]
  refine List.filterMap_congr fun record hmem => ?_
  have hrouted := isRouted_iff (hordinary record hmem) level
  cases hline : record.line? environment with
  | none => simp
  | some line =>
      have hseverity := Record.severity_of_line? hline
      by_cases hle : (Severity.ofLevel level).rank ≤ record.severity.rank <;>
        by_cases hdebug : isRouted .debug record = true <;>
        simp [Option.filter, hrouted, hle, hdebug, hseverity]

end Log

namespace Logging

/-- The set-up that was made here with a configuration. -/
def ofConfig (config : LoggingConfig) : Logging :=
  ⟨some (some config), true⟩

theorem configure?_ofConfig (config other : LoggingConfig) :
    (ofConfig config).configure? other = some (ofConfig config) :=
  rfl

/-- While nothing is set up, logging can be set up, or was set up and taken away since. -/
theorem exists_configure?_of_bare {logging : Logging} (hbare : logging.installed = none)
    (config : LoggingConfig) : ∃ next, logging.configure? config = some next := by
  unfold configure?
  rw [hbare]
  split
  · exact ⟨_, rfl⟩
  · exact ⟨_, rfl⟩

/-- The lines that are written for records, with the levels. -/
def graded (logging : Logging) (records : List Log.Record) : List Log.Line :=
  match logging.installed with
  | some (some config) => Log.gradedLines config records
  | _ => []

theorem map_text_graded (logging : Logging) (records : List Log.Record) :
    (logging.graded records).map Log.Line.text = logging.write records := by
  unfold graded write
  match logging.installed with
  | some (some config) => exact Log.map_text_gradedLines config records
  | some none => rfl
  | none => rfl

end Logging

end ResourceWatch
