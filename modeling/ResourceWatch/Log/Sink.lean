import ResourceWatch.Log.Date
import ResourceWatch.Log.Record

/-!
Where records go: which of them are written, and the line that is written for one. A record without
a date or a text is not written at all.
-/

namespace ResourceWatch.Log

open Text

def joinedCategory (record : Record) : Text :=
  join [unit '.'] record.category

/-- One JSON object. -/
def jsonLine (record : Record) (date message : Text) : Text :=
  let properties :=
    if record.properties.isEmpty then []
    else [(ofString "properties", Json.obj (Value.toMembers record.properties))]
  Json.print (.obj (Json.required "timestamp" (.str date) ++
    Json.required "level" (.str record.severity.name) ++
    Json.required "category" (.str (joinedCategory record)) ++
    Json.required "message" (.str message) ++ properties)) ++ [0x0A]

/-- The twelve units of a date in which, in four-digit years, the time of day stands. -/
def clockText (date : Text) : Text :=
  (date.drop 11).take 12

def paddedLevel (severity : Severity) : Text :=
  upper severity.name ++ List.replicate (7 - severity.name.length) (unit ' ')

/-- The time of day, the level, the category, the message and the properties. -/
def textLine (record : Record) (date message : Text) : Text :=
  clockText date ++ unit ' ' :: paddedLevel record.severity ++
    unit ' ' :: joinedCategory record ++ unit ':' :: unit ' ' :: message ++
    (if record.properties.isEmpty then []
      else unit ' ' :: Json.print (.obj (Value.toMembers record.properties))) ++ [0x0A]

/-- The line for a record, if its time has a date and its message a text. -/
def line? (environment : Environment) (record : Record) : Option Text :=
  if Date.isDate record.time then
    record.text?.map
      (if environment = .production then jsonLine record (Date.toText record.time)
        else textLine record (Date.toText record.time))
  else none

/-- The category that all records of the program are under. -/
def rootCategory : List Text := ["shoal"]

/-- The category of the records that logging itself makes. -/
def metaCategory : List Text := ["logtape", "meta"]

/-- Whether a record is written: it must be under a known category and grave enough. -/
def isRouted (level : LogLevel) (record : Record) : Bool :=
  (rootCategory.isPrefixOf record.category &&
    (Severity.ofLevel level).rank ≤ record.severity.rank) ||
  (metaCategory.isPrefixOf record.category && Severity.warning.rank ≤ record.severity.rank)

/-- The lines that are written for records. -/
def lines (config : LoggingConfig) (records : List Record) : List Text :=
  (records.filter (isRouted config.level)).filterMap (line? config.environment)

end ResourceWatch.Log
