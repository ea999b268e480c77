import ResourceWatch.Log.Sink

/-!
Setting up logging. The first set-up holds until it is reset; it fails while logging is set up
elsewhere, and may then be tried again.
-/

namespace ResourceWatch

structure Logging where
  /-- Whether something is set up, here or elsewhere, and where its records go. -/
  installed : Option (Option LoggingConfig) := none
  /-- Whether it was set up here and not reset since. -/
  configured : Bool := false

namespace Logging

/-- Sets up logging, unless that was done before; none if it is set up elsewhere. -/
def configure? (logging : Logging) (config : LoggingConfig) : Option Logging :=
  if logging.configured then some logging
  else if logging.installed.isSome then none
  else some ⟨some (some config), true⟩

def reset (_ : Logging) : Logging := {}

/-- Someone else sets up logging, without a place to write to. -/
def occupy? (logging : Logging) : Option Logging :=
  if logging.installed.isSome then none else some { logging with installed := some none }

/-- Someone else takes the set-up away. -/
def vacate (logging : Logging) : Logging :=
  { logging with installed := none }

/-- The lines that are written for records. -/
def write (logging : Logging) (records : List Log.Record) : List Text :=
  match logging.installed with
  | some (some config) => Log.lines config records
  | _ => []

end Logging

end ResourceWatch
