import ResourceWatch.Clock
import ResourceWatch.Config
import ResourceWatch.Log.Value

/-!
Log records: when something happened, how grave it is, where, and a message of several parts.
-/

namespace ResourceWatch.Log

inductive Severity where
  | trace
  | debug
  | info
  | warning
  | error
  | fatal
deriving DecidableEq

namespace Severity

def rank : Severity → Nat
  | .trace => 0
  | .debug => 1
  | .info => 2
  | .warning => 3
  | .error => 4
  | .fatal => 5

def name : Severity → Text
  | .trace => "trace"
  | .debug => "debug"
  | .info => "info"
  | .warning => "warning"
  | .error => "error"
  | .fatal => "fatal"

def ofLevel : LogLevel → Severity
  | .debug => .debug
  | .info => .info
  | .warning => .warning
  | .error => .error
  | .fatal => .fatal

end Severity

structure Record where
  time : Time
  severity : Severity
  category : List Text
  message : List Value
  properties : List (Text × Value) := []

/-- The whole message, if every part of it has a text. -/
def Record.text? (record : Record) : Option Text :=
  (record.message.mapM Value.text?).map List.flatten

/-- Records in the order of their times; those of one time keep their order. -/
def inOrder (records : List Record) : List Record :=
  records.mergeSort fun first second => first.time ≤ second.time

end ResourceWatch.Log
