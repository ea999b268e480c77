import ResourceWatch.Failure
import ResourceWatch.Json.Reader
import ResourceWatch.Text.Utf8

/-!
Newline-delimited text. `Lines.complete` and `Lines.unfinished` cut a whole text into lines, and a
`LineBuffer` finds the same lines in bytes that come in pieces.
-/

namespace ResourceWatch

namespace Lines

open Text

/-- A line without one carriage return at its end. -/
def withoutReturn (line : Text) : Text :=
  if line.getLast? = some 0x0D then line.dropLast else line

/-- The lines that hold something other than blanks. -/
def keep (lines : List Text) : List Text :=
  (lines.map withoutReturn).filter fun line => !(trim line).isEmpty

/-- The lines of a text that end with a newline. -/
def complete (text : Text) : List Text :=
  keep (split 0x0A text).dropLast

/-- The text behind the last newline. -/
def unfinished (text : Text) : Text :=
  (split 0x0A text).getLast?.getD []

/-- The record on a line. -/
def record (line : Text) : Except Failure Json :=
  match Json.parse? line with
  | some value => .ok value
  | none => .error (.undecodable line)

end Lines

structure LineBuffer where
  decoder : Utf8.Decoder := {}
  /-- The text behind the last newline. -/
  tail : Text := []
  terminated : Bool := false
deriving DecidableEq

namespace LineBuffer

inductive State where
  | awaiting
  | accumulating
  | terminated
deriving DecidableEq

def state (buffer : LineBuffer) : State :=
  if buffer.terminated then .terminated
  else if buffer.tail.isEmpty then .awaiting
  else .accumulating

/-- Takes a chunk and gives the lines that it completes. -/
def feed (buffer : LineBuffer) (chunk : Bytes) : LineBuffer × List Text :=
  let (decoder, text) := buffer.decoder.read chunk
  let text := buffer.tail ++ text
  ({ buffer with decoder, tail := Lines.unfinished text }, Lines.complete text)

/-- Takes a chunk, unless the buffer is terminated. -/
def push? (buffer : LineBuffer) (chunk : Bytes) : Option (LineBuffer × List Text) :=
  if buffer.terminated then none else some (buffer.feed chunk)

/-- Ends the input and gives the text that was never completed. -/
def terminate (buffer : LineBuffer) : LineBuffer × Text :=
  ({ decoder := {}, tail := [], terminated := true }, buffer.tail ++ buffer.decoder.finish)

/-- Why a terminated buffer takes no chunk. -/
def terminatedMessage : Text := "LineBuffer is terminated"

end LineBuffer

end ResourceWatch
