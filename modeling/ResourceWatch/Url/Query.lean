import ResourceWatch.Url.Percent

/-!
Queries as lists of named values, in the form in which a browser submits a form.
-/

namespace ResourceWatch

abbrev Query := List (Text × Text)

namespace Query

open Text

/-- The text of a name or a value: a plus sign is a space. Escapes are only read where one is left
when the plus signs are dropped. If all of them are in order, the other characters are kept; if not,
each unit stands for its low byte. -/
def decodePart (part : Text) : Text :=
  let spaced := part.map fun u => if u = unit '+' then unit ' ' else u
  if !Percent.hasEscape (part.filter (· ≠ unit '+')) then spaced
  else
    let bytes := Percent.decodeText spaced
    ofCodePoints (Utf8.decodePoints
      (if Percent.isExact spaced && Utf8.isValid bytes then bytes else Percent.decode spaced))

def decodePair (piece : Text) : Text × Text :=
  let (name, value) := Text.cut (unit '=') piece
  (decodePart name, decodePart (value.getD []))

/-- The pairs of a query; a question mark in front and empty pieces do not count. -/
def parse (text : Text) : Query :=
  let pieces :=
    match text.repair with
    | first :: rest => if first = unit '?' then rest else first :: rest
    | [] => []
  ((split (unit '&') pieces).filter (!·.isEmpty)).map decodePair

/-- The characters that are written as they are. -/
def isPlain (point : Nat) : Bool :=
  (0x30 ≤ point && point ≤ 0x39) || (0x41 ≤ point && point ≤ 0x5A) ||
    (0x61 ≤ point && point ≤ 0x7A) || Percent.among "*-._" point

def encodePart (part : Text) : Text :=
  part.codePoints.flatMap fun point =>
    if point = 0x20 then [unit '+']
    else if isPlain point then [point.toUInt16]
    else (Utf8.encodePoint point).flatMap Percent.escape

def toText (query : Query) : Text :=
  join [unit '&'] (query.map fun (name, value) => encodePart name ++ unit '=' :: encodePart value)

/-- Gives `name` the value: the first pair of that name keeps its place and the others are removed;
without one the pair is added at the end. -/
def set (query : Query) (name value : Text) : Query :=
  match query with
  | [] => [(name, value)]
  | pair :: rest =>
    if pair.1 = name then (name, value) :: rest.filter (·.1 ≠ name)
    else pair :: set rest name value

end Query

end ResourceWatch
