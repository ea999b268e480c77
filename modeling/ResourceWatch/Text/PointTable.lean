import ResourceWatch.Text

/-!
Tables of code points. They are written with hexadecimal numbers: a set as single code points and
ranges between blanks, and a map as rows between semicolons, each with a code point and the texts that
belong to it and to those that follow it.
-/

namespace ResourceWatch

/-- The code points from `first` to `last`. -/
structure PointRange where
  first : Nat
  last : Nat
deriving DecidableEq

abbrev PointSet := List PointRange

/-- The texts that belong to consecutive code points. -/
structure PointRow where
  first : Nat
  texts : List (List Nat)
deriving DecidableEq

abbrev PointMap := List PointRow

namespace PointTable

/-- The parts of a text between the marks. -/
def parts (isMark : Char → Bool) (text : List Char) : List (List Char) :=
  text.foldr
    (fun c parts =>
      if isMark c then [] :: parts
      else
        match parts with
        | first :: rest => (c :: first) :: rest
        | [] => [[c]])
    [[]]

def words (text : List Char) : List (List Char) :=
  (parts Char.isWhitespace text).filter (!·.isEmpty)

/-- The number that hexadecimal digits stand for. -/
def number (digits : List Char) : Nat :=
  digits.foldl (fun value c => 16 * value + (Text.hexValue? (Text.unit c)).getD 0) 0

end PointTable

open PointTable

namespace PointSet

def ofString (table : String) : PointSet :=
  (words table.toList).map fun word =>
    match parts (· = '-') word with
    | [first, last] => ⟨number first, number last⟩
    | _ => ⟨number word, number word⟩

def has (points : PointSet) (point : Nat) : Bool :=
  points.any fun range => range.first ≤ point && point ≤ range.last

end PointSet

namespace PointMap

def ofString (table : String) : PointMap :=
  (parts (· = ';') table.toList).filterMap fun row =>
    match words row with
    | first :: texts =>
      some ⟨number first, texts.map fun text => (parts (· = '+') text).map number⟩
    | [] => none

/-- The text that belongs to a code point. -/
def get? (map : PointMap) (point : Nat) : Option (List Nat) :=
  map.findSome? fun row =>
    if row.first ≤ point then row.texts[point - row.first]? else none

/-- The code points that a text belongs to. -/
def keys (map : PointMap) (text : List Nat) : List Nat :=
  map.flatMap fun row =>
    (row.texts.zipIdx row.first).filterMap fun (found, point) =>
      if found = text then some point else none

end PointMap

end ResourceWatch
