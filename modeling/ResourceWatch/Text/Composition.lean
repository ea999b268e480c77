import ResourceWatch.Text.CombiningClass
import ResourceWatch.Text.Decomposition

/-!
The composed form of a sequence of code points: characters that mean the same are decomposed, marks
are put in order, and what can be one character becomes one.
-/

namespace ResourceWatch.Composition

/-! The syllables of the Korean script are numbered by their leading consonant, vowel and trailing
consonant. -/

def firstSyllable : Nat := 0xAC00
def firstLeading : Nat := 0x1100
def firstVowel : Nat := 0x1161
/-- The code point before the first trailing consonant; a syllable may have none. -/
def noTrailing : Nat := 0x11A7
def leadingCount : Nat := 19
def vowelCount : Nat := 21
def trailingCount : Nat := 28

def isSyllable (point : Nat) : Bool :=
  firstSyllable ≤ point && point < firstSyllable + leadingCount * vowelCount * trailingCount

def syllableParts (point : Nat) : List Nat :=
  let number := point - firstSyllable
  let start := [firstLeading + number / trailingCount / vowelCount,
    firstVowel + number / trailingCount % vowelCount]
  if number % trailingCount = 0 then start
  else start ++ [noTrailing + number % trailingCount]

def syllable? (first second : Nat) : Option Nat :=
  if firstLeading ≤ first && first < firstLeading + leadingCount &&
      firstVowel ≤ second && second < firstVowel + vowelCount then
    some (firstSyllable +
      ((first - firstLeading) * vowelCount + (second - firstVowel)) * trailingCount)
  else if isSyllable first && (first - firstSyllable) % trailingCount = 0 &&
      noTrailing < second && second < noTrailing + trailingCount then
    some (first + (second - noTrailing))
  else none

def parts? (point : Nat) : Option (List Nat) :=
  if isSyllable point then some (syllableParts point) else Decomposition.table.get? point

/-- How often a character and its parts can be decomposed. -/
def depth : Nat := 4

def decomposePoint : (depth : Nat) → (point : Nat) → List Nat
  | 0, point => [point]
  | depth + 1, point =>
    match parts? point with
    | some parts => parts.flatMap (decomposePoint depth)
    | none => [point]

/-- Puts a mark in front of marks of higher classes; the points are in reverse order. -/
def insertMark (point : Nat) : List Nat → List Nat
  | [] => [point]
  | last :: before =>
    if CombiningClass.of point ≠ 0 && CombiningClass.of point < CombiningClass.of last then
      last :: insertMark point before
    else point :: last :: before

/-- The parts of all characters, with their marks in order. -/
def decompose (points : List Nat) : List Nat :=
  ((points.flatMap (decomposePoint depth)).foldl (fun placed point => insertMark point placed)
    []).reverse

/-- The one character that two are the same as. -/
def pair? (first second : Nat) : Option Nat :=
  (syllable? first second).or
    ((Decomposition.table.keys [first, second]).find? (!Decomposition.exclusions.has ·))

/-- What is composed so far, in reverse order. -/
structure Progress where
  before : List Nat := []
  /-- The character to which marks may be added. -/
  base : Option Nat := none
  /-- The marks behind it that were not added. -/
  marks : List Nat := []

namespace Progress

def finished (progress : Progress) : List Nat :=
  progress.marks ++ progress.base.toList ++ progress.before

/-- A mark can be added if no mark of its class, or of a higher one, stands before it. -/
def isBlocked (progress : Progress) (point : Nat) : Bool :=
  match progress.marks with
  | [] => false
  | last :: _ => CombiningClass.of point ≤ CombiningClass.of last

def add (progress : Progress) (point : Nat) : Progress :=
  let composed :=
    if progress.isBlocked point then none
    else progress.base.bind fun base => pair? base point
  match composed with
  | some base => { progress with base := some base }
  | none =>
    if CombiningClass.of point = 0 then { before := progress.finished, base := some point }
    else { progress with marks := point :: progress.marks }

end Progress

def compose (points : List Nat) : List Nat :=
  ((decompose points).foldl Progress.add {}).finished.reverse

end ResourceWatch.Composition
