import ResourceWatch.Text.Composition
import ResourceWatch.Text.Direction
import ResourceWatch.Text.Joining
import ResourceWatch.Text.Mark
import ResourceWatch.Text.Utf8
import ResourceWatch.Url.Domain.Mapping
import ResourceWatch.Url.Punycode

/-!
Domains of any characters. Each label is written in ASCII letters: one with other characters in
Punycode, behind four characters that announce it.
-/

namespace ResourceWatch.Domain

open Text

/-- The normal form of characters in a domain, if all of them can stand in one. -/
def normalize? (points : List Nat) : Option (List Nat) :=
  (map? points).map Composition.compose

/-- A character without a shape, behind which a letter is not joined to the one before. -/
def nonJoiner : Nat := 0x200C

def joiner : Nat := 0x200D

/-- Whether the first joiner of a label stands in its place, if there is one: behind a sign that
takes the vowel from a consonant or, if it separates, between letters that would be joined. The
points before it are in reverse order. -/
def joinerFits? (before : List Nat) : List Nat → Option Bool
  | [] => none
  | point :: rest =>
    if point = nonJoiner || point = joiner then
      some (before.head?.any (CombiningClass.of · = CombiningClass.virama) ||
        (point = nonJoiner && before.any Joining.joinsNext && rest.any Joining.joinsPrevious))
    else joinerFits? (point :: before) rest

/-- Whether the directions of a label are in order. One with characters from right to left holds none
from left to right and digits of one kind only, and ends with a letter or a digit; any other label is
in order. -/
def isDirected (label : List Nat) : Bool :=
  let directions := label.map Direction.of
  if directions.any fun direction => direction = .rightToLeft || direction = .arabicNumber then
    let body := (directions.reverse.dropWhile (· = .mark)).reverse
    !body.contains .other && !(body.contains .number && body.contains .arabicNumber) &&
      body.getLast?.any fun last => last ≠ .neutral
  else true

/-- Whether normal characters make a label. A joiner decides about it, and if there is none the
direction does. -/
def isLabel (label : List Nat) : Bool :=
  match label with
  | [] => false
  | first :: _ => !Mark.isMark first && (joinerFits? [] label).getD (isDirected label)

/-- What announces a label in Punycode. -/
def announcement : Text := "xn--"

/-- Whether a text is the Punycode of a label that needs it. -/
def isEncoded (text : Text) : Bool :=
  match Punycode.decode? text with
  | some label =>
    !Text.startsWith text announcement && label.any (0x80 ≤ ·) && normalize? label = some label &&
      map? label = some label && isLabel label
  | none => false

/-- A label of normal characters in ASCII letters. -/
def labelText? (label : List Nat) : Option Text :=
  let isAscii := label.all (· < 0x80)
  let text := label.map Nat.toUInt16
  if (announcement.map UInt16.toNat).isPrefixOf label then
    if isAscii && isEncoded (text.drop announcement.length) then some text else none
  else if isAscii then some text
  else if isLabel label then some (announcement ++ Punycode.encode label)
  else none

/-- The labels between the dots. -/
def labels : List Nat → List (List Nat)
  | [] => [[]]
  | point :: rest =>
    if point = 0x2E then [] :: labels rest
    else
      match labels rest with
      | first :: others => (point :: first) :: others
      | [] => [[point]]

/-- A domain in ASCII letters; one that has no others is only put in small letters. -/
def ofPoints? (points : List Nat) : Option Text := do
  let normal ←
    if points.all (· < 0x80) then some ((lower (points.map Nat.toUInt16)).map UInt16.toNat)
    else normalize? points
  let found ← (labels normal).mapM labelText?
  return join [unit '.'] found

def ofBytes? (bytes : Bytes) : Option Text :=
  if Utf8.isValid bytes then ofPoints? (Utf8.decodePoints bytes) else none

end ResourceWatch.Domain
