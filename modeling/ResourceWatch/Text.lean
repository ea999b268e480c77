/-!
Text is a list of UTF-16 code units, so that lengths, cuts and orders count units and a cut may
leave half of a surrogate pair behind.
-/

namespace ResourceWatch

abbrev Text := List UInt16

namespace Text

/-- The one or two units of a code point. -/
def ofCodePoint (point : Nat) : Text :=
  if point < 0x10000 then
    [point.toUInt16]
  else
    [((point - 0x10000) / 0x400 + 0xD800).toUInt16, ((point - 0x10000) % 0x400 + 0xDC00).toUInt16]

def ofChar (c : Char) : Text :=
  ofCodePoint c.toNat

def ofString (s : String) : Text :=
  s.toList.flatMap ofChar

def isHighSurrogate (unit : UInt16) : Bool :=
  0xD800 ≤ unit && unit < 0xDC00

def isLowSurrogate (unit : UInt16) : Bool :=
  0xDC00 ≤ unit && unit < 0xE000

def isSurrogate (unit : UInt16) : Bool :=
  0xD800 ≤ unit && unit < 0xE000

/-- The code point of a surrogate pair. -/
def pairPoint (high low : UInt16) : Nat :=
  0x10000 + (high.toNat - 0xD800) * 0x400 + (low.toNat - 0xDC00)

/-- The replacement character U+FFFD. -/
def replacement : Nat := 0xFFFD

/-- The code points of a text, a lone surrogate being replaced by U+FFFD. -/
def codePoints : Text → List Nat
  | [] => []
  | high :: rest =>
    if isHighSurrogate high then
      match rest with
      | low :: after =>
        if isLowSurrogate low then pairPoint high low :: codePoints after
        else replacement :: codePoints (low :: after)
      | [] => [replacement]
    else if isLowSurrogate high then
      replacement :: codePoints rest
    else
      high.toNat :: codePoints rest

/-- Whether every surrogate is half of a pair. -/
def isWellFormed : Text → Bool
  | [] => true
  | high :: rest =>
    if isHighSurrogate high then
      match rest with
      | low :: after => isLowSurrogate low && isWellFormed after
      | [] => false
    else
      !isLowSurrogate high && isWellFormed rest

def ofCodePoints (points : List Nat) : Text :=
  points.flatMap ofCodePoint

/-- The text with each lone surrogate replaced by U+FFFD. -/
def repair (text : Text) : Text :=
  ofCodePoints text.codePoints

def toString (text : Text) : String :=
  String.ofList (text.codePoints.map Char.ofNat)

instance : Coe String Text := ⟨ofString⟩

/-- The unit of an ASCII character. -/
def unit (c : Char) : UInt16 :=
  c.toNat.toUInt16

def isDigit (unit : UInt16) : Bool :=
  0x30 ≤ unit && unit ≤ 0x39

def isUpper (unit : UInt16) : Bool :=
  0x41 ≤ unit && unit ≤ 0x5A

def isLower (unit : UInt16) : Bool :=
  0x61 ≤ unit && unit ≤ 0x7A

def isLetter (unit : UInt16) : Bool :=
  isUpper unit || isLower unit

/-- The lower-case form of an ASCII letter; every other unit is kept. -/
def lowerUnit (unit : UInt16) : UInt16 :=
  if isUpper unit then unit + 0x20 else unit

def upperUnit (unit : UInt16) : UInt16 :=
  if isLower unit then unit - 0x20 else unit

def lower (text : Text) : Text :=
  text.map lowerUnit

def upper (text : Text) : Text :=
  text.map upperUnit

/-- The value of a hexadecimal digit. -/
def hexValue? (unit : UInt16) : Option Nat :=
  if isDigit unit then some (unit.toNat - 0x30)
  else if 0x41 ≤ unit && unit ≤ 0x46 then some (unit.toNat - 0x37)
  else if 0x61 ≤ unit && unit ≤ 0x66 then some (unit.toNat - 0x57)
  else none

/-- The lower-case hexadecimal digit of a value below sixteen. -/
def hexDigit (value : Nat) : UInt16 :=
  if value < 10 then (0x30 + value).toUInt16 else (0x57 + value).toUInt16

def upperHexDigit (value : Nat) : UInt16 :=
  if value < 10 then (0x30 + value).toUInt16 else (0x37 + value).toUInt16

/-- The decimal digits of a natural number, without leading zeros. -/
def ofNat (n : Nat) : Text :=
  (Nat.toDigits 10 n).map unit

def ofInt (n : Int) : Text :=
  if n < 0 then unit '-' :: ofNat n.natAbs else ofNat n.natAbs

/-- The decimal digits of `n`, filled up with zeros on the left to `width`. -/
def padded (width n : Nat) : Text :=
  List.replicate (width - (ofNat n).length) (unit '0') ++ ofNat n

/-- The number that a run of decimal digits stands for. -/
def digitsValue (digits : Text) : Nat :=
  digits.foldl (fun value digit => 10 * value + (digit.toNat - 0x30)) 0

/-- What is left of `text` after `start`, if it starts so. -/
def after? : (start text : Text) → Option Text
  | [], text => some text
  | _ :: _, [] => none
  | s :: start, u :: text => if s = u then after? start text else none

def startsWith (text start : Text) : Bool :=
  start.isPrefixOf text

/-- The text before the first `separator` and, if there is one, the text after it. -/
def cut (separator : UInt16) : Text → Text × Option Text
  | [] => ([], none)
  | u :: rest =>
    if u = separator then ([], some rest)
    else (u :: (cut separator rest).1, (cut separator rest).2)

/-- The parts between the separators; there is always one more than there are separators. -/
def split (separator : UInt16) : Text → List Text
  | [] => [[]]
  | u :: rest =>
    if u = separator then [] :: split separator rest
    else
      match split separator rest with
      | first :: others => (u :: first) :: others
      | [] => [[u]]

def join (separator : Text) (parts : List Text) : Text :=
  separator.intercalate parts

/-- The order of two texts by their units. -/
def compareUnits : Text → Text → Ordering
  | [], [] => .eq
  | [], _ :: _ => .lt
  | _ :: _, [] => .gt
  | u :: first, v :: second => if u = v then compareUnits first second else compare u v

end Text

end ResourceWatch
