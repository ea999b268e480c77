import ResourceWatch.Text

/-!
UTF-8. `encode` writes a text, `decode` reads a whole byte string, and a `Decoder` reads the same
bytes as they come in. A malformed sequence becomes one U+FFFD for each longest part of it that
could have begun a character, and a byte order mark in front is dropped.
-/

namespace ResourceWatch

abbrev Bytes := List UInt8

namespace Utf8

def encodePoint (point : Nat) : Bytes :=
  if point < 0x80 then
    [point.toUInt8]
  else if point < 0x800 then
    [(0xC0 + point / 0x40).toUInt8, (0x80 + point % 0x40).toUInt8]
  else if point < 0x10000 then
    [(0xE0 + point / 0x1000).toUInt8, (0x80 + point / 0x40 % 0x40).toUInt8,
      (0x80 + point % 0x40).toUInt8]
  else
    [(0xF0 + point / 0x40000).toUInt8, (0x80 + point / 0x1000 % 0x40).toUInt8,
      (0x80 + point / 0x40 % 0x40).toUInt8, (0x80 + point % 0x40).toUInt8]

def encode (text : Text) : Bytes :=
  text.codePoints.flatMap encodePoint

/-- A character of which some bytes are still to come: how many, the range that the next of them
must lie in, and the bits read so far. -/
structure Partial where
  needed : Nat
  low : UInt8 := 0x80
  high : UInt8 := 0xBF
  point : Nat
deriving DecidableEq

/-- What the first byte of a character announces; a byte that cannot be the first announces
nothing. -/
def lead? (byte : UInt8) : Option Partial :=
  if byte < 0x80 then some ⟨0, 0x80, 0xBF, byte.toNat⟩
  else if byte < 0xC2 then none
  else if byte < 0xE0 then some ⟨1, 0x80, 0xBF, byte.toNat - 0xC0⟩
  else if byte = 0xE0 then some ⟨2, 0xA0, 0xBF, 0⟩
  else if byte = 0xED then some ⟨2, 0x80, 0x9F, 0xD⟩
  else if byte < 0xF0 then some ⟨2, 0x80, 0xBF, byte.toNat - 0xE0⟩
  else if byte = 0xF0 then some ⟨3, 0x90, 0xBF, 0⟩
  else if byte < 0xF4 then some ⟨3, 0x80, 0xBF, byte.toNat - 0xF0⟩
  else if byte = 0xF4 then some ⟨3, 0x80, 0x8F, 4⟩
  else none

/-- Whether `byte` can be the next one of the character. -/
def Partial.accepts (part : Partial) (byte : UInt8) : Bool :=
  part.low ≤ byte && byte ≤ part.high

def Partial.add (part : Partial) (byte : UInt8) : Partial :=
  ⟨part.needed - 1, 0x80, 0xBF, part.point * 0x40 + (byte.toNat - 0x80)⟩

/-- The code point of a character that has begun, and the bytes behind it. -/
def finishPoint (part : Partial) : (needed : Nat) → Bytes → Nat × Bytes
  | 0, bytes => (part.point, bytes)
  | _ + 1, [] => (Text.replacement, [])
  | needed + 1, byte :: rest =>
    if part.accepts byte then finishPoint (part.add byte) needed rest
    else (Text.replacement, byte :: rest)

theorem finishPoint_length_le (part : Partial) (needed : Nat) (bytes : Bytes) :
    (finishPoint part needed bytes).2.length ≤ bytes.length := by
  induction needed generalizing part bytes with
  | zero => simp [finishPoint]
  | succ needed ih =>
    cases bytes with
    | nil => simp [finishPoint]
    | cons byte rest =>
      simp only [finishPoint]
      split
      · exact Nat.le_succ_of_le (ih _ _)
      · simp

/-- The code points of a whole byte string. -/
def decodePoints : Bytes → List Nat
  | [] => []
  | byte :: rest =>
    match lead? byte with
    | none => Text.replacement :: decodePoints rest
    | some part =>
      (finishPoint part part.needed rest).1 :: decodePoints (finishPoint part part.needed rest).2
termination_by bytes => bytes.length
decreasing_by
  · simp
  · exact Nat.lt_succ_of_le (finishPoint_length_le _ _ _)

/-- Whether a byte string holds whole characters only. -/
def isValid (bytes : Bytes) : Bool :=
  (decodePoints bytes).flatMap encodePoint = bytes

/-- The code point of the byte order mark. -/
def byteOrderMark : Nat := 0xFEFF

def dropMark : List Nat → List Nat
  | [] => []
  | point :: points => if point = byteOrderMark then points else point :: points

/-- The text of a whole byte string. -/
def decode (bytes : Bytes) : Text :=
  Text.ofCodePoints (dropMark (decodePoints bytes))

/-- A reader between two bytes: the unfinished character, if there is one, and whether a character
was read before, so that a byte order mark is text. -/
structure Decoder where
  unfinished : Option Partial := none
  started : Bool := false
deriving DecidableEq

namespace Decoder

/-- The code points that a byte completes, without regard to the byte order mark. -/
def begin (byte : UInt8) : Option Partial × List Nat :=
  match lead? byte with
  | none => (none, [Text.replacement])
  | some part => if part.needed = 0 then (none, [part.point]) else (some part, [])

def points (unfinished : Option Partial) (byte : UInt8) : Option Partial × List Nat :=
  match unfinished with
  | none => begin byte
  | some part =>
    if part.accepts byte then
      if part.needed = 1 then (none, [(part.add byte).point]) else (some (part.add byte), [])
    else
      ((begin byte).1, Text.replacement :: (begin byte).2)

/-- Adds code points to the text, of which the very first may be a byte order mark. -/
def emit (decoder : Decoder) (unfinished : Option Partial) (points : List Nat) : Decoder × Text :=
  if decoder.started || points.isEmpty then
    (⟨unfinished, decoder.started⟩, Text.ofCodePoints points)
  else
    (⟨unfinished, true⟩, Text.ofCodePoints (dropMark points))

def feed (decoder : Decoder) (byte : UInt8) : Decoder × Text :=
  decoder.emit (points decoder.unfinished byte).1 (points decoder.unfinished byte).2

/-- Reads a chunk of bytes and gives the text that it completes. -/
def read (decoder : Decoder) : Bytes → Decoder × Text
  | [] => (decoder, [])
  | byte :: rest =>
    let (next, text) := decoder.feed byte
    let (last, more) := next.read rest
    (last, text ++ more)

/-- The text of what is left when no more bytes come: an unfinished character is malformed. -/
def finish (decoder : Decoder) : Text :=
  match decoder.unfinished with
  | none => []
  | some _ => Text.ofCodePoint Text.replacement

end Decoder

end Utf8

end ResourceWatch
