import ResourceWatch.Text.Utf8

/-!
Percent-encoding: a character outside a set of allowed ones is written as the hexadecimal values of
its UTF-8 bytes.
-/

namespace ResourceWatch.Percent

open Text

/-- The three units that stand for a byte. -/
def escape (byte : UInt8) : Text :=
  [0x25, upperHexDigit (byte.toNat / 16), upperHexDigit (byte.toNat % 16)]

/-- Encodes the characters for which `escaped` holds and keeps the others. -/
def encode (escaped : Nat → Bool) (text : Text) : Text :=
  text.codePoints.flatMap fun point =>
    if escaped point then (Utf8.encodePoint point).flatMap escape else ofCodePoint point

/-- The bytes that units stand for: an escape stands for its byte and any other unit, a percent sign
without two hexadecimal digits among them, for its low byte. -/
def decode : Text → Bytes
  | mark :: high :: low :: rest =>
    if mark = 0x25 then
      match hexValue? high, hexValue? low with
      | some high, some low => (16 * high + low).toUInt8 :: decode rest
      | _, _ => 0x25 :: decode (high :: low :: rest)
    else
      mark.toUInt8 :: decode (high :: low :: rest)
  | short => short.map UInt16.toUInt8

/-- The bytes that a text stands for when it is written in UTF-8. -/
def decodeText (text : Text) : Bytes :=
  decode ((Utf8.encode text).map UInt8.toUInt16)

/-- Whether an escape is in front. -/
def isEscape : Text → Bool
  | mark :: high :: low :: _ => mark = 0x25 && (hexValue? high).isSome && (hexValue? low).isSome
  | _ => false

/-- Whether a text holds an escape. -/
def hasEscape : Text → Bool
  | [] => false
  | u :: rest => isEscape (u :: rest) || hasEscape rest

/-- Whether every percent sign begins an escape. -/
def isExact : Text → Bool
  | [] => true
  | u :: rest => (u ≠ 0x25 || isEscape (u :: rest)) && isExact rest

/-- Characters that are escaped everywhere in a URL. -/
def control (point : Nat) : Bool :=
  point ≤ 0x1F || 0x7E < point

/-- Whether a character is one of these. -/
def among (marks : String) (point : Nat) : Bool :=
  marks.toList.any (·.toNat = point)

def fragment (point : Nat) : Bool :=
  control point || among " \"<>`" point

def query (point : Nat) : Bool :=
  control point || among " \"#<>" point

/-- In a query of the schemes that have their own grammar, an apostrophe is escaped as well. -/
def specialQuery (point : Nat) : Bool :=
  query point || among "'" point

def path (point : Nat) : Bool :=
  query point || among "?`\x7b\x7d" point

def userinfo (point : Nat) : Bool :=
  path point || among "/:;=@[\\]^|" point

end ResourceWatch.Percent
