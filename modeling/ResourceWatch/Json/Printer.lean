import ResourceWatch.Json

/-!
The text of a JSON value, without blanks. A number that is not finite is written as `null`, and half
of a surrogate pair as an escape.
-/

namespace ResourceWatch.Json

open Text

def hex4 (unit : UInt16) : Text :=
  [hexDigit (unit.toNat / 0x1000), hexDigit (unit.toNat / 0x100 % 0x10),
    hexDigit (unit.toNat / 0x10 % 0x10), hexDigit (unit.toNat % 0x10)]

def escapeHex (unit : UInt16) : Text :=
  0x5C :: 0x75 :: hex4 unit

/-- A unit that is not part of a surrogate pair, as it stands between quotes. -/
def printUnit (unit : UInt16) : Text :=
  if unit = 0x22 then [0x5C, 0x22]
  else if unit = 0x5C then [0x5C, 0x5C]
  else if unit = 0x08 then [0x5C, 0x62]
  else if unit = 0x0C then [0x5C, 0x66]
  else if unit = 0x0A then [0x5C, 0x6E]
  else if unit = 0x0D then [0x5C, 0x72]
  else if unit = 0x09 then [0x5C, 0x74]
  else if unit < 0x20 || isSurrogate unit then escapeHex unit
  else [unit]

def printUnits : Text → Text
  | [] => []
  | unit :: rest =>
    if isHighSurrogate unit then
      match rest with
      | low :: after =>
        if isLowSurrogate low then unit :: low :: printUnits after
        else printUnit unit ++ printUnits (low :: after)
      | [] => printUnit unit
    else
      printUnit unit ++ printUnits rest

def printString (text : Text) : Text :=
  0x22 :: (printUnits text ++ [0x22])

def printNumber : Number → Text
  | .finite negative magnitude => (Number.finite negative magnitude).toText
  | _ => "null"

mutual

def print : Json → Text
  | .null => "null"
  | .bool value => if value then "true" else "false"
  | .num value => printNumber value
  | .str value => printString value
  | .arr items => 0x5B :: (printItems items ++ [0x5D])
  | .obj members => 0x7B :: (printMembers members ++ [0x7D])

def printItems : List Json → Text
  | [] => []
  | [item] => print item
  | item :: next :: rest => print item ++ 0x2C :: printItems (next :: rest)

def printMembers : List (Text × Json) → Text
  | [] => []
  | [(key, value)] => printString key ++ 0x3A :: print value
  | (key, value) :: next :: rest =>
    printString key ++ 0x3A :: (print value ++ 0x2C :: printMembers (next :: rest))

end

end ResourceWatch.Json
