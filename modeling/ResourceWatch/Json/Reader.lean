import ResourceWatch.Json

/-!
Reading JSON. A reader takes a text and gives what it found together with the rest; the whole text
must be one value with nothing but blanks around it.
-/

namespace ResourceWatch.Json

open Text

/-- The four units that may stand between tokens. -/
def isSpace (unit : UInt16) : Bool :=
  unit = 0x20 || unit = 0x09 || unit = 0x0A || unit = 0x0D

def skip (text : Text) : Text :=
  text.dropWhile isSpace

/-- The unit that a one-letter escape stands for. -/
def escaped? (mark : UInt16) : Option UInt16 :=
  if mark = 0x22 then some 0x22
  else if mark = 0x5C then some 0x5C
  else if mark = 0x2F then some 0x2F
  else if mark = 0x62 then some 0x08
  else if mark = 0x66 then some 0x0C
  else if mark = 0x6E then some 0x0A
  else if mark = 0x72 then some 0x0D
  else if mark = 0x74 then some 0x09
  else none

def hexUnit? (a b c d : UInt16) : Option UInt16 := do
  let a ← hexValue? a
  let b ← hexValue? b
  let c ← hexValue? c
  let d ← hexValue? d
  return (((a * 0x10 + b) * 0x10 + c) * 0x10 + d).toUInt16

/-- The rest of a string whose opening quote was read. -/
def readString? : Text → Option (Text × Text)
  | [] => none
  | unit :: rest =>
    if unit = 0x22 then some ([], rest)
    else if unit < 0x20 then none
    else if unit = 0x5C then
      match rest with
      | [] => none
      | mark :: more =>
        if mark = 0x75 then
          match more with
          | a :: b :: c :: d :: after =>
            match hexUnit? a b c d, readString? after with
            | some found, some (text, left) => some (found :: text, left)
            | _, _ => none
          | _ => none
        else
          match escaped? mark, readString? more with
          | some found, some (text, left) => some (found :: text, left)
          | _, _ => none
    else
      match readString? rest with
      | some (text, left) => some (unit :: text, left)
      | none => none

/-- A number: no digit may follow a leading zero. -/
def readNumber? (text : Text) : Option (Number × Text) :=
  let (negative, digits) :=
    match text with
    | mark :: rest => if mark = 0x2D then (true, rest) else (false, text)
    | [] => (false, [])
  let (whole, rest) :=
    match digits with
    | first :: rest =>
      if first = 0x30 then ([first], rest) else (digits.takeWhile isDigit, digits.dropWhile isDigit)
    | [] => ([], [])
  if whole.isEmpty then none
  else
    let (fraction, rest) := Numeral.fractionPart rest
    let (exponent, rest) := Numeral.exponentPart rest
    some (Number.ofDecimal negative (Numeral.decimalValue whole fraction exponent), rest)

mutual

/-- A value, with blanks in front. Each level of nesting and each member takes one of `fuel`, so the
length of the text is enough. -/
def readValue? : (fuel : Nat) → Text → Option (Json × Text)
  | 0, _ => none
  | fuel + 1, text =>
    match skip text with
    | [] => none
    | first :: rest =>
      if first = 0x7B then
        match skip rest with
        | mark :: after =>
          if mark = 0x7D then some (.obj [], after)
          else (readMembers? fuel (mark :: after)).map fun (found, left) =>
            (.obj (Members.ofList found), left)
        | [] => none
      else if first = 0x5B then
        match skip rest with
        | mark :: after =>
          if mark = 0x5D then some (.arr [], after)
          else (readItems? fuel (mark :: after)).map fun (found, left) => (.arr found, left)
        | [] => none
      else if first = 0x22 then
        (readString? rest).map fun (found, left) => (.str found, left)
      else if first = 0x74 then
        (after? "rue" rest).map fun left => (.bool true, left)
      else if first = 0x66 then
        (after? "alse" rest).map fun left => (.bool false, left)
      else if first = 0x6E then
        (after? "ull" rest).map fun left => (.null, left)
      else
        (readNumber? (first :: rest)).map fun (found, left) => (.num found, left)

/-- The items of an array up to its end. -/
def readItems? : (fuel : Nat) → Text → Option (List Json × Text)
  | 0, _ => none
  | fuel + 1, text =>
    match readValue? fuel text with
    | none => none
    | some (item, rest) =>
      match skip rest with
      | [] => none
      | mark :: after =>
        if mark = 0x2C then
          (readItems? fuel after).map fun (found, left) => (item :: found, left)
        else if mark = 0x5D then some ([item], after)
        else none

/-- The members of an object up to its end. -/
def readMembers? : (fuel : Nat) → Text → Option (List (Text × Json) × Text)
  | 0, _ => none
  | fuel + 1, text =>
    match skip text with
    | [] => none
    | quote :: rest =>
      if quote = 0x22 then
        match readString? rest with
        | none => none
        | some (key, rest) =>
          match skip rest with
          | [] => none
          | colon :: rest =>
            if colon = 0x3A then
              match readValue? fuel rest with
              | none => none
              | some (value, rest) =>
                match skip rest with
                | [] => none
                | mark :: after =>
                  if mark = 0x2C then
                    (readMembers? fuel after).map fun (found, left) => ((key, value) :: found, left)
                  else if mark = 0x7D then some ([(key, value)], after)
                  else none
            else none
      else none

end

/-- The value that the whole text is. -/
def parse? (text : Text) : Option Json :=
  match readValue? (text.length + 1) text with
  | some (value, rest) => if (skip rest).isEmpty then some value else none
  | none => none

end ResourceWatch.Json
