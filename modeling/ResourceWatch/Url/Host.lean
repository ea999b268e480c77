import ResourceWatch.Url.Domain
import ResourceWatch.Url.Percent

/-!
Hosts. A bracketed host is an IPv6 address, a host of a special scheme is a domain or an IPv4
address, and any other one is opaque. Each is given in its normal written form.
-/

namespace ResourceWatch.Host

open Text

/-- Units that no host may hold. -/
def forbidden (unit : UInt16) : Bool :=
  [0x00, 0x09, 0x0A, 0x0D, 0x20, 0x23, 0x2F, 0x3A, 0x3C, 0x3E, 0x3F, 0x40, 0x5B, 0x5C, 0x5D, 0x5E,
    0x7C].contains unit

/-- Units that no domain may hold. -/
def forbiddenInDomain (unit : UInt16) : Bool :=
  forbidden unit || unit ≤ 0x1F || unit = 0x25 || unit = 0x7F

/-- The number that a part of an IPv4 address is written as, in base ten, eight or sixteen. -/
def ipv4Number? (part : Text) : Option Nat :=
  let inBase (base : Nat) (digits : Text) : Option Nat :=
    digits.foldl
      (fun value? unit =>
        match value?, hexValue? unit with
        | some value, some d => if d < base then some (base * value + d) else none
        | _, _ => none)
      (some 0)
  match part with
  | [] => none
  | [unit] => inBase 10 [unit]
  | first :: second :: rest =>
    if first = 0x30 then
      if second = 0x78 || second = 0x58 then inBase 16 rest else inBase 8 (second :: rest)
    else inBase 10 part

/-- The parts between the dots; one dot at the end is ignored. -/
def dottedParts (domain : Text) : List Text :=
  let parts := split (unit '.') domain
  if parts.getLast? = some [] && 1 < parts.length then parts.dropLast else parts

/-- Whether a domain must be read as an IPv4 address. -/
def endsInNumber (domain : Text) : Bool :=
  match (dottedParts domain).getLast? with
  | some last => (!last.isEmpty && last.all isDigit) || (ipv4Number? last).isSome
  | none => false

/-- The address with these parts: each but the last is a byte, and the last fills the bytes that are
left. -/
def ipv4OfParts? : (bytesLeft : Nat) → List Nat → Option Nat
  | 0, _ => none
  | _, [] => none
  | left + 1, [last] => if last < Nat.pow 256 (left + 1) then some last else none
  | left + 1, part :: next :: rest =>
    if part < 256 then (ipv4OfParts? left (next :: rest)).map (part * Nat.pow 256 left + ·) else none

def ipv4Text (address : Nat) : Text :=
  join [unit '.'] ([3, 2, 1, 0].map fun place => ofNat (address / Nat.pow 256 place % 256))

def ipv4? (domain : Text) : Option Text := do
  let parts ← (dottedParts domain).mapM ipv4Number?
  let address ← ipv4OfParts? 4 parts
  return ipv4Text address

/-- Up to four hexadecimal digits. -/
def ipv6Piece? (piece : Text) : Option Nat :=
  if piece.isEmpty || 4 < piece.length then none
  else
    piece.foldl
      (fun value? unit =>
        match value?, hexValue? unit with
        | some value, some d => some (16 * value + d)
        | _, _ => none)
      (some 0)

/-- A byte in base ten without a leading zero. -/
def decimalByte? (part : Text) : Option Nat :=
  if part.isEmpty || !part.all isDigit || ofNat (digitsValue part) ≠ part then none
  else if digitsValue part < 256 then some (digitsValue part)
  else none

/-- The pieces of an IPv6 address on one side of `::`; the last one of the address may be written as
an IPv4 address. -/
def ipv6Pieces? (atEnd : Bool) : List Text → Option (List Nat)
  | [] => some []
  | [last] =>
    match ipv6Piece? last with
    | some piece => some [piece]
    | none =>
      if atEnd then
        match (split (unit '.') last).mapM decimalByte? with
        | some [a, b, c, d] => some [256 * a + b, 256 * c + d]
        | _ => none
      else none
  | piece :: next :: rest => do
    let first ← ipv6Piece? piece
    let others ← ipv6Pieces? atEnd (next :: rest)
    return first :: others

/-- The text before the first `::` and, if there is one, the text behind it. -/
def cutDouble : Text → Text × Option Text
  | first :: second :: rest =>
    if first = unit ':' && second = unit ':' then ([], some rest)
    else (first :: (cutDouble (second :: rest)).1, (cutDouble (second :: rest)).2)
  | short => (short, none)

def sidePieces? (atEnd : Bool) (side : Text) : Option (List Nat) :=
  if side.isEmpty then some [] else ipv6Pieces? atEnd (split (unit ':') side)

def ipv6? (address : Text) : Option (List Nat) :=
  match cutDouble address with
  | (whole, none) => do
    let pieces ← sidePieces? true whole
    if pieces.length = 8 then some pieces else none
  | (before, some behind) => do
    let first ← sidePieces? false before
    let last ← sidePieces? true behind
    if first.length + last.length < 8 then
      some (first ++ List.replicate (8 - first.length - last.length) 0 ++ last)
    else none

def hexText (n : Nat) : Text :=
  (Nat.toDigits 16 n).map unit

/-- How many zeros a list begins with. -/
def leadingZeros (pieces : List Nat) : Nat :=
  (pieces.takeWhile (· = 0)).length

/-- The longest run of zeros that every address writes as `::`, the first of equal ones, if it has
more than one piece: how many pieces stand before it and how many it has. -/
def zeroRun? (pieces : List Nat) : Option (Nat × Nat) :=
  (List.range pieces.length).foldl
    (fun best? start =>
      let run := leadingZeros (pieces.drop start)
      if run < 2 then best?
      else
        match best? with
        | some (_, longest) => if longest < run then some (start, run) else best?
        | none => some (start, run))
    none

def ipv6Text (pieces : List Nat) : Text :=
  let written (side : List Nat) : Text := join [unit ':'] (side.map hexText)
  match zeroRun? pieces with
  | none => written pieces
  | some (start, run) =>
    written (pieces.take start) ++ [unit ':', unit ':'] ++ written (pieces.drop (start + run))

/-- A domain or an IPv4 address. No mapping takes a control character or a space out of a domain, so
one that holds any is refused beforehand. -/
def domain? (text : Text) : Option Text :=
  let bytes := Percent.decodeText text
  if bytes.any (· ≤ 0x20) then none
  else do
    let domain ← Domain.ofBytes? bytes
    if domain.isEmpty || domain.any forbiddenInDomain then none
    else if endsInNumber domain then ipv4? domain
    else some domain

/-- The normal form of a host. -/
def parse? (special : Bool) (text : Text) : Option Text :=
  match text with
  | 0x5B :: rest =>
    if rest.getLast? = some 0x5D then
      (ipv6? rest.dropLast).map fun pieces => 0x5B :: (ipv6Text pieces ++ [0x5D])
    else none
  | _ =>
    if special then domain? text
    else if text.any forbidden then none
    else some (Percent.encode Percent.control text)

end ResourceWatch.Host
