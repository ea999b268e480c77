import ResourceWatch.Number
import ResourceWatch.Text.Blank

/-!
Decimal numerals and the numbers nearest to them.
-/

namespace ResourceWatch

/-- The value `digits * 10 ^ exponent`. -/
structure Decimal where
  digits : Nat
  exponent : Int
deriving DecidableEq

namespace Number

/-- The number nearest to a decimal value. Powers of ten that are far out of range are not computed:
the value then is zero or too large whatever its digits are. -/
def ofDecimal (negative : Bool) (decimal : Decimal) : Number :=
  if decimal.digits = 0 then ofSteps negative 0 1
  else if 400 < decimal.exponent then .infinite negative
  else if decimal.exponent + decimal.digits.log2 < -800 then ofSteps negative 0 1
  else if 0 ≤ decimal.exponent then
    ofSteps negative (decimal.digits * Nat.pow 10 decimal.exponent.toNat * unity) 1
  else
    ofSteps negative (decimal.digits * unity) (Nat.pow 10 (-decimal.exponent).toNat)

end Number

namespace Numeral

open Text

/-- A sign, if there is one, and the rest. -/
def sign : Text → Bool × Text
  | [] => (false, [])
  | mark :: rest =>
    if mark = unit '-' then (true, rest)
    else if mark = unit '+' then (false, rest)
    else (false, mark :: rest)

/-- The exponent that `text` begins with, or zero, and the rest; a mark without digits is no
exponent. -/
def exponentPart : Text → Int × Text
  | [] => (0, [])
  | mark :: rest =>
    let (negative, number) := sign rest
    let digits := number.takeWhile isDigit
    if (mark = unit 'e' || mark = unit 'E') && !digits.isEmpty then
      (if negative then -(digitsValue digits : Int) else digitsValue digits,
        number.dropWhile isDigit)
    else
      (0, mark :: rest)

/-- The decimal places that `text` begins with, and the rest; a point without digits is none. -/
def fractionPart : Text → Text × Text
  | [] => ([], [])
  | mark :: rest =>
    if mark = unit '.' && !(rest.takeWhile isDigit).isEmpty then
      (rest.takeWhile isDigit, rest.dropWhile isDigit)
    else
      ([], mark :: rest)

/-- The value of a numeral with these digits before and behind the point. -/
def decimalValue (whole fraction : Text) (exponent : Int) : Decimal :=
  ⟨digitsValue (whole ++ fraction), exponent - fraction.length⟩

/-- The value of a whole text of digits in a base, if there is at least one digit and no other
unit. -/
def baseValue? (base : Nat) (text : Text) : Option Nat :=
  if text.isEmpty then none
  else
    text.foldl
      (fun value? digit =>
        match value?, hexValue? digit with
        | some value, some d => if d < base then some (base * value + d) else none
        | _, _ => none)
      (some 0)

/-- The number that an unsigned decimal numeral stands for; digits may be missing on one side of the
point. -/
def unsigned (negative : Bool) (text : Text) : Number :=
  if text = "Infinity" then .infinite negative
  else
    let whole := text.takeWhile isDigit
    let (fraction, rest) :=
      match text.dropWhile isDigit with
      | [] => (([] : Text), ([] : Text))
      | mark :: rest =>
        if mark = unit '.' then (rest.takeWhile isDigit, rest.dropWhile isDigit)
        else ([], mark :: rest)
    let (exponent, rest) := exponentPart rest
    if rest.isEmpty && !(whole ++ fraction).isEmpty then
      Number.ofDecimal negative (decimalValue whole fraction exponent)
    else
      .nan

/-- The number that a text stands for: blanks around it are dropped, no text at all is zero, whole
numbers may be written in base two, eight or sixteen, and all else is NaN. -/
def toNumber (text : Text) : Number :=
  match text.trim with
  | [] => 0
  | [mark] => unsigned false [mark]
  | first :: second :: rest =>
    let based (base : Nat) : Number :=
      match baseValue? base rest with
      | some value => Number.ofNat value
      | none => .nan
    if first = unit '0' && (second = unit 'x' || second = unit 'X') then based 16
    else if first = unit '0' && (second = unit 'o' || second = unit 'O') then based 8
    else if first = unit '0' && (second = unit 'b' || second = unit 'B') then based 2
    else
      let (negative, digits) := sign (first :: second :: rest)
      unsigned negative digits

end Numeral

end ResourceWatch
