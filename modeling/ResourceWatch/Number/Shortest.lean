import ResourceWatch.Number.Decimal

/-!
The shortest decimal text of a number: the fewest digits that are read back as the same number, and
of those the nearest.
-/

namespace ResourceWatch

namespace Number

/-- The `n` for which the value lies between `10 ^ (n - 1)` and `10 ^ n`; it is found by counting the
digits of the value times `10 ^ 350`, of which every finite number but zero has some. -/
def decimalPoint (magnitude : Magnitude) : Int :=
  (Nat.toDigits 10 (magnitude.steps * Nat.pow 10 350 / unity)).length - 350

/-- The two neighbours of a quotient among the whole numbers, the nearer one first; of two that are
equally near the even one is first. -/
def neighbours (top bottom : Nat) : List Nat :=
  if roundQuotient top bottom = top / bottom then [top / bottom, top / bottom + 1]
  else [top / bottom + 1, top / bottom]

/-- A decimal with `count` digits; one more digit is there only if a round-up ended in a zero. -/
def withDigits (count digits : Nat) (exponent : Int) : Decimal :=
  if digits = Nat.pow 10 count then ⟨digits / 10, exponent + 1⟩ else ⟨digits, exponent⟩

/-- The decimals with `count` digits next to a value whose first digit is at `point`. -/
def candidates (magnitude : Magnitude) (point : Int) (count : Nat) : List Decimal :=
  let exponent := point - count
  let digits :=
    if 0 ≤ exponent then neighbours magnitude.steps (unity * Nat.pow 10 exponent.toNat)
    else neighbours (magnitude.steps * Nat.pow 10 (-exponent).toNat) unity
  digits.map (withDigits count · exponent)

/-- Every digit of a finite number. -/
def exactDecimal (magnitude : Magnitude) : Decimal :=
  ⟨magnitude.steps * Nat.pow 5 1074, -1074⟩

def readsBack (magnitude : Magnitude) (decimal : Decimal) : Bool :=
  ofDecimal false decimal = .finite false magnitude

/-- The shortest decimal that is read back as the number; seventeen digits are always enough. -/
def shortest (magnitude : Magnitude) : Decimal :=
  let point := decimalPoint magnitude
  match (List.range' 1 17).findSome? fun count =>
      (candidates magnitude point count).find? (readsBack magnitude) with
  | some decimal => decimal
  | none => exactDecimal magnitude

/-- How numbers are laid out: positions below `positionalBelow` and above `positionalAbove` are
written out, and others get an exponent. -/
structure Layout where
  positionalBelow : Int
  positionalAbove : Int

/-- Values from `10 ^ (-7)` on and below `10 ^ 21` are written without an exponent. -/
def layout : Layout := ⟨21, -6⟩

open Text

/-- The text of a decimal value: the digits with a point in their midst, zeros around them, or an
exponent behind them. -/
def decimalText (style : Layout) (decimal : Decimal) : Text :=
  let digits := Text.ofNat decimal.digits
  let count : Int := digits.length
  let point := count + decimal.exponent
  if 0 ≤ decimal.exponent && point ≤ style.positionalBelow then
    digits ++ List.replicate decimal.exponent.toNat (unit '0')
  else if 0 < point && point ≤ style.positionalBelow then
    digits.take point.toNat ++ unit '.' :: digits.drop point.toNat
  else if style.positionalAbove < point && point ≤ 0 then
    unit '0' :: unit '.' :: (List.replicate (-point).toNat (unit '0') ++ digits)
  else
    let fraction := digits.drop 1
    digits.take 1 ++ (if fraction.isEmpty then [] else unit '.' :: fraction) ++
      unit 'e' :: (if 0 < point then [unit '+'] else []) ++ Text.ofInt (point - 1)

/-- The text of a number; the sign of zero is not written. -/
def toText : Number → Text
  | .nan => "NaN"
  | .infinite negative => if negative then "-Infinity" else "Infinity"
  | .finite negative magnitude =>
    if magnitude.steps = 0 then "0"
    else
      (if negative then [unit '-'] else []) ++ decimalText layout (shortest magnitude)

end Number

end ResourceWatch
