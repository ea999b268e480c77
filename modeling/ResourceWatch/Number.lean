/-!
Numbers are IEEE binary64 values, held exactly: a finite one is a sign and a count of the least
positive value, `2 ^ (-1074)`. Every operation computes with whole numbers and rounds once, to the
nearest number, a tie going to the even one.
-/

namespace ResourceWatch

/-- At most 53 significant bits, so that no rounding is needed. -/
def FitsMantissa (steps : Nat) : Prop :=
  ∃ mantissa scale, mantissa ≤ Nat.pow 2 53 ∧ steps = mantissa * Nat.pow 2 scale

/-- The whole number nearest to a quotient; a half goes to the even neighbour. -/
def roundQuotient (top bottom : Nat) : Nat :=
  if bottom < 2 * (top % bottom) ∨ (2 * (top % bottom) = bottom ∧ top / bottom % 2 = 1) then
    top / bottom + 1
  else
    top / bottom

/-- How many low bits of `whole` do not fit a mantissa. -/
def excessBits (whole : Nat) : Nat :=
  whole.log2 + 1 - 53

/-- The nearest number to a quotient that has at most 53 significant bits. -/
def nearest (top bottom : Nat) : Nat :=
  let unit := Nat.pow 2 (excessBits (top / bottom))
  roundQuotient top (bottom * unit) * unit

theorem roundQuotient_le (top bottom : Nat) : roundQuotient top bottom ≤ top / bottom + 1 := by
  unfold roundQuotient
  split <;> omega

theorem fitsMantissa_nearest (top bottom : Nat) : FitsMantissa (nearest top bottom) := by
  refine ⟨_, _, ?_, rfl⟩
  refine Nat.le_trans (roundQuotient_le _ _) (Nat.succ_le_of_lt ?_)
  simp only [Nat.pow_eq, ← Nat.div_div_eq_div_mul]
  generalize top / bottom = whole
  refine (Nat.div_lt_iff_lt_mul (Nat.two_pow_pos _)).2 ?_
  rw [← Nat.pow_add]
  refine Nat.lt_of_lt_of_le Nat.lt_log2_self (Nat.pow_le_pow_right (by decide) ?_)
  unfold excessBits
  omega

/-- How many steps make one. -/
def unity : Nat := Nat.pow (Nat.pow 2 179) 6

/-- The least count of steps that is too large for a finite number. -/
def overflow : Nat := Nat.pow (Nat.pow 2 128) 8 * unity

/-- A finite number without its sign, as a count of the least positive value. -/
structure Magnitude where
  steps : Nat
  fits : FitsMantissa steps
  bounded : steps < overflow
deriving DecidableEq

inductive Number where
  | nan
  | infinite (negative : Bool)
  | finite (negative : Bool) (magnitude : Magnitude)
deriving DecidableEq

namespace Number

/-- The number nearest to a quotient of steps; what is too large is infinite. -/
def ofSteps (negative : Bool) (top bottom : Nat) : Number :=
  if bounded : nearest top bottom < overflow then
    .finite negative ⟨nearest top bottom, fitsMantissa_nearest top bottom, bounded⟩
  else
    .infinite negative

def ofNat (n : Nat) : Number :=
  ofSteps false (n * unity) 1

def ofInt (n : Int) : Number :=
  ofSteps (n < 0) (n.natAbs * unity) 1

instance (n : Nat) : OfNat Number n := ⟨ofNat n⟩

/-- A count of steps with a sign; both zeros are zero. -/
def signed (negative : Bool) (steps : Nat) : Int :=
  if negative then -(steps : Int) else steps

def signedSteps? : Number → Option Int
  | .finite negative magnitude => some (signed negative magnitude.steps)
  | _ => none

/-- The place of a number in the order: the infinities lie one step outside the finite numbers, and
NaN has no place. -/
def place? : Number → Option Int
  | .nan => none
  | .infinite negative => some (signed negative overflow)
  | .finite negative magnitude => some (signed negative magnitude.steps)

/-- Whether the first number is less than the second; NaN is never less, nor greater. -/
def lt (first second : Number) : Bool :=
  match first.place?, second.place? with
  | some place, some place' => place < place'
  | _, _ => false

/-- Whether two numbers compare equal: both zeros do, and NaN does not even to itself. -/
def same (first second : Number) : Bool :=
  match first.place?, second.place? with
  | some place, some place' => place = place'
  | _, _ => false

def le (first second : Number) : Bool :=
  lt first second || same first second

def neg : Number → Number
  | .nan => .nan
  | .infinite negative => .infinite !negative
  | .finite negative magnitude => .finite (!negative) magnitude

/-- The sum, rounded; opposite infinities have none. -/
def add (first second : Number) : Number :=
  match first, second with
  | .nan, _ | _, .nan => .nan
  | .infinite negative, .infinite negative' => if negative = negative' then first else .nan
  | .infinite _, .finite _ _ => first
  | .finite _ _, .infinite _ => second
  | .finite negative magnitude, .finite negative' magnitude' =>
    let total := signed negative magnitude.steps + signed negative' magnitude'.steps
    ofSteps (if total = 0 then negative && negative' else total < 0) total.natAbs 1

def sub (first second : Number) : Number :=
  add first second.neg

instance : Add Number := ⟨add⟩
instance : Sub Number := ⟨sub⟩

/-- The whole number that is left when a finite number loses its fraction. -/
def truncate? (number : Number) : Option Int :=
  number.signedSteps?.map (·.tdiv unity)

/-- The value of a finite number that is whole. -/
def toInt? (number : Number) : Option Int :=
  match number.signedSteps? with
  | some steps => if steps.tmod unity = 0 then some (steps.tdiv unity) else none
  | none => none

def isWhole (number : Number) : Bool :=
  number.toInt?.isSome

end Number

end ResourceWatch
