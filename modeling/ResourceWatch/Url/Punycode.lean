import ResourceWatch.Text

/-!
Punycode writes a label of any characters with letters, digits and hyphens: first the ASCII
characters, then, for each other one in ascending order, the number of steps to its place. `encode`
writes a label and `decode?` reads one.
-/

namespace ResourceWatch.Punycode

def digit (value : Nat) : UInt16 :=
  if value < 26 then (0x61 + value).toUInt16 else (0x30 + value - 26).toUInt16

/-- The digits below the threshold end a number. -/
def threshold (place bias : Nat) : Nat :=
  if place ≤ bias then 1 else min 26 (place - bias)

theorem threshold_le (place bias : Nat) : threshold place bias ≤ 26 := by
  unfold threshold
  split <;> omega

theorem threshold_pos (place bias : Nat) : 0 < threshold place bias := by
  unfold threshold
  split <;> omega

/-- A number with digits of rising places, the least one first. -/
def number (bias place value : Nat) : Text :=
  let limit := threshold place bias
  if value < limit then [digit value]
  else
    digit (limit + (value - limit) % (36 - limit)) ::
      number bias (place + 36) ((value - limit) / (36 - limit))
termination_by value
decreasing_by
  have positive := threshold_pos place bias
  have := threshold_le place bias
  exact Nat.lt_of_le_of_lt (Nat.div_le_self _ _) (by omega)

/-- How often a delta is divided before the bias is read off it. -/
def reduce (delta places : Nat) : Nat × Nat :=
  if 455 < delta then reduce (delta / 35) (places + 36) else (delta, places)
termination_by delta
decreasing_by exact Nat.div_lt_self (by omega) (by omega)

/-- The bias after a number was written. -/
def adapt (delta count : Nat) (first : Bool) : Nat :=
  let scaled := if first then delta / 700 else delta / 2
  let (rest, places) := reduce (scaled + scaled / count) 0
  places + 36 * rest / (rest + 38)

structure State where
  text : Text
  delta : Nat
  bias : Nat
  /-- How many characters are written. -/
  count : Nat

/-- Looks at one character while those of value `point` are being placed. -/
def State.pass (basic point : Nat) (state : State) (other : Nat) : State :=
  if other < point then { state with delta := state.delta + 1 }
  else if other = point then
    { text := state.text ++ number state.bias 36 state.delta
      delta := 0
      bias := adapt state.delta (state.count + 1) (state.count = basic)
      count := state.count + 1 }
  else state

/-- Places the characters of each of the values, which ascend from `least` on. -/
def place (points : List Nat) (basic : Nat) : (values : List Nat) → (least : Nat) → State → State
  | [], _, state => state
  | point :: rest, least, state =>
    let passed :=
      points.foldl (State.pass basic point)
        { state with delta := state.delta + (point - least) * (state.count + 1) }
    place points basic rest (point + 1) { passed with delta := passed.delta + 1 }

def encode (points : List Nat) : Text :=
  let basic := points.filter (· < 0x80)
  let values := ((points.filter (0x80 ≤ ·)).mergeSort (· ≤ ·)).eraseDups
  let start := basic.map Nat.toUInt16 ++ (if basic.isEmpty then [] else [0x2D])
  (place points basic.length values 0x80 ⟨start, 0, 72, basic.length⟩).text

/-- The value of a digit in small letters. -/
def digitValue? (unit : UInt16) : Option Nat :=
  if Text.isLower unit then some (unit.toNat - 0x61)
  else if Text.isDigit unit then some (unit.toNat - 0x30 + 26)
  else none

/-- Reads the digits of a number from one place on, and adds their values to `value`. Gives also the
text behind them. -/
def readNumber? (bias : Nat) : (place weight value : Nat) → Text → Option (Nat × Text)
  | _, _, _, [] => none
  | place, weight, value, unit :: rest => do
    let found ← digitValue? unit
    let limit := threshold place bias
    if found < limit then return (value + found * weight, rest)
    else readNumber? bias (place + 36) (weight * (36 - limit)) (value + found * weight) rest

theorem length_lt_of_readNumber? {bias place weight value sum : Nat} {text rest : Text}
    (read : readNumber? bias place weight value text = some (sum, rest)) :
    rest.length < text.length := by
  induction text generalizing place weight value with
  | nil => simp [readNumber?] at read
  | cons unit text ih =>
    simp only [readNumber?, Option.bind_eq_bind, Option.bind_eq_some_iff] at read
    obtain ⟨found, _, read⟩ := read
    split at read
    · simp only [Option.pure_def, Option.some.injEq, Prod.mk.injEq] at read
      simp [← read.2]
    · exact Nat.lt_succ_of_lt (ih read)

/-- Puts characters in their places: `point` and `value` are those of the next one if its number is
zero. -/
def insertAll? (bias point value : Nat) (points : List Nat) (text : Text) : Option (List Nat) :=
  match text with
  | [] => some points
  | unit :: rest =>
    match read : readNumber? bias 36 1 value (unit :: rest) with
    | none => none
    | some (sum, after) =>
      have := length_lt_of_readNumber? read
      let count := points.length + 1
      let point := point + sum / count
      if point < 0x110000 then
        insertAll? (adapt (sum - value) count (value = 0)) point (sum % count + 1)
          (points.insertIdx (sum % count) point) after
      else none
termination_by text.length
decreasing_by exact this

/-- The text before the last hyphen and the text behind it. -/
def cutLastHyphen (text : Text) : Text × Text :=
  match Text.cut 0x2D text.reverse with
  | (behind, some before) => (before.reverse, behind.reverse)
  | (_, none) => ([], text)

/-- The characters that a text in small ASCII letters stands for. -/
def decode? (text : Text) : Option (List Nat) :=
  let (basic, numbers) := cutLastHyphen text
  insertAll? 72 0x80 0 (basic.map UInt16.toNat) numbers

end ResourceWatch.Punycode
