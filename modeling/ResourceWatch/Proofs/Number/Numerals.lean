import ResourceWatch.Json.Printer
import ResourceWatch.Json.Reader
import ResourceWatch.Proofs.Number.Rounding

/-!
# Numbers in JSON text

A finite number is written as a numeral, and the numeral is read as the number, whichever way the
digits are laid out.
-/

namespace ResourceWatch

open Text

/-! ### Digits -/

namespace Text

/-- A text of decimal digits. -/
def IsDigits (text : Text) : Prop :=
  ∀ u ∈ text, isDigit u = true

theorem isDigit_iff (u : UInt16) : isDigit u = true ↔ 0x30 ≤ u.toNat ∧ u.toNat ≤ 0x39 := by
  simp [isDigit, UInt16.le_iff_toNat_le]

theorem toNat_unit_of_isDigit {c : Char} (hdigit : c.isDigit = true) :
    (unit c).toNat = c.toNat ∧ 0x30 ≤ c.toNat ∧ c.toNat ≤ 0x39 := by
  simp only [Char.isDigit, Bool.and_eq_true, decide_eq_true_eq, UInt32.le_iff_toNat_le] at hdigit
  have hlow : 0x30 ≤ c.toNat := hdigit.1
  have hhigh : c.toNat ≤ 0x39 := hdigit.2
  refine ⟨?_, hlow, hhigh⟩
  rw [unit, Nat.toUInt16, UInt16.toNat_ofNat', Nat.mod_eq_of_lt (by omega)]

theorem isDigits_ofNat (n : Nat) : IsDigits (ofNat n) := by
  intro u hu
  obtain ⟨c, hc, rfl⟩ := List.mem_map.mp hu
  obtain ⟨heq, hlow, hhigh⟩ :=
    toNat_unit_of_isDigit (Nat.isDigit_of_mem_toDigits (by decide) (by decide) hc)
  rw [isDigit_iff, heq]
  exact ⟨hlow, hhigh⟩

theorem ofNat_ne_nil (n : Nat) : ofNat n ≠ [] := by
  simp [ofNat, Nat.toDigits_ne_nil]

theorem digitsValue_append (first second : Text) :
    digitsValue (first ++ second) =
      digitsValue first * 10 ^ second.length + digitsValue second := by
  have hfoldl (start : Nat) (text : Text) :
      text.foldl (fun value digit => 10 * value + (digit.toNat - 0x30)) start =
        start * 10 ^ text.length + digitsValue text := by
    induction text generalizing start with
    | nil => simp [digitsValue]
    | cons u rest ih =>
        rw [digitsValue, List.foldl_cons, List.foldl_cons, ih, ih, List.length_cons, Nat.pow_succ]
        grind
  rw [digitsValue, List.foldl_append, hfoldl]
  rfl

theorem digitsValue_ofNat (n : Nat) : digitsValue (ofNat n) = n := by
  have hfoldl (chars : List Char) (hchars : ∀ c ∈ chars, c.isDigit = true) (start : Nat) :
      (chars.map unit).foldl (fun value digit => 10 * value + (digit.toNat - 0x30)) start =
        Nat.ofDigitChars 10 chars start := by
    induction chars generalizing start with
    | nil => rfl
    | cons c rest ih =>
        obtain ⟨hc, hrest⟩ := List.forall_mem_cons.mp hchars
        rw [List.map_cons, List.foldl_cons, ih hrest, Nat.ofDigitChars_cons,
          (toNat_unit_of_isDigit hc).1]
        rfl
  rw [digitsValue, ofNat, hfoldl _ fun c hc =>
    Nat.isDigit_of_mem_toDigits (by decide) (by decide) hc, Nat.ofDigitChars_ten_toDigits]

theorem digitsValue_replicate_zero (count : Nat) :
    digitsValue (List.replicate count (unit '0')) = 0 := by
  induction count with
  | zero => rfl
  | succ count ih =>
      rw [List.replicate_succ', digitsValue_append, ih]
      decide

/-- A number is written without leading zeros. -/
theorem head?_ofNat_ne_zero {n : Nat} (hn : n ≠ 0) : (ofNat n).head? ≠ some 0x30 := by
  induction n using Nat.strongRecOn with
  | ind n ih =>
      rw [ofNat, Nat.toDigits_eq_if (by decide)]
      split
      · rename_i hlt
        have hsmall : ∀ digit < 10, digit ≠ 0 → unit digit.digitChar ≠ 0x30 := by decide
        simpa using hsmall n hlt hn
      · rename_i hle
        obtain ⟨first, others, hfirst⟩ := List.exists_cons_of_ne_nil (ofNat_ne_nil (n / 10))
        have hne := ih (n / 10) (by omega) (by omega)
        rw [List.map_append, ← ofNat, hfirst]
        rwa [hfirst] at hne

theorem IsDigits.append {first second : Text} (hfirst : IsDigits first) (hsecond : IsDigits second) :
    IsDigits (first ++ second) := by
  intro u hu
  rcases List.mem_append.mp hu with hu | hu
  · exact hfirst u hu
  · exact hsecond u hu

theorem isDigits_replicate_zero (count : Nat) : IsDigits (List.replicate count (unit '0')) := by
  intro u hu
  rw [(List.mem_replicate.mp hu).2]
  decide

theorem IsDigits.take {text : Text} (hdigits : IsDigits text) (count : Nat) :
    IsDigits (text.take count) :=
  fun u hu => hdigits u (List.mem_of_mem_take hu)

theorem IsDigits.drop {text : Text} (hdigits : IsDigits text) (count : Nat) :
    IsDigits (text.drop count) :=
  fun u hu => hdigits u (List.mem_of_mem_drop hu)

/-- A text that does not go on with a digit. -/
def EndsDigits (rest : Text) : Prop :=
  ∀ u ∈ rest.head?, isDigit u = false

theorem IsDigits.takeWhile_append {digits rest : Text} (hdigits : IsDigits digits)
    (hrest : EndsDigits rest) : (digits ++ rest).takeWhile isDigit = digits := by
  rw [List.takeWhile_append_of_pos hdigits]
  cases rest with
  | nil => simp
  | cons u rest => simp [hrest u rfl]

theorem IsDigits.dropWhile_append {digits rest : Text} (hdigits : IsDigits digits)
    (hrest : EndsDigits rest) : (digits ++ rest).dropWhile isDigit = rest := by
  rw [List.dropWhile_append_of_pos hdigits]
  cases rest with
  | nil => simp
  | cons u rest => simp [hrest u rfl]

end Text

/-! ### Numerals -/

namespace Numeral

/-- The parts of an unsigned numeral. -/
structure Spelling where
  whole : Text
  fraction : Text := []
  /-- Whether the exponent is negative, and its digits. -/
  exponent : Option (Bool × Text) := none

namespace Spelling

def pointText (fraction : Text) : Text :=
  if fraction.isEmpty then [] else unit '.' :: fraction

def exponentText : Option (Bool × Text) → Text
  | none => []
  | some (negative, digits) => unit 'e' :: unit (if negative then '-' else '+') :: digits

def exponentValue : Option (Bool × Text) → Int
  | none => 0
  | some (negative, digits) => if negative then -(digitsValue digits : Int) else digitsValue digits

def text (spelling : Spelling) : Text :=
  spelling.whole ++ (pointText spelling.fraction ++ exponentText spelling.exponent)

def decimal (spelling : Spelling) : Decimal :=
  decimalValue spelling.whole spelling.fraction (exponentValue spelling.exponent)

/-- All parts are digits; no digit follows a leading zero, and an exponent has digits. -/
structure IsFormed (spelling : Spelling) : Prop where
  whole : IsDigits spelling.whole
  whole_ne_nil : spelling.whole ≠ []
  zero : spelling.whole.head? = some 0x30 → spelling.whole = [0x30]
  fraction : IsDigits spelling.fraction
  exponent : ∀ negative digits, spelling.exponent = some (negative, digits) →
    IsDigits digits ∧ digits ≠ []

end Spelling

/-- A text that does not go on with a part of a numeral. -/
def Ends (rest : Text) : Prop :=
  ∀ u ∈ rest.head?, isDigit u = false ∧ u ≠ unit '.' ∧ u ≠ unit 'e' ∧ u ≠ unit 'E'

open Spelling

variable {rest : Text}

theorem Ends.endsDigits (hrest : Ends rest) : EndsDigits rest :=
  fun u hu => (hrest u hu).1

theorem endsDigits_exponentText_append (hrest : Ends rest) (exponent : Option (Bool × Text)) :
    EndsDigits (exponentText exponent ++ rest) := by
  cases exponent with
  | none => exact hrest.endsDigits
  | some exponent =>
      intro u hu
      rw [exponentText, List.cons_append, List.head?_cons, Option.mem_some_iff] at hu
      subst hu
      decide

theorem fractionPart_append {fraction : Text} (hfraction : IsDigits fraction)
    (hrest : EndsDigits rest) (hpoint : ∀ u ∈ rest.head?, u ≠ unit '.') :
    fractionPart (pointText fraction ++ rest) = (fraction, rest) := by
  cases fraction with
  | nil =>
      cases rest with
      | nil => rfl
      | cons u rest => simp [pointText, fractionPart, hpoint u rfl]
  | cons digit fraction =>
      simp only [pointText, List.isEmpty_cons, Bool.false_eq_true, if_false, List.cons_append,
        fractionPart]
      rw [← List.cons_append, hfraction.takeWhile_append hrest, hfraction.dropWhile_append hrest]
      simp

theorem exponentPart_append {exponent : Option (Bool × Text)}
    (hexponent : ∀ negative digits, exponent = some (negative, digits) →
      IsDigits digits ∧ digits ≠ []) (hrest : Ends rest) :
    exponentPart (exponentText exponent ++ rest) = (exponentValue exponent, rest) := by
  cases exponent with
  | none =>
      cases rest with
      | nil => rfl
      | cons u rest =>
          obtain ⟨-, -, hlower, hupper⟩ := hrest u rfl
          simp [exponentText, exponentPart, hlower, hupper, exponentValue]
  | some exponent =>
      obtain ⟨negative, digits⟩ := exponent
      obtain ⟨hdigits, hne⟩ := hexponent negative digits rfl
      have hsign : sign (unit (if negative then '-' else '+') :: (digits ++ rest)) =
          (negative, digits ++ rest) := by
        cases negative <;> simp [sign, unit]
      simp only [exponentText, List.cons_append, exponentPart, hsign,
        hdigits.takeWhile_append hrest.endsDigits, hdigits.dropWhile_append hrest.endsDigits]
      simp [hne, exponentValue]

end Numeral

namespace Json

open Numeral Spelling

variable {spelling : Spelling} {rest : Text}

/-- The sign of a numeral. -/
def signText (negative : Bool) : Text :=
  if negative then [unit '-'] else []

/-- **A numeral is read as the number nearest to its value.** -/
theorem readNumber?_append (hformed : spelling.IsFormed) (negative : Bool) (hrest : Ends rest) :
    readNumber? (signText negative ++ (spelling.text ++ rest)) =
      some (Number.ofDecimal negative spelling.decimal, rest) := by
  obtain ⟨first, others, hwhole⟩ := List.exists_cons_of_ne_nil hformed.whole_ne_nil
  have hfirst : isDigit first = true := hformed.whole first (by simp [hwhole])
  have hminus : first ≠ 0x2D := by
    rintro rfl
    exact absurd hfirst (by decide)
  have hexponent := exponentPart_append hformed.exponent hrest
  have hends := endsDigits_exponentText_append hrest spelling.exponent
  have hpoint : ∀ u ∈ (exponentText spelling.exponent ++ rest).head?, u ≠ unit '.' := by
    cases hmark : spelling.exponent with
    | none => exact fun u hu => (hrest u hu).2.1
    | some exponent =>
        intro u hu
        rw [exponentText, List.cons_append, List.head?_cons, Option.mem_some_iff] at hu
        subst hu
        decide
  have hfraction := fractionPart_append hformed.fraction hends hpoint
  have hbehind : EndsDigits
      (pointText spelling.fraction ++ (exponentText spelling.exponent ++ rest)) := by
    cases hmark : spelling.fraction with
    | nil => exact hends
    | cons digit fraction =>
        intro u hu
        rw [pointText, List.isEmpty_cons, if_neg Bool.false_ne_true, List.cons_append,
          List.head?_cons, Option.mem_some_iff] at hu
        subst hu
        decide
  have htext : spelling.text ++ rest = spelling.whole ++
      (pointText spelling.fraction ++ (exponentText spelling.exponent ++ rest)) := by
    rw [Spelling.text, List.append_assoc, List.append_assoc]
  generalize pointText spelling.fraction ++ (exponentText spelling.exponent ++ rest) = behind
    at hfraction hbehind htext
  have hcons : spelling.whole ++ behind = first :: (others ++ behind) := by
    rw [hwhole, List.cons_append]
  have hparts : (if first = 0x30 then ([first], others ++ behind)
      else ((first :: (others ++ behind)).takeWhile isDigit,
        (first :: (others ++ behind)).dropWhile isDigit)) = (spelling.whole, behind) := by
    split
    · rename_i hzero
      have hsingle := hformed.zero (by rw [hwhole, hzero]; rfl)
      rw [hwhole, List.cons.injEq] at hsingle
      rw [hwhole, hsingle.2, List.nil_append]
    · rw [← hcons, hformed.whole.takeWhile_append hbehind, hformed.whole.dropWhile_append hbehind]
  have hne : ¬spelling.whole.isEmpty = true := by simp [hwhole]
  cases negative with
  | true =>
      have hread : signText true ++ (spelling.text ++ rest) = 0x2D :: first :: (others ++ behind) := by
        rw [htext, hcons]
        rfl
      rw [hread, readNumber?.eq_def]
      simp only [if_true, hparts, hfraction, hexponent, if_neg hne]
      rfl
  | false =>
      have hread : signText false ++ (spelling.text ++ rest) = first :: (others ++ behind) := by
        rw [htext, hcons]
        rfl
      rw [hread, readNumber?.eq_def]
      simp only [if_neg hminus, hparts, hfraction, hexponent, if_neg hne]
      rfl

end Json

/-! ### The layouts -/

namespace Number

open Numeral Spelling

variable {decimal : Decimal}

/-- A numeral with the value of a decimal. -/
structure SpelledBy (decimal : Decimal) (spelling : Spelling) : Prop where
  formed : spelling.IsFormed
  value (negative : Bool) : ofDecimal negative spelling.decimal = ofDecimal negative decimal

/-- Zeros behind the digits stand for a power of ten. -/
theorem ofDecimal_shift (negative : Bool) {digits places : Nat} (hdigits : digits ≠ 0)
    (hplaces : places ≤ 400) :
    ofDecimal negative ⟨digits * 10 ^ places, 0⟩ = ofDecimal negative ⟨digits, places⟩ := by
  have hne : digits * 10 ^ places ≠ 0 :=
    Nat.mul_ne_zero hdigits (Nat.ne_of_gt (Nat.pow_pos (by decide)))
  simp only [ofDecimal, if_neg hdigits, if_neg hne, Nat.pow_eq, Int.toNat_natCast, Int.toNat_zero,
    Nat.pow_zero, Nat.mul_one]
  rw [if_neg (by omega), if_neg (by omega), if_pos (by omega), if_neg (by omega), if_neg (by omega),
    if_pos (by omega)]

theorem decimal_eq_of_digits {whole fraction : Text} {exponent : Option (Bool × Text)}
    (hvalue : digitsValue (whole ++ fraction) = decimal.digits)
    (hexponent : exponentValue exponent - fraction.length = decimal.exponent) :
    Spelling.decimal ⟨whole, fraction, exponent⟩ = decimal := by
  rw [Spelling.decimal, decimalValue, hvalue, hexponent]

theorem spelledBy_whole (hdigits : decimal.digits ≠ 0) {places : Nat}
    (hexponent : decimal.exponent = places) (hplaces : places ≤ 400) :
    SpelledBy decimal
      { whole := Text.ofNat decimal.digits ++ List.replicate places (unit '0') } where
  formed := {
    whole := (isDigits_ofNat _).append (isDigits_replicate_zero _)
    whole_ne_nil := by simp [ofNat_ne_nil]
    zero := fun hhead => by
      obtain ⟨first, others, hfirst⟩ := List.exists_cons_of_ne_nil (ofNat_ne_nil decimal.digits)
      have hne := head?_ofNat_ne_zero hdigits
      rw [hfirst] at hhead hne
      exact absurd hhead hne
    fraction := fun u hu => by simp at hu
    exponent := fun negative digits hnone => by simp at hnone }
  value negative := by
    have hvalue : digitsValue (Text.ofNat decimal.digits ++ List.replicate places (unit '0')) =
        decimal.digits * 10 ^ places := by
      rw [digitsValue_append, digitsValue_ofNat, digitsValue_replicate_zero, List.length_replicate,
        Nat.add_zero]
    have hshift := ofDecimal_shift negative hdigits hplaces
    rw [← hexponent] at hshift
    rw [Spelling.decimal, decimalValue, List.append_nil, hvalue]
    exact hshift

theorem spelledBy_point (hdigits : decimal.digits ≠ 0) (point : Nat) (hpoint : 0 < point)
    (hexponent : (point : Int) = (Text.ofNat decimal.digits).length + decimal.exponent)
    (hlt : point < (Text.ofNat decimal.digits).length) :
    SpelledBy decimal
      { whole := (Text.ofNat decimal.digits).take point
        fraction := (Text.ofNat decimal.digits).drop point } where
  formed := {
    whole := (isDigits_ofNat _).take _
    whole_ne_nil := by simp [ofNat_ne_nil]; omega
    zero := fun hhead => by
      rw [List.head?_take, if_neg (by omega)] at hhead
      exact absurd hhead (head?_ofNat_ne_zero hdigits)
    fraction := (isDigits_ofNat _).drop _
    exponent := fun negative digits hnone => by simp at hnone }
  value negative := by
    rw [decimal_eq_of_digits]
    · rw [List.take_append_drop, digitsValue_ofNat]
    · simp only [exponentValue, List.length_drop]
      omega

theorem spelledBy_small (zeros : Nat)
    (hexponent : -(zeros : Int) = (Text.ofNat decimal.digits).length + decimal.exponent) :
    SpelledBy decimal
      { whole := [unit '0']
        fraction := List.replicate zeros (unit '0') ++ Text.ofNat decimal.digits } where
  formed := {
    whole := isDigits_replicate_zero 1
    whole_ne_nil := by simp
    zero := fun _ => rfl
    fraction := (isDigits_replicate_zero _).append (isDigits_ofNat _)
    exponent := fun negative digits hnone => by simp at hnone }
  value negative := by
    rw [decimal_eq_of_digits]
    · have hzero : [unit '0'] ++ (List.replicate zeros (unit '0') ++ Text.ofNat decimal.digits) =
          List.replicate (zeros + 1) (unit '0') ++ Text.ofNat decimal.digits := rfl
      rw [hzero, digitsValue_append, digitsValue_replicate_zero, digitsValue_ofNat, Nat.zero_mul,
        Nat.zero_add]
    · simp only [exponentValue, List.length_append, List.length_replicate]
      omega

theorem spelledBy_exponent (hdigits : decimal.digits ≠ 0) (negative : Bool) (size : Nat)
    (hexponent : (if negative then -(size : Int) else size) =
      (Text.ofNat decimal.digits).length + decimal.exponent - 1) :
    SpelledBy decimal
      { whole := (Text.ofNat decimal.digits).take 1
        fraction := (Text.ofNat decimal.digits).drop 1
        exponent := some (negative, Text.ofNat size) } where
  formed := {
    whole := (isDigits_ofNat _).take _
    whole_ne_nil := by simp [ofNat_ne_nil]
    zero := fun hhead => by
      rw [List.head?_take, if_neg (by omega)] at hhead
      exact absurd hhead (head?_ofNat_ne_zero hdigits)
    fraction := (isDigits_ofNat _).drop _
    exponent := fun sign digits hsome => by
      simp only [Option.some.injEq, Prod.mk.injEq] at hsome
      rw [← hsome.2]
      exact ⟨isDigits_ofNat _, ofNat_ne_nil _⟩ }
  value sign := by
    have hlength : 0 < (Text.ofNat decimal.digits).length :=
      List.length_pos_iff.mpr (ofNat_ne_nil _)
    rw [decimal_eq_of_digits]
    · rw [List.take_append_drop, digitsValue_ofNat]
    · simp only [exponentValue, digitsValue_ofNat, hexponent, List.length_drop]
      omega

/-- **However a decimal is laid out, it is a numeral with its value.** -/
theorem exists_spelling (hdigits : decimal.digits ≠ 0) {style : Layout}
    (hstyle : style.positionalBelow ≤ 400) :
    ∃ spelling, decimalText style decimal = spelling.text ∧ SpelledBy decimal spelling := by
  have hlength : 0 < (Text.ofNat decimal.digits).length :=
    List.length_pos_iff.mpr (ofNat_ne_nil _)
  simp only [decimalText, Bool.and_eq_true, decide_eq_true_eq]
  generalize hplace : (Text.ofNat decimal.digits).length + decimal.exponent = place
  by_cases hwhole : 0 ≤ decimal.exponent ∧ place ≤ style.positionalBelow
  · refine ⟨_, ?_, spelledBy_whole hdigits (Int.toNat_of_nonneg hwhole.1).symm (by omega)⟩
    rw [if_pos hwhole]
    simp [Spelling.text, pointText, exponentText]
  rw [if_neg hwhole]
  by_cases hpoint : 0 < place ∧ place ≤ style.positionalBelow
  · have hlt : place.toNat < (Text.ofNat decimal.digits).length := by omega
    refine ⟨_, ?_, spelledBy_point hdigits place.toNat (by omega) (by omega) hlt⟩
    rw [if_pos hpoint, Spelling.text, pointText, if_neg (by simpa using hlt), exponentText,
      List.append_nil]
  rw [if_neg hpoint]
  by_cases hsmall : style.positionalAbove < place ∧ place ≤ 0
  · refine ⟨_, ?_, spelledBy_small (-place).toNat (by omega)⟩
    rw [if_pos hsmall]
    simp [Spelling.text, pointText, exponentText, ofNat_ne_nil]
  rw [if_neg hsmall]
  by_cases hpositive : 0 < place
  · refine ⟨_, ?_, spelledBy_exponent hdigits false (place - 1).natAbs
      (by rw [if_neg Bool.false_ne_true]; omega)⟩
    have hsign : ¬place - 1 < 0 := by omega
    simp [Spelling.text, pointText, exponentText, hpositive, Text.ofInt, hsign]
  · refine ⟨_, ?_, spelledBy_exponent hdigits true (place - 1).natAbs (by rw [if_pos rfl]; omega)⟩
    have hsign : place - 1 < 0 := by omega
    simp [Spelling.text, pointText, exponentText, hpositive, Text.ofInt, hsign]

theorem ofDecimal_zero {magnitude : Magnitude} (hsteps : magnitude.steps = 0) (exponent : Int) :
    ofDecimal false ⟨0, exponent⟩ = .finite false magnitude := by
  have hself := ofSteps_mul_self magnitude Nat.one_pos
  rw [hsteps] at hself
  rw [ofDecimal, if_pos rfl]
  exact hself

/-- A number has the sign that its numeral has. -/
theorem ofDecimal_of_readsBack {magnitude : Magnitude}
    (hreads : readsBack magnitude decimal = true) (negative : Bool) :
    ofDecimal negative decimal = .finite negative magnitude := by
  have hsteps (top bottom : Nat) (hsteps : ofSteps false top bottom = .finite false magnitude) :
      ofSteps negative top bottom = .finite negative magnitude := by
    unfold ofSteps at hsteps ⊢
    split at hsteps
    · rw [dif_pos ‹_›]
      simpa using hsteps
    · simp at hsteps
  rw [readsBack, decide_eq_true_eq, ofDecimal] at hreads
  rw [ofDecimal]
  by_cases hzero : decimal.digits = 0
  · rw [if_pos hzero] at hreads ⊢
    exact hsteps 0 1 hreads
  rw [if_neg hzero] at hreads ⊢
  by_cases hlarge : 400 < decimal.exponent
  · simp [hlarge] at hreads
  rw [if_neg hlarge] at hreads ⊢
  by_cases hsmall : decimal.exponent + decimal.digits.log2 < -800
  · rw [if_pos hsmall] at hreads ⊢
    exact hsteps 0 1 hreads
  rw [if_neg hsmall] at hreads ⊢
  by_cases hwhole : 0 ≤ decimal.exponent
  · rw [if_pos hwhole] at hreads ⊢
    exact hsteps _ _ hreads
  · rw [if_neg hwhole] at hreads ⊢
    exact hsteps _ _ hreads

theorem digits_ne_zero_of_readsBack {magnitude : Magnitude} (hsteps : magnitude.steps ≠ 0)
    (hreads : readsBack magnitude decimal = true) : decimal.digits ≠ 0 := by
  intro hzero
  have hnothing : nearest 0 1 = 0 := by simp [nearest, roundQuotient]
  rw [readsBack, decide_eq_true_eq, ofDecimal, if_pos hzero, ofSteps] at hreads
  split at hreads
  · simp only [Number.finite.injEq, true_and] at hreads
    exact hsteps ((congrArg Magnitude.steps hreads).symm.trans hnothing)
  · simp at hreads

end Number

namespace Json

open Numeral

/-- A finite number is written as a numeral of that number; zero has no sign there. -/
theorem exists_printNumber (negative : Bool) (magnitude : Magnitude) :
    ∃ shown spelling, printNumber (.finite negative magnitude) =
        signText shown ++ Spelling.text spelling ∧
      spelling.IsFormed ∧ Number.ofDecimal shown spelling.decimal = .finite shown magnitude ∧
      (magnitude.steps ≠ 0 ∨ negative = false → shown = negative) := by
  by_cases hzero : magnitude.steps = 0
  · have hformed : Spelling.IsFormed { whole := [unit '0'] } := {
      whole := isDigits_replicate_zero 1
      whole_ne_nil := by simp
      zero := fun _ => rfl
      fraction := fun u hu => by simp at hu
      exponent := fun negative digits hnone => by simp at hnone }
    have hvalue : Spelling.decimal { whole := [unit '0'] } = ⟨0, 0⟩ := by decide
    refine ⟨false, { whole := [unit '0'] }, ?_, hformed, ?_, fun hsign => ?_⟩
    · rw [printNumber, Number.toText, if_pos hzero]
      rfl
    · rw [hvalue, Number.ofDecimal_zero hzero]
    · exact (hsign.resolve_left (not_not_intro hzero)).symm
  · have hlayout : Number.layout.positionalBelow ≤ 400 := by decide
    have hreads := Number.readsBack_shortest magnitude hzero
    obtain ⟨spelling, htext, hformed, hvalue⟩ := Number.exists_spelling
      (Number.digits_ne_zero_of_readsBack hzero hreads) hlayout
    refine ⟨negative, spelling, ?_, hformed, ?_, fun _ => rfl⟩
    · rw [printNumber, Number.toText, if_neg hzero, htext]
      rfl
    · rw [hvalue, Number.ofDecimal_of_readsBack hreads]

/-- A number that JSON can hold. Zero has no sign there. -/
def IsExactNumber : Number → Prop
  | .finite negative magnitude => magnitude.steps ≠ 0 ∨ negative = false
  | _ => False

/-- **A number is read back from its text.** -/
theorem readNumber?_printNumber {number : Number} (hexact : IsExactNumber number) {rest : Text}
    (hrest : Ends rest) : readNumber? (printNumber number ++ rest) = some (number, rest) := by
  cases number with
  | nan => exact hexact.elim
  | infinite negative => exact hexact.elim
  | finite negative magnitude =>
      obtain ⟨shown, spelling, hprint, hformed, hvalue, hshown⟩ :=
        exists_printNumber negative magnitude
      obtain rfl := hshown hexact
      rw [hprint, List.append_assoc, readNumber?_append hformed shown hrest, hvalue]

end Json

end ResourceWatch
