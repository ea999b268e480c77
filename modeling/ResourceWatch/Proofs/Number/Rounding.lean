import Mathlib.Algebra.Group.Nat.Defs
import ResourceWatch.Number.Shortest

/-!
# Decimals that are read back

The decimal that is chosen for a number is read back as that number: either that was tried, or the
decimal has every digit of the number and no rounding is needed.
-/

namespace ResourceWatch

variable {steps : Nat}

/-- A count that fits a mantissa has nothing in the bits that are rounded off. -/
theorem FitsMantissa.pow_dvd (hfits : FitsMantissa steps) : 2 ^ excessBits steps ∣ steps := by
  obtain ⟨mantissa, scale, hmantissa, rfl⟩ := hfits
  simp only [Nat.pow_eq] at hmantissa ⊢
  rcases Nat.eq_zero_or_pos mantissa with rfl | hpos
  · simp
  have hne : mantissa * 2 ^ scale ≠ 0 := by
    have := Nat.mul_pos hpos (Nat.two_pow_pos scale)
    omega
  rcases Nat.lt_or_eq_of_le hmantissa with hlt | rfl
  · have hlog : (mantissa * 2 ^ scale).log2 < 53 + scale := by
      rw [Nat.log2_lt hne, Nat.pow_add]
      exact Nat.mul_lt_mul_of_pos_right hlt (Nat.two_pow_pos scale)
    refine Nat.dvd_trans (Nat.pow_dvd_pow 2 ?_) (Nat.dvd_mul_left _ _)
    unfold excessBits
    omega
  · -- A mantissa of all ones has been rounded up: there is one bit more, and it is zero.
    have hlog : (2 ^ 53 * 2 ^ scale).log2 < 54 + scale := by
      rw [Nat.log2_lt hne, ← Nat.pow_add]
      exact Nat.pow_lt_pow_right (by decide) (by omega)
    rw [← Nat.pow_add] at hlog ⊢
    apply Nat.pow_dvd_pow
    unfold excessBits
    omega

/-- A quotient that fits a mantissa is its own nearest number. -/
theorem nearest_mul_self (hfits : FitsMantissa steps) {bottom : Nat} (hbottom : 0 < bottom) :
    nearest (steps * bottom) bottom = steps := by
  have hwhole : steps * bottom / bottom = steps := Nat.mul_div_cancel steps hbottom
  obtain ⟨count, hcount⟩ := hfits.pow_dvd
  rw [nearest, hwhole]
  simp only [Nat.pow_eq]
  have hunit : 0 < 2 ^ excessBits steps := Nat.two_pow_pos _
  generalize 2 ^ excessBits steps = unit at hcount hunit ⊢
  have hpos : 0 < bottom * unit := Nat.mul_pos hbottom hunit
  have htop : steps * bottom = count * (bottom * unit) := by
    rw [hcount, Nat.mul_comm unit, Nat.mul_assoc, Nat.mul_comm unit]
  have hround : roundQuotient (steps * bottom) (bottom * unit) = count := by
    rw [roundQuotient, htop, Nat.mul_mod_left, Nat.mul_div_cancel count hpos, if_neg]
    omega
  rw [hround, hcount, Nat.mul_comm]

namespace Number

variable {magnitude : Magnitude} {decimal : Decimal}

theorem ofSteps_mul_self (magnitude : Magnitude) {bottom : Nat} (hbottom : 0 < bottom) :
    ofSteps false (magnitude.steps * bottom) bottom = .finite false magnitude := by
  have hnearest := nearest_mul_self magnitude.fits hbottom
  have hbounded : nearest (magnitude.steps * bottom) bottom < overflow := by
    rw [hnearest]
    exact magnitude.bounded
  rw [ofSteps, dif_pos hbounded]
  congr 1
  cases magnitude
  simpa using hnearest

theorem unity_eq : unity = 2 ^ (179 * 6) := (Nat.pow_mul 2 179 6).symm

theorem le_log2_mul_pow_five (hsteps : steps ≠ 0) (exponent : Nat) :
    exponent ≤ (steps * 5 ^ exponent).log2 := by
  have hfive : 0 < 5 ^ exponent := Nat.pow_pos (by decide)
  have hne : steps * 5 ^ exponent ≠ 0 := Nat.mul_ne_zero hsteps (Nat.ne_of_gt hfive)
  rw [Nat.le_log2 hne]
  calc
    2 ^ exponent ≤ 5 ^ exponent := Nat.pow_le_pow_left (by decide) exponent
    _ ≤ steps * 5 ^ exponent := Nat.le_mul_of_pos_left _ (Nat.pos_of_ne_zero hsteps)

/-- Decimal places that do not make the value vanish. -/
theorem ofDecimal_of_places (negative : Bool) {digits places : Nat} (hplaces : 0 < places)
    (hdigits : digits ≠ 0) (hlog : places ≤ digits.log2) :
    ofDecimal negative ⟨digits, -(places : Int)⟩ =
      ofSteps negative (digits * unity) (10 ^ places) := by
  have hexponent : (-(-(places : Int))).toNat = places := by omega
  simp only [ofDecimal, if_neg hdigits, hexponent, Nat.pow_eq]
  rw [if_neg (by omega), if_neg (by omega), if_neg (by omega)]

/-- The decimal that has every digit of a number needs no rounding. -/
theorem readsBack_exactDecimal (magnitude : Magnitude) (hsteps : magnitude.steps ≠ 0) :
    readsBack magnitude (exactDecimal magnitude) = true := by
  have htop (places : Nat) :
      magnitude.steps * 5 ^ places * 2 ^ places = magnitude.steps * 10 ^ places := by
    rw [Nat.mul_assoc, ← Nat.mul_pow]
  have hne (places : Nat) : magnitude.steps * 5 ^ places ≠ 0 :=
    Nat.mul_ne_zero hsteps (Nat.ne_of_gt (Nat.pow_pos (by decide)))
  have hexact : exactDecimal magnitude =
      ⟨magnitude.steps * Nat.pow 5 (179 * 6), -((179 * 6 : Nat) : Int)⟩ := rfl
  rw [readsBack, hexact, Nat.pow_eq, ofDecimal_of_places false (by decide) (hne _)
    (le_log2_mul_pow_five hsteps _), unity_eq, htop]
  exact decide_eq_true (ofSteps_mul_self magnitude (Nat.pow_pos (by decide)))

/-- The definition as an equation of functions: at an argument its search would be evaluated. -/
theorem shortest_def : shortest = fun magnitude =>
    match (List.range' 1 17).findSome? fun count =>
        (candidates magnitude (decimalPoint magnitude) count).find? (readsBack magnitude) with
    | some decimal => decimal
    | none => exactDecimal magnitude := rfl

theorem shortest_cases (magnitude : Magnitude) :
    (∃ count, (candidates magnitude (decimalPoint magnitude) count).find? (readsBack magnitude) =
      some (shortest magnitude)) ∨ shortest magnitude = exactDecimal magnitude := by
  obtain ⟨found, hfound, hshortest⟩ : ∃ found, found = (List.range' 1 17).findSome? (fun count =>
        (candidates magnitude (decimalPoint magnitude) count).find? (readsBack magnitude)) ∧
      shortest magnitude =
        match found with
        | some decimal => decimal
        | none => exactDecimal magnitude := ⟨_, rfl, congrFun shortest_def magnitude⟩
  rw [hshortest]
  cases found with
  | none => exact Or.inr rfl
  | some decimal =>
      obtain ⟨count, -, hcount⟩ := List.exists_of_findSome?_eq_some hfound.symm
      exact Or.inl ⟨count, hcount⟩

/-- **The shortest decimal is read back as the number.** -/
theorem readsBack_shortest (magnitude : Magnitude) (hsteps : magnitude.steps ≠ 0) :
    readsBack magnitude (shortest magnitude) = true := by
  rcases shortest_cases magnitude with ⟨count, hcount⟩ | hexact
  · exact List.find?_some hcount
  · rw [hexact]
    exact readsBack_exactDecimal magnitude hsteps

end Number

end ResourceWatch
