import ResourceWatch.Proofs.Number.Integers

/-!
# Delays that a timer keeps

A timer waits for whole milliseconds, and for a single one if its delay is out of range. So it keeps
a delay in its range that is whole or shorter than a millisecond, and is over too early for any
other one: it cuts off a fraction behind the first millisecond, and it does not take the longest
delays at all.
-/

namespace ResourceWatch

namespace Number

theorem lt_ofNat_iff {n : Nat} (hn : n ≤ 2 ^ 53) {number : Number} :
    lt number (ofNat n) = true ↔ ∃ place, number.place? = some place ∧ place < n * unity := by
  rw [lt, place?_ofNat hn]
  cases number.place? <;> simp

theorem le_ofNat_right_iff {n : Nat} (hn : n ≤ 2 ^ 53) {number : Number} :
    le number (ofNat n) = true ↔ ∃ place, number.place? = some place ∧ place ≤ n * unity := by
  rw [le_iff, place?_ofNat hn]
  cases number.place? <;> simp

/-- No number lies beyond all finite ones but within a number that is held exactly. -/
theorem not_le_ofNat_infinite {n : Nat} (hn : n ≤ 2 ^ 53) :
    ¬le (.infinite false) (ofNat n) = true := by
  obtain ⟨magnitude, -, hsteps⟩ := ofNat_eq hn
  intro hle
  obtain ⟨place, hplace, hbelow⟩ := (le_ofNat_right_iff hn).mp hle
  obtain rfl : (overflow : Int) = place := Option.some.inj hplace
  have hbounded := magnitude.bounded
  rw [hsteps] at hbounded
  exact absurd (Int.ofNat_le.mp (by rwa [Int.natCast_mul])) (Nat.not_le.mpr hbounded)

theorem overflow_pos : 0 < overflow :=
  Nat.mul_pos (Nat.pow_pos (Nat.two_pow_pos 128)) unity_pos

theorem isWhole_finite (negative : Bool) (magnitude : Magnitude) :
    (Number.finite negative magnitude).isWhole = true ↔
      (signed negative magnitude.steps).tmod unity = 0 := by
  rw [isWhole, toInt?, signedSteps?]
  simp only
  split <;> simp_all

end Number

namespace Clock

open Number

variable {delay : Number} {elapsed : Int}

/-- So many milliseconds are at least as long as a delay. -/
def Spans (elapsed : Int) (delay : Number) : Prop :=
  ∃ steps, delay.signedSteps? = some steps ∧ steps ≤ elapsed * unity

instance : Decidable (Spans elapsed delay) :=
  inferInstanceAs (Decidable (∃ steps, steps ∈ delay.signedSteps? ∧ steps ≤ elapsed * unity))

/-- A delay that a timer keeps: in its range, and whole or shorter than a millisecond. -/
def IsKept (delay : Number) : Prop :=
  le delay longestTimer = true ∧ (delay.isWhole = true ∨ lt delay 1 = true)

theorem Spans.mono {more : Int} (hspans : Spans elapsed delay) (hle : elapsed ≤ more) :
    Spans more delay := by
  obtain ⟨steps, hsteps, hbelow⟩ := hspans
  refine ⟨steps, hsteps, Int.le_trans hbelow ?_⟩
  exact Int.mul_le_mul_of_nonneg_right hle (Int.natCast_nonneg unity)

section Finite

variable {negative : Bool} {magnitude : Magnitude} {place : Int}
  (hplace : (Number.finite negative magnitude).place? = some place)

include hplace

theorem spans_finite_iff :
    Spans elapsed (.finite negative magnitude) ↔ place ≤ elapsed * unity := by
  rw [← Option.some.inj hplace]
  exact ⟨fun ⟨_, hsteps, hle⟩ => Option.some.inj hsteps ▸ hle, fun hle => ⟨_, rfl, hle⟩⟩

theorem isInRange_iff :
    le 1 (.finite negative magnitude) = true ∧ le (.finite negative magnitude) longestTimer = true ↔
      unity ≤ place ∧ place ≤ 2147483647 * unity := by
  have hlongest : longestTimer = .ofNat 2147483647 := rfl
  have hlow : le 1 (.finite negative magnitude) = true ↔ unity ≤ place := by
    refine (le_ofNat_iff (n := 1) (by decide)).trans ?_
    rw [hplace]
    simp
  rw [hlow, hlongest, le_ofNat_right_iff (by decide), hplace]
  simp

theorem timer_of_lt (hlt : place < unity ∨ 2147483647 * unity < place) :
    timer (.finite negative magnitude) = 1 := by
  have hout := isInRange_iff hplace
  rw [timer, if_neg]
  rw [Bool.and_eq_true, hout]
  omega

theorem timer_of_le (hlow : unity ≤ place) (hhigh : place ≤ 2147483647 * unity) :
    (timer (.finite negative magnitude) : Int) = place / unity := by
  have hnonneg : 0 ≤ place := Int.le_trans (Int.natCast_nonneg unity) hlow
  obtain ⟨hleast, hmost⟩ := (isInRange_iff hplace).mpr ⟨hlow, hhigh⟩
  rw [timer, hleast, hmost, Bool.and_true, if_pos rfl, truncate?, signedSteps?,
    Option.some.inj hplace, Option.map_some]
  simp only
  rw [Int.tdiv_eq_ediv_of_nonneg hnonneg]
  exact Int.toNat_of_nonneg (Int.ediv_nonneg hnonneg (Int.natCast_nonneg unity))

theorem spans_timer_finite_iff (hnonneg : 0 ≤ place) :
    Spans (timer (.finite negative magnitude)) (.finite negative magnitude) ↔
      place ≤ 2147483647 * unity ∧ (place.tmod unity = 0 ∨ place < unity) := by
  have hpos : (0 : Int) < unity := Int.natCast_pos.mpr unity_pos
  rw [spans_finite_iff hplace]
  by_cases hrange : unity ≤ place ∧ place ≤ 2147483647 * unity
  · -- The timer takes the whole milliseconds, which are all only if nothing is left over.
    have hfloor := Int.ediv_mul_le place (Int.ne_of_gt hpos)
    have hrest := Int.emod_nonneg place (Int.ne_of_gt hpos)
    have hcomm := Int.mul_comm (unity : Int) (place / unity)
    rw [Int.emod_def] at hrest
    rw [timer_of_le hplace hrange.1 hrange.2, Int.tmod_eq_emod_of_nonneg hnonneg, Int.emod_def]
    omega
  · -- A single millisecond is as long as what is shorter than one, and no longer delay.
    rw [timer_of_lt hplace (by omega), Int.natCast_one, Int.one_mul]
    omega

end Finite

/-- An infinite delay is not over in any number of milliseconds, and it is out of range. -/
theorem not_le_longestTimer (hdelay : le 0 delay = true) (hsteps : delay.signedSteps? = none) :
    ¬le delay longestTimer = true := by
  have hlongest : longestTimer = .ofNat 2147483647 := rfl
  obtain ⟨place, hplace, hnonneg⟩ := (le_ofNat_iff (n := 0) (by decide)).mp hdelay
  rw [Int.natCast_zero, Int.zero_mul] at hnonneg
  rw [hlongest]
  cases delay with
  | nan => cases hplace
  | finite negative magnitude => cases hsteps
  | infinite negative =>
      cases negative with
      | false => exact not_le_ofNat_infinite (by decide)
      | true =>
          rw [place?, signed, if_pos rfl, Option.some.injEq] at hplace
          have hoverflow := overflow_pos
          omega

/-- **Which delays a timer keeps.** -/
theorem spans_timer_iff (hdelay : le 0 delay = true) :
    Spans (timer delay) delay ↔ IsKept delay := by
  have hlongest : longestTimer = .ofNat 2147483647 := rfl
  cases hsteps : delay.signedSteps? with
  | none =>
      have hout := not_le_longestTimer hdelay hsteps
      constructor
      · rintro ⟨steps, hfound, -⟩
        simp [hsteps] at hfound
      · exact fun hrange => absurd hrange.1 hout
  | some steps =>
      obtain ⟨place, hplace, hnonneg⟩ := (le_ofNat_iff (n := 0) (by decide)).mp hdelay
      rw [Int.natCast_zero, Int.zero_mul] at hnonneg
      have hlt : lt delay 1 = true ↔ place < unity := by
        refine (lt_ofNat_iff (n := 1) (by decide)).trans ?_
        rw [hplace]
        simp
      have hle : le delay longestTimer = true ↔ place ≤ 2147483647 * unity := by
        rw [hlongest, le_ofNat_right_iff (by decide), hplace]
        simp
      cases delay with
      | nan => cases hsteps
      | infinite negative => cases hsteps
      | finite negative magnitude =>
          have hwhole := isWhole_finite negative magnitude
          rw [Option.some.inj hplace] at hwhole
          rw [spans_timer_finite_iff hplace hnonneg, IsKept, hle, hlt, hwhole]

theorem isKept_iff_of_isWhole (hwhole : delay.isWhole = true) :
    IsKept delay ↔ le delay longestTimer = true := by
  rw [IsKept, hwhole]
  simp

theorem timer_of_not_le (hdelay : ¬le delay longestTimer = true) : timer delay = 1 := by
  rw [timer, if_neg (by simp [hdelay])]

theorem exists_toInt?_of_isKept (hdelay : le 0 delay = true) (hwhole : delay.isWhole = true)
    (hle : le delay longestTimer = true) :
    ∃ whole, delay.toInt? = some whole ∧ 0 ≤ whole ∧ whole ≤ 2147483647 := by
  have hpos : (0 : Int) < unity := Int.natCast_pos.mpr unity_pos
  have hlongest : longestTimer = .ofNat 2147483647 := rfl
  obtain ⟨whole, htoInt⟩ := Option.isSome_iff_exists.mp hwhole
  obtain ⟨negative, magnitude, rfl, hsteps⟩ := of_toInt? htoInt
  have hplace : (Number.finite negative magnitude).place? = some (whole * unity) := by
    rw [place?, hsteps]
  obtain ⟨place, hfound, hlow⟩ := (le_ofNat_iff (n := 0) (by decide)).mp hdelay
  rw [hlongest, le_ofNat_right_iff (by decide)] at hle
  obtain ⟨place', hfound', hhigh⟩ := hle
  obtain rfl := Option.some.inj (hplace.symm.trans hfound)
  obtain rfl := Option.some.inj (hplace.symm.trans hfound')
  exact ⟨whole, htoInt, Int.le_of_mul_le_mul_right hlow hpos,
    Int.le_of_mul_le_mul_right hhigh hpos⟩

end Clock

end ResourceWatch
