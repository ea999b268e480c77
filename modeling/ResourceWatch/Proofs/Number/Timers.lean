import ResourceWatch.Clock
import ResourceWatch.Proofs.Number.Rounding

/-!
# Whole numbers and timers

Whole numbers up to `2 ^ 53` are held exactly. So a timer that is told whole milliseconds waits as
long as it is told, and no timer of at least one millisecond waits longer than it is told.
-/

namespace ResourceWatch

namespace Number

theorem unity_pos : 0 < unity :=
  Nat.pow_pos (Nat.two_pow_pos 179)

theorem ofNat_eq {n : Nat} (hn : n ≤ 2 ^ 53) :
    ∃ magnitude, ofNat n = .finite false magnitude ∧ magnitude.steps = n * unity := by
  have hfits : FitsMantissa (n * unity) := by
    refine ⟨n, 179 * 6, hn, ?_⟩
    simp only [Nat.pow_eq, unity_eq]
  have hbounded : n * unity < overflow := by
    refine Nat.mul_lt_mul_of_pos_right (Nat.lt_of_le_of_lt hn ?_) unity_pos
    calc
      2 ^ 53 < 2 ^ (128 * 8) := Nat.pow_lt_pow_right (by decide) (by decide)
      _ = Nat.pow (Nat.pow 2 128) 8 := Nat.pow_mul 2 128 8
  refine ⟨⟨n * unity, hfits, hbounded⟩, ?_, rfl⟩
  have hself := ofSteps_mul_self ⟨n * unity, hfits, hbounded⟩ Nat.one_pos
  rwa [Nat.mul_one] at hself

theorem ofInt_natCast (n : Nat) : ofInt n = ofNat n := by
  have hneg : decide ((n : Int) < 0) = false := by simp
  rw [ofInt, ofNat, hneg, Int.natAbs_natCast]

theorem place?_ofNat {n : Nat} (hn : n ≤ 2 ^ 53) :
    (ofNat n).place? = some (n * unity : Int) := by
  obtain ⟨magnitude, hofNat, hsteps⟩ := ofNat_eq hn
  rw [hofNat, place?, signed, if_neg Bool.false_ne_true, hsteps, Int.natCast_mul]

theorem truncate?_ofNat {n : Nat} (hn : n ≤ 2 ^ 53) : (ofNat n).truncate? = some (n : Int) := by
  obtain ⟨magnitude, hofNat, hsteps⟩ := ofNat_eq hn
  have hpos : (unity : Int) ≠ 0 := Int.natCast_ne_zero.mpr (Nat.ne_of_gt unity_pos)
  rw [hofNat, truncate?, signedSteps?, signed, if_neg Bool.false_ne_true, hsteps, Int.natCast_mul,
    Option.map_some, Int.mul_tdiv_cancel _ hpos]

/-- What is left of a number in the order without its fraction, if the number is finite. -/
theorem truncate?_eq {number : Number} {place : Int} (hplace : number.place? = some place) :
    number.truncate? = none ∨ number.truncate? = some (place.tdiv unity) := by
  cases number with
  | nan => exact Or.inl rfl
  | infinite negative => exact Or.inl rfl
  | finite negative magnitude =>
      rw [place?, Option.some.injEq] at hplace
      rw [truncate?, signedSteps?, hplace]
      exact Or.inr rfl

theorem le_iff {first second : Number} :
    le first second = true ↔ ∃ place place', first.place? = some place ∧
      second.place? = some place' ∧ place ≤ place' := by
  rw [le, Bool.or_eq_true, lt, same]
  cases first.place? <;> cases second.place? <;> simp
  omega

theorem le_ofNat_iff {n : Nat} (hn : n ≤ 2 ^ 53) {number : Number} :
    le (ofNat n) number = true ↔ ∃ place, number.place? = some place ∧ n * unity ≤ place := by
  rw [le_iff, place?_ofNat hn]
  constructor
  · rintro ⟨_, place, hsame, hplace, hle⟩
    exact ⟨place, hplace, Option.some.inj hsame ▸ hle⟩
  · rintro ⟨place, hplace, hle⟩
    exact ⟨_, place, rfl, hplace, hle⟩

theorem ofNat_le_iff {n m : Nat} (hn : n ≤ 2 ^ 53) (hm : m ≤ 2 ^ 53) :
    le (ofNat n) (ofNat m) = true ↔ n ≤ m := by
  have hpos : (0 : Int) < unity := Int.natCast_pos.mpr unity_pos
  rw [le_ofNat_iff hn, place?_ofNat hm]
  constructor
  · rintro ⟨place, hplace, hle⟩
    rw [← Option.some.inj hplace] at hle
    exact Int.ofNat_le.mp (Int.le_of_mul_le_mul_right hle hpos)
  · intro hle
    exact ⟨_, rfl, Int.mul_le_mul_of_nonneg_right (Int.ofNat_le.mpr hle) (Int.le_of_lt hpos)⟩

end Number

namespace Clock

open Number

theorem timer_ofNat {n : Nat} (hpos : 1 ≤ n) (hle : n ≤ 2147483647) : timer (.ofNat n) = n := by
  have hn : n ≤ 2 ^ 53 := Nat.le_trans hle (by decide)
  have hlow : le 1 (.ofNat n) = true := (ofNat_le_iff (n := 1) (by decide) hn).mpr hpos
  have hlongest : longestTimer = .ofNat 2147483647 := rfl
  have hhigh : le (.ofNat n) longestTimer = true := by
    rw [hlongest, ofNat_le_iff hn (by decide)]
    exact hle
  rw [timer, hlow, hhigh, Bool.and_true, if_pos rfl, truncate?_ofNat hn]
  exact Int.toNat_natCast n

theorem timer_le_longest (delay : Number) : timer delay ≤ 2147483647 := by
  unfold timer
  split
  · rename_i hrange
    rw [Bool.and_eq_true] at hrange
    obtain ⟨place, hplace, hlow⟩ := (le_ofNat_iff (n := 1) (by decide)).mp hrange.1
    obtain ⟨place', limit, hplace', hlimit, hhigh⟩ := le_iff.mp hrange.2
    have hlongest : longestTimer = .ofNat 2147483647 := rfl
    rw [hlongest, place?_ofNat (by decide), Option.some.injEq] at hlimit
    rw [hplace, Option.some.injEq] at hplace'
    subst hplace' hlimit
    rcases truncate?_eq hplace with htruncate | htruncate
    · rw [htruncate]
      decide
    · have hpos : (0 : Int) < unity := Int.natCast_pos.mpr unity_pos
      have hnonneg : 0 ≤ place :=
        Int.le_trans (Int.mul_nonneg (Int.natCast_nonneg 1) (Int.le_of_lt hpos)) hlow
      rw [htruncate]
      simp only
      rw [Int.toNat_le, Int.tdiv_eq_ediv_of_nonneg hnonneg]
      exact Int.ediv_le_of_le_mul hpos hhigh
  · decide

/-- No timer is over at once. -/
theorem timer_pos (delay : Number) : 0 < timer delay := by
  unfold timer
  split
  · rename_i hrange
    rw [Bool.and_eq_true] at hrange
    obtain ⟨place, hplace, hlow⟩ := (le_ofNat_iff (n := 1) (by decide)).mp hrange.1
    rw [Int.natCast_one, Int.one_mul] at hlow
    rcases truncate?_eq hplace with htruncate | htruncate
    · rw [htruncate]
      decide
    · have hpos : (0 : Int) < unity := Int.natCast_pos.mpr unity_pos
      have hnonneg : 0 ≤ place := Int.le_trans (Int.le_of_lt hpos) hlow
      rw [htruncate]
      simp only
      rw [Int.lt_toNat, Int.tdiv_eq_ediv_of_nonneg hnonneg]
      have hone : (1 : Int) ≤ place / unity :=
        (Int.le_ediv_iff_mul_le hpos).mpr (by rwa [Int.one_mul])
      exact Int.lt_of_lt_of_le Int.zero_lt_one hone
  · decide

/-- What a timer waits is at most what it is told. -/
theorem timer_mul_unity_le {delay : Number} {place : Int} (hplace : delay.place? = some place)
    (hle : unity ≤ place) : timer delay * unity ≤ place := by
  have hone : ((1 : Nat) : Int) * unity ≤ place := by rwa [Int.natCast_one, Int.one_mul]
  unfold timer
  split
  · rcases truncate?_eq hplace with htruncate | htruncate
    · rwa [htruncate]
    · have hnonneg : 0 ≤ place := Int.le_trans (Int.natCast_nonneg unity) hle
      rw [htruncate]
      simp only
      rw [Int.toNat_of_nonneg (Int.tdiv_nonneg hnonneg (Int.natCast_nonneg unity)),
        Int.tdiv_eq_ediv_of_nonneg hnonneg]
      exact Int.ediv_mul_le place (Int.natCast_ne_zero.mpr (Nat.ne_of_gt unity_pos))
  · exact hone

/-- A timer of at least one millisecond is over when its delay is. -/
theorem le_of_le_timer {delay : Number} (hdelay : le 1 delay = true) {n : Nat}
    (hn : n ≤ timer delay) : le (.ofNat n) delay = true := by
  obtain ⟨place, hplace, hle⟩ := (le_ofNat_iff (n := 1) (by decide)).mp hdelay
  rw [Int.natCast_one, Int.one_mul] at hle
  rw [le_ofNat_iff (Nat.le_trans hn (Nat.le_trans (timer_le_longest delay) (by decide)))]
  refine ⟨place, hplace, Int.le_trans ?_ (timer_mul_unity_le hplace hle)⟩
  exact Int.mul_le_mul_of_nonneg_right (Int.ofNat_le.mpr hn) (Int.natCast_nonneg unity)

end Clock

end ResourceWatch
