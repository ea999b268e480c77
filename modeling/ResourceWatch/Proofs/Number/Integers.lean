import ResourceWatch.Proofs.Number.Timers

/-!
# Sums of whole numbers

Whole numbers up to `2 ^ 53` on either side of zero are held exactly, and their sums and differences
are those of the integers, rounded once. So the time that is left up to another one is waited out in
full.
-/

namespace ResourceWatch

namespace Number

theorem ofSteps_one (negative : Bool) {steps : Nat} (hfits : FitsMantissa steps)
    (hbounded : steps < overflow) :
    ofSteps negative steps 1 = .finite negative ⟨steps, hfits, hbounded⟩ := by
  have hnearest : nearest steps 1 = steps := by
    simpa using nearest_mul_self hfits Nat.one_pos
  rw [ofSteps, dif_pos (by rwa [hnearest])]
  congr 1
  simpa using hnearest

theorem ofInt_eq {n : Int} (hn : n.natAbs ≤ 2 ^ 53) :
    ∃ magnitude, ofInt n = .finite (n < 0) magnitude ∧ magnitude.steps = n.natAbs * unity := by
  obtain ⟨magnitude, -, hsteps⟩ := ofNat_eq hn
  have hfits := magnitude.fits
  have hbounded := magnitude.bounded
  rw [hsteps] at hfits hbounded
  exact ⟨⟨_, hfits, hbounded⟩, ofSteps_one _ hfits hbounded, rfl⟩

theorem signed_natAbs (n : Int) : signed (n < 0) (n.natAbs * unity) = n * unity := by
  rw [signed, Int.natCast_mul]
  by_cases hneg : n < 0
  · rw [if_pos (decide_eq_true hneg), Int.ofNat_natAbs_of_nonpos (Int.le_of_lt hneg), Int.neg_mul,
      Int.neg_neg]
  · rw [if_neg (by simpa using hneg), Int.natAbs_of_nonneg (Int.not_lt.mp hneg)]

theorem signed_not (negative : Bool) (steps : Nat) :
    signed (!negative) steps = -signed negative steps := by
  cases negative <;> simp [signed]

/-- A sum of steps that is whole, with the sign that it has unless it is zero. -/
theorem ofSteps_unity {n : Int} {negative : Bool} (hzero : n = 0 → negative = false) :
    ofSteps (if n * unity = 0 then negative else n * unity < 0) (n * unity : Int).natAbs 1 =
      ofInt n := by
  have hpos : (0 : Int) < unity := Int.natCast_pos.mpr unity_pos
  have hsign : (n * unity < 0) ↔ n < 0 := by
    rw [← Int.zero_mul (unity : Int)]
    exact Int.mul_lt_mul_right hpos
  have hnatAbs : (n * unity : Int).natAbs = n.natAbs * unity := by
    rw [Int.natAbs_mul, Int.natAbs_natCast]
  rw [hnatAbs, ofInt]
  by_cases hn : n = 0
  · rw [hzero hn, hn, Int.zero_mul, if_pos rfl]
    rfl
  · rw [if_neg (Int.mul_ne_zero hn (Int.ne_of_gt hpos))]
    simp only [hsign]

theorem of_toInt? {number : Number} {whole : Int} (hwhole : number.toInt? = some whole) :
    ∃ negative magnitude, number = .finite negative magnitude ∧
      signed negative magnitude.steps = whole * unity := by
  cases number with
  | nan => simp [toInt?, signedSteps?] at hwhole
  | infinite negative => simp [toInt?, signedSteps?] at hwhole
  | finite negative magnitude =>
      refine ⟨negative, magnitude, rfl, ?_⟩
      rw [toInt?, signedSteps?] at hwhole
      simp only at hwhole
      split at hwhole
      · rename_i hmod
        rw [Option.some.injEq] at hwhole
        rw [← hwhole, Int.tdiv_mul_cancel (Int.dvd_of_tmod_eq_zero hmod)]
      · simp at hwhole

theorem toInt?_ofNat {n : Nat} (hn : n ≤ 2 ^ 53) : (ofNat n).toInt? = some (n : Int) := by
  obtain ⟨magnitude, hofNat, hsteps⟩ := ofNat_eq hn
  have hpos : (unity : Int) ≠ 0 := Int.natCast_ne_zero.mpr (Nat.ne_of_gt unity_pos)
  rw [hofNat, toInt?, signedSteps?, signed, if_neg Bool.false_ne_true, hsteps, Int.natCast_mul]
  simp only [Int.mul_tmod_left, if_true, Int.mul_tdiv_cancel _ hpos]

theorem add_ofInt {a whole : Int} {number : Number} (ha : a.natAbs ≤ 2 ^ 53)
    (hwhole : number.toInt? = some whole) :
    add (ofInt a) number = ofInt (a + whole) := by
  obtain ⟨first, hfirst, hsteps⟩ := ofInt_eq ha
  obtain ⟨negative, second, rfl, hsecond⟩ := of_toInt? hwhole
  have htotal : signed (a < 0) first.steps + signed negative second.steps =
      (a + whole) * unity := by
    rw [hsteps, hsecond, signed_natAbs, Int.add_mul]
  rw [hfirst, add]
  simp only [htotal]
  refine ofSteps_unity fun hzero => ?_
  rw [Bool.and_eq_false_iff, decide_eq_false_iff_not]
  by_cases hneg : a < 0
  · -- The other number is above zero, and so has no sign.
    have hpos : (0 : Int) < whole * unity :=
      Int.mul_pos (by omega) (Int.natCast_pos.mpr unity_pos)
    cases negative with
    | false => exact .inr rfl
    | true =>
        rw [signed, if_pos rfl] at hsecond
        omega
  · exact .inl hneg

theorem sub_ofInt {a b : Int} (ha : a.natAbs ≤ 2 ^ 53) (hb : b.natAbs ≤ 2 ^ 53) :
    sub (ofInt a) (ofInt b) = ofInt (a - b) := by
  obtain ⟨first, hfirst, hsteps⟩ := ofInt_eq ha
  obtain ⟨second, hsecond, hsteps'⟩ := ofInt_eq hb
  have htotal : signed (a < 0) first.steps + signed (!decide (b < 0)) second.steps =
      (a - b) * unity := by
    rw [signed_not, hsteps, hsteps', signed_natAbs, signed_natAbs, Int.sub_mul, Int.sub_eq_add_neg]
  rw [hfirst, hsecond, sub, neg, add]
  simp only [htotal]
  refine ofSteps_unity fun hzero => ?_
  rw [Bool.and_eq_false_iff, decide_eq_false_iff_not, Bool.not_eq_false', decide_eq_true_iff]
  omega

end Number

namespace Clock

open Number

theorem timer_of_toInt? {delay : Number} {whole : Int} (hwhole : delay.toInt? = some whole)
    (hlow : 1 ≤ whole) (hhigh : whole ≤ 2147483647) : timer delay = whole := by
  obtain ⟨negative, magnitude, rfl, hsteps⟩ := of_toInt? hwhole
  have hpos : (0 : Int) < unity := Int.natCast_pos.mpr unity_pos
  have hplace : (Number.finite negative magnitude).place? = some (whole * unity) := by
    rw [place?, hsteps]
  have hleast : le 1 (.finite negative magnitude) = true := by
    refine (le_ofNat_iff (n := 1) (by decide)).mpr ⟨_, hplace, ?_⟩
    exact Int.mul_le_mul_of_nonneg_right hlow (Int.le_of_lt hpos)
  have hmost : le (.finite negative magnitude) longestTimer = true := by
    refine le_iff.mpr ⟨_, _, hplace, place?_ofNat (n := 2147483647) (by decide), ?_⟩
    exact Int.mul_le_mul_of_nonneg_right hhigh (Int.le_of_lt hpos)
  have htruncate : (Number.finite negative magnitude).truncate? = some whole := by
    rw [truncate?, signedSteps?, hsteps, Option.map_some,
      Int.mul_tdiv_cancel _ (Int.ne_of_gt hpos)]
  rw [timer, hleast, hmost, Bool.and_true, if_pos rfl, htruncate]
  exact Int.toNat_of_nonneg (Int.le_trans (by decide) hlow)

theorem le_timer_of_toInt? {delay : Number} {whole : Int} (hwhole : delay.toInt? = some whole)
    (hhigh : whole ≤ 2147483647) : whole ≤ timer delay := by
  by_cases hlow : 1 ≤ whole
  · exact Int.le_of_eq (timer_of_toInt? hwhole hlow hhigh).symm
  · have hnonneg : (0 : Int) ≤ timer delay := Int.natCast_nonneg _
    omega

/-- The time that is left is waited out. -/
theorem le_add_timer_sub {due now : Int} (hdue : due.natAbs ≤ 2 ^ 53) (hnow : now.natAbs ≤ 2 ^ 53)
    (hle : due ≤ now + 2147483647) : due ≤ now + timer (sub (.ofInt due) (.ofInt now)) := by
  rw [sub_ofInt hdue hnow]
  by_cases hlater : due ≤ now
  · exact Int.le_trans hlater (Int.le_add_of_nonneg_right (Int.natCast_nonneg _))
  · obtain ⟨left, hleft⟩ : ∃ left : Nat, due - now = left := ⟨(due - now).toNat, by omega⟩
    have hwhole : (ofNat left).toInt? = some (left : Int) := toInt?_ofNat (by omega)
    have htimer := le_timer_of_toInt? hwhole (by omega)
    rw [hleft, ofInt_natCast]
    omega

end Clock

end ResourceWatch
