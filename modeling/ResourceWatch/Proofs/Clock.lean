import ResourceWatch.Clock

/-!
# Times that have come, and the first of two things
-/

namespace ResourceWatch.Clock

variable {α : Type}

theorem reached_of_le {time : Option Time} {now later : Time} (hle : now ≤ later)
    (hreached : reached time now = true) : reached time later = true := by
  cases time with
  | none => simp [reached] at hreached
  | some time =>
      simp only [reached, decide_eq_true_eq] at hreached ⊢
      exact Int.le_trans hreached hle

theorem reached_earlier (time : Option Time) (now : Time) :
    reached (earlier time (some now)) now = true := by
  cases time with
  | none => simp [earlier, reached]
  | some time =>
      rw [earlier, reached, decide_eq_true_eq]
      exact Int.min_le_right time now

/-- Of two things the first one comes, or whatever comes of the second. -/
theorem sooner_eq (first second : Option (Time × α)) :
    (∃ found, first = some found ∧ sooner first second = some found) ∨
      sooner first second = second := by
  cases first with
  | none => simp [sooner]
  | some found =>
      cases second with
      | none => simp [sooner]
      | some other =>
          simp only [sooner]
          split <;> simp

/-- The first thing comes if the second is not earlier, and the second if it is. -/
theorem sooner_cases {first second : Option (Time × α)} {found : Time × α}
    (hfound : sooner first second = some found) :
    (first = some found ∧ ∀ other ∈ second, found.1 ≤ other.1) ∨
      (second = some found ∧ ∀ other ∈ first, found.1 < other.1) := by
  cases first with
  | none => exact .inr ⟨hfound, by simp⟩
  | some one =>
      cases second with
      | none => exact .inl ⟨hfound, by simp⟩
      | some other =>
          simp only [sooner] at hfound
          split at hfound
          · rename_i hlt
            obtain rfl := Option.some.inj hfound
            exact .inr ⟨rfl, by simpa using hlt⟩
          · rename_i hle
            obtain rfl := Option.some.inj hfound
            exact .inl ⟨rfl, by simpa using hle⟩

theorem lt_of_lt_max {now time bound : Int} (hnow : now ≤ time) (hlt : time < max now bound) :
    time < bound := by
  omega

theorem sooner_of_le {found : Time × α} {second : Option (Time × α)}
    (hle : ∀ other ∈ second, found.1 ≤ other.1) : sooner (some found) second = some found := by
  cases second with
  | none => rfl
  | some other => exact if_neg (Int.not_lt.mpr (hle other rfl))

theorem sooner_of_lt {first : Option (Time × α)} {found : Time × α}
    (hlt : ∀ other ∈ first, found.1 < other.1) : sooner first (some found) = some found := by
  cases first with
  | none => rfl
  | some other => exact if_pos (hlt other rfl)

theorem le_of_sooner {first second : Option (Time × α)} {found : Time × α}
    (hfound : sooner first second = some found) :
    (∀ other ∈ first, found.1 ≤ other.1) ∧ ∀ other ∈ second, found.1 ≤ other.1 := by
  rcases sooner_cases hfound with ⟨rfl, hle⟩ | ⟨rfl, hlt⟩
  · exact ⟨by simp, hle⟩
  · exact ⟨fun other hother => Int.le_of_lt (hlt other hother), by simp⟩

@[simp]
theorem sooner_none (first : Option (Time × α)) : sooner first none = first := by
  cases first <;> rfl

theorem sooner_assoc (first second third : Option (Time × α)) :
    sooner (sooner first second) third = sooner first (sooner second third) := by
  rcases first with _ | first
  · rfl
  rcases second with _ | second
  · rfl
  rcases third with _ | third
  · simp
  simp only [sooner]
  by_cases hsecond : second.1 < first.1 <;> by_cases hthird : third.1 < second.1 <;>
    simp only [hsecond, hthird, if_true, if_false]
  · rw [if_pos (Int.lt_trans hthird hsecond)]
  · rw [if_neg]
    exact fun hlt => hsecond (Int.lt_of_le_of_lt (Int.not_lt.mp hthird) hlt)

theorem sooner_eq_none_iff {first second : Option (Time × α)} :
    sooner first second = none ↔ first = none ∧ second = none := by
  cases first with
  | none => simp [sooner]
  | some found =>
      cases second with
      | none => simp [sooner]
      | some other =>
          simp only [sooner]
          split <;> simp

end ResourceWatch.Clock
