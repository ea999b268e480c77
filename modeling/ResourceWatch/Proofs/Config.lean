import ResourceWatch.Config
import ResourceWatch.Proofs.Status

/-!
# Durations that are accepted

The time limit of a client is a whole number above zero, and the delays of a reactor are at least
one, none of which is negative. There is no upper bound on either of them.
-/

namespace ResourceWatch

namespace Schema

open Checked

variable {α β : Type} {value : Option Json} {number : Number}

theorem Checked.bind_eq_ok {found : Checked α} {next : α → Checked β} {result : β}
    (hbind : (found >>= next) = .ok result) : ∃ first, found = .ok first ∧ next first = .ok result := by
  cases found with
  | error issues => cases hbind
  | ok first => exact ⟨first, rfl, hbind⟩

theorem Checked.eq_ok {found : Checked α} {result : α} (hfound : found.toOption = some result) :
    found = .ok result := by
  cases found with
  | error issues => cases hfound
  | ok first => exact congrArg Except.ok (Option.some.inj hfound)

theorem Checked.require_eq_ok {condition : Bool} {fault : Fault} {done : Unit}
    (hrequire : require condition fault = .ok done) : condition = true := by
  rw [require] at hrequire
  split at hrequire
  · assumption
  · cases hrequire

theorem positiveWhole_eq_ok (hcheck : positiveWhole value = .ok number) :
    number.isWhole = true ∧ Number.lt 0 number = true := by
  obtain ⟨found, -, hrest⟩ := bind_eq_ok hcheck
  obtain ⟨faults, hboth, hfound⟩ := bind_eq_ok hrest
  obtain ⟨hwhole, hpositive⟩ := both_eq_ok hboth
  obtain rfl := Except.ok.inj hfound
  exact ⟨require_eq_ok hwhole, require_eq_ok hpositive⟩

theorem nonnegative_eq_ok (hcheck : nonnegative value = .ok number) : Number.le 0 number = true := by
  obtain ⟨found, -, hrest⟩ := bind_eq_ok hcheck
  obtain ⟨_, hrequire, hfound⟩ := bind_eq_ok hrest
  obtain rfl := Except.ok.inj hfound
  exact require_eq_ok hrequire

theorem optional_eq_ok {check : Check α} {found : α}
    (hcheck : Schema.optional check value = .ok (some found)) :
    ∃ given, value = some given ∧ check (some given) = .ok found := by
  cases value with
  | none => cases hcheck
  | some given =>
      obtain ⟨first, hfirst, hsome⟩ := map_eq_ok hcheck
      exact ⟨given, rfl, Option.some.inj hsome ▸ hfirst⟩

theorem withDefault_eq_ok {check : Check α} {replacement found : α}
    (hcheck : withDefault replacement check value = .ok found) :
    found = replacement ∨ ∃ given, check (some given) = .ok found := by
  cases value with
  | none => exact .inl (Except.ok.inj hcheck).symm
  | some given => exact .inr ⟨given, hcheck⟩

theorem items_eq_ok {check : Check α} {index : Nat} {values : List Json} {found : List α}
    (hitems : items check index values = .ok found) :
    found.length = values.length ∧
      ∀ item ∈ found, ∃ given ∈ values, check (some given) = .ok item := by
  induction values generalizing index found with
  | nil =>
      obtain rfl := Except.ok.inj hitems
      simp
  | cons given rest ih =>
      obtain ⟨⟨first, others⟩, hboth, rfl⟩ := map_eq_ok hitems
      obtain ⟨hfirst, hothers⟩ := both_eq_ok hboth
      obtain ⟨hlength, hchecked⟩ := ih hothers
      have hgiven : check (some given) = .ok first := by
        cases hcheck : check (some given) <;> simp_all [below]
      refine ⟨congrArg (· + 1) hlength, fun item hitem => ?_⟩
      rcases List.mem_cons.mp hitem with rfl | hitem
      · exact ⟨given, List.mem_cons_self, hgiven⟩
      · obtain ⟨other, hother, hitem⟩ := hchecked item hitem
        exact ⟨other, List.mem_cons_of_mem _ hother, hitem⟩

end Schema

open Schema Checked

variable {value : Option Json}

theorem ClientConfig.of_check {config : ClientConfig} (hcheck : check value = .ok config)
    {limit : Number} (hlimit : config.requestTimeoutMs = some limit) :
    limit.isWhole = true ∧ Number.lt 0 limit = true := by
  obtain ⟨members, -, hrest⟩ := bind_eq_ok hcheck
  obtain ⟨parts, hparts, hconfig⟩ := bind_eq_ok hrest
  obtain rfl := Except.ok.inj hconfig
  obtain ⟨-, hparts⟩ := both_eq_ok hparts
  have htimeout := field_eq_ok (both_eq_ok hparts).1
  rw [show parts.2.1 = some limit from hlimit] at htimeout
  obtain ⟨given, -, hgiven⟩ := optional_eq_ok htimeout
  exact positiveWhole_eq_ok hgiven

namespace ReactorConfig

theorem le_of_mem_default : ∀ delay ∈ defaultErrorDelays, Number.le 0 delay = true := by
  decide +kernel

theorem of_delays {found : List Number} (hcheck : delays value = .ok found) :
    found ≠ [] ∧ ∀ delay ∈ found, Number.le 0 delay = true := by
  obtain ⟨given, -, hrest⟩ := bind_eq_ok hcheck
  obtain ⟨_, hrequire, hitems⟩ := bind_eq_ok hrest
  obtain ⟨hlength, hchecked⟩ := items_eq_ok hitems
  have hgiven := require_eq_ok hrequire
  refine ⟨?_, fun delay hdelay => ?_⟩
  · rintro rfl
    obtain rfl := List.eq_nil_of_length_eq_zero hlength.symm
    cases hgiven
  · obtain ⟨other, -, hother⟩ := hchecked delay hdelay
    exact nonnegative_eq_ok hother

theorem of_check {config : ReactorConfig} (hcheck : check value = .ok config) :
    config.errorDelaysMs ≠ [] ∧ ∀ delay ∈ config.errorDelaysMs, Number.le 0 delay = true := by
  obtain ⟨members, -, hrest⟩ := bind_eq_ok hcheck
  obtain ⟨found, hfound, hconfig⟩ := bind_eq_ok hrest
  obtain rfl := Except.ok.inj hconfig
  rcases withDefault_eq_ok (field_eq_ok hfound) with hdefault | ⟨given, hgiven⟩
  · rw [hdefault]
    exact ⟨List.cons_ne_nil _ _, le_of_mem_default⟩
  · exact of_delays hgiven

end ReactorConfig

end ResourceWatch
