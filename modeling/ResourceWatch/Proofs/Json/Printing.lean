import Mathlib.Tactic.SplitIfs
import ResourceWatch.Proofs.Encoding
import ResourceWatch.Proofs.Json.Beginning
import ResourceWatch.Proofs.Number.Numerals

/-!
# The text of JSON values

Whatever a value holds, its text is well-formed and has no control characters, so that it stands on
one line. A string is read back from its text, whichever of its units are escaped.
-/

namespace ResourceWatch

namespace Text

variable {text first second : Text} {u : UInt16}

theorem isWellFormed_cons_of_not_surrogate (hhigh : isHighSurrogate u = false)
    (hlow : isLowSurrogate u = false) (rest : Text) :
    isWellFormed (u :: rest) = isWellFormed rest := by
  rw [isWellFormed.eq_def]
  simp [hhigh, hlow]

theorem isWellFormed_append (hfirst : first.isWellFormed = true)
    (hsecond : second.isWellFormed = true) : (first ++ second).isWellFormed = true := by
  fun_induction isWellFormed first with
  | case1 => exact hsecond
  | case2 high hhigh low rest ih =>
      obtain ⟨hlow, hrest⟩ := Bool.and_eq_true_iff.mp hfirst
      simp [isWellFormed, hhigh, hlow, ih hrest]
  | case3 high hhigh => simp at hfirst
  | case4 high rest hhigh ih =>
      obtain ⟨hlow, hrest⟩ := Bool.and_eq_true_iff.mp hfirst
      rw [List.cons_append, isWellFormed_cons_of_not_surrogate (by simpa using hhigh)
        (by simpa using hlow)]
      exact ih hrest

/-- A well-formed text without control characters. -/
structure IsPrintable (text : Text) : Prop where
  formed : text.isWellFormed = true
  visible : ∀ u ∈ text, 0x20 ≤ u.toNat

theorem isPrintable_nil : IsPrintable [] := ⟨rfl, by simp⟩

theorem IsPrintable.append (hfirst : IsPrintable first) (hsecond : IsPrintable second) :
    IsPrintable (first ++ second) where
  formed := isWellFormed_append hfirst.formed hsecond.formed
  visible u hu := (List.mem_append.mp hu).elim (hfirst.visible u) (hsecond.visible u)

theorem isPrintable_singleton (hlow : 0x20 ≤ u.toNat) (hhigh : isHighSurrogate u = false)
    (hlow' : isLowSurrogate u = false) : IsPrintable [u] := by
  refine ⟨?_, by simpa using hlow⟩
  rw [isWellFormed_cons_of_not_surrogate hhigh hlow']
  rfl

theorem isPrintable_of_lt (htext : ∀ u ∈ text, 0x20 ≤ u.toNat ∧ u.toNat < 0xD800) :
    IsPrintable text := by
  induction text with
  | nil => exact isPrintable_nil
  | cons u rest ih =>
      obtain ⟨⟨hlow, hlt⟩, hrest⟩ := List.forall_mem_cons.mp htext
      refine (isPrintable_singleton hlow ?_ ?_).append (ih hrest)
      · rw [Bool.eq_false_iff, ne_eq, isHighSurrogate_iff]
        omega
      · rw [Bool.eq_false_iff, ne_eq, isLowSurrogate_iff]
        omega

theorem IsPrintable.cons (htext : IsPrintable text) (hu : 0x20 ≤ u.toNat ∧ u.toNat < 0xD800) :
    IsPrintable (u :: text) :=
  have hfirst : IsPrintable [u] := isPrintable_of_lt (by simpa using hu)
  hfirst.append htext

/-- For a text that is given, this can be evaluated. -/
theorem isPrintable_of_all (htext : (text.all fun u => 0x20 ≤ u.toNat ∧ u.toNat < 0xD800) = true) :
    IsPrintable text :=
  isPrintable_of_lt fun u hu => of_decide_eq_true (List.all_eq_true.mp htext u hu)

theorem IsDigits.isPrintable (hdigits : IsDigits text) : IsPrintable text :=
  isPrintable_of_lt fun u hu => by
    have hdigit := (isDigit_iff u).mp (hdigits u hu)
    omega

theorem IsPrintable.not_mem_newline (htext : IsPrintable text) : 0x0A ∉ text := fun hmem =>
  absurd (htext.visible _ hmem) (by decide)

theorem hexValue?_hexDigit {n : Nat} (hn : n < 0x10) : hexValue? (hexDigit n) = some n := by
  revert n
  decide

theorem hexDigit_visible {n : Nat} (hn : n < 0x10) :
    0x20 ≤ (hexDigit n).toNat ∧ (hexDigit n).toNat < 0xD800 := by
  revert n
  decide

end Text

namespace Json

open Text Numeral

variable {u : UInt16} {text rest : Text}

/-! ### Strings -/

/-- A unit is written as an escape of two units, as a hexadecimal escape, or as it is. -/
theorem printUnit_cases (u : UInt16) :
    (∃ mark, printUnit u = [0x5C, mark] ∧ escaped? mark = some u ∧ mark ≠ 0x75 ∧
      0x20 ≤ mark.toNat ∧ mark.toNat < 0xD800) ∨
    printUnit u = escapeHex u ∨
    (printUnit u = [u] ∧ u ≠ 0x22 ∧ u ≠ 0x5C ∧ 0x20 ≤ u.toNat ∧ isSurrogate u = false) := by
  unfold printUnit
  split_ifs with hquote hslash hback hfeed hline hreturn htab hescape
  all_goals try subst u
  all_goals try exact .inl ⟨_, rfl, by decide⟩
  · exact .inr (.inl rfl)
  · rw [Bool.or_eq_true, not_or, decide_eq_true_eq, UInt16.lt_iff_toNat_lt,
      Bool.not_eq_true] at hescape
    exact .inr (.inr ⟨rfl, hquote, hslash, Nat.le_of_not_lt hescape.1, hescape.2⟩)

theorem isPrintable_escapeHex (u : UInt16) : IsPrintable (escapeHex u) := by
  have hlt := u.toNat_lt
  have hdigits : IsPrintable (hex4 u) := by
    refine isPrintable_of_lt ?_
    simp only [hex4, List.forall_mem_cons]
    exact ⟨hexDigit_visible (by omega), hexDigit_visible (by omega), hexDigit_visible (by omega),
      hexDigit_visible (by omega), by simp⟩
  exact (hdigits.cons (by decide)).cons (by decide)

theorem isPrintable_printUnit (u : UInt16) : IsPrintable (printUnit u) := by
  rcases printUnit_cases u with ⟨mark, heq, -, -, hmark⟩ | heq | ⟨heq, -, -, hvisible, hplain⟩
  · rw [heq]
    exact (isPrintable_nil.cons hmark).cons (by decide)
  · rw [heq]
    exact isPrintable_escapeHex u
  · simp only [isSurrogate, Bool.and_eq_false_iff, decide_eq_false_iff_not, UInt16.le_iff_toNat_le,
      UInt16.lt_iff_toNat_lt] at hplain
    have hbounds : u.toNat < 0xD800 ∨ 0xE000 ≤ u.toNat :=
      hplain.imp Nat.lt_of_not_le Nat.le_of_not_lt
    rw [heq]
    refine isPrintable_singleton hvisible ?_ ?_
    · rw [Bool.eq_false_iff, ne_eq, isHighSurrogate_iff]
      omega
    · rw [Bool.eq_false_iff, ne_eq, isLowSurrogate_iff]
      omega

theorem isPrintable_pair {high low : UInt16} (hhigh : isHighSurrogate high = true)
    (hlow : isLowSurrogate low = true) : IsPrintable [high, low] := by
  refine ⟨by simp [isWellFormed, hhigh, hlow], ?_⟩
  have hhigh' := (isHighSurrogate_iff high).mp hhigh
  have hlow' := (isLowSurrogate_iff low).mp hlow
  simp only [List.forall_mem_cons]
  exact ⟨by omega, by omega, by simp⟩

theorem isPrintable_printUnits (text : Text) : IsPrintable (printUnits text) := by
  fun_induction printUnits text with
  | case1 => exact isPrintable_nil
  | case2 high hhigh low after hlow ih => exact (isPrintable_pair hhigh hlow).append ih
  | case3 high hhigh low after hlow ih => exact (isPrintable_printUnit high).append ih
  | case4 high hhigh => exact isPrintable_printUnit high
  | case5 u rest hhigh ih => exact (isPrintable_printUnit u).append ih

theorem isPrintable_printString (text : Text) : IsPrintable (printString text) :=
  ((isPrintable_printUnits text).append (isPrintable_of_all (by decide))).cons (by decide)

theorem hexUnit?_hex4 (u : UInt16) :
    hexUnit? (hexDigit (u.toNat / 0x1000)) (hexDigit (u.toNat / 0x100 % 0x10))
      (hexDigit (u.toNat / 0x10 % 0x10)) (hexDigit (u.toNat % 0x10)) = some u := by
  have hlt := u.toNat_lt
  have hvalue : ((u.toNat / 0x1000 * 0x10 + u.toNat / 0x100 % 0x10) * 0x10 +
      u.toNat / 0x10 % 0x10) * 0x10 + u.toNat % 0x10 = u.toNat := by
    omega
  have hunit : u.toNat.toUInt16 = u := by simp [Nat.toUInt16]
  simp only [hexUnit?, hexValue?_hexDigit (show u.toNat / 0x1000 < 0x10 by omega),
    hexValue?_hexDigit (Nat.mod_lt _ (show 0 < 0x10 by decide)), bind, Option.bind, hvalue, hunit]
  rfl

/-- What a string goes on with behind the unit `u`. -/
def afterUnit (u : UInt16) (found : Option (Text × Text)) : Option (Text × Text) :=
  found.map fun (text, left) => (u :: text, left)

theorem readString?_quote (rest : Text) : readString? (0x22 :: rest) = some ([], rest) := by
  rw [readString?.eq_def]
  rfl

theorem readString?_cons (hquote : u ≠ 0x22) (hslash : u ≠ 0x5C) (hvisible : 0x20 ≤ u.toNat) :
    readString? (u :: rest) = afterUnit u (readString? rest) := by
  have hnot : ¬u < 0x20 := Nat.not_lt_of_le hvisible
  rw [readString?.eq_def]
  simp only [hquote, hslash, hnot, if_false]
  cases readString? rest <;> rfl

theorem readString?_escape {mark : UInt16} (hmark : escaped? mark = some u) (hhex : mark ≠ 0x75) :
    readString? (0x5C :: mark :: rest) = afterUnit u (readString? rest) := by
  rw [readString?.eq_def]
  have hslash : ¬(0x5C : UInt16) = 0x22 ∧ ¬(0x5C : UInt16) < 0x20 := by decide
  simp only [hslash.1, hslash.2, hhex, hmark, if_false, if_true]
  cases readString? rest <;> rfl

theorem readString?_escapeHex (u : UInt16) (rest : Text) :
    readString? (escapeHex u ++ rest) = afterUnit u (readString? rest) := by
  rw [escapeHex, hex4]
  simp only [List.cons_append, List.nil_append]
  rw [readString?.eq_def]
  have hslash : ¬(0x5C : UInt16) = 0x22 ∧ ¬(0x5C : UInt16) < 0x20 := by decide
  simp only [hslash.1, hslash.2, hexUnit?_hex4, if_false, if_true]
  cases readString? rest <;> rfl

theorem readString?_printUnit (u : UInt16) (rest : Text) :
    readString? (printUnit u ++ rest) = afterUnit u (readString? rest) := by
  rcases printUnit_cases u with ⟨mark, heq, hmark, hhex, -⟩ | heq | ⟨heq, hquote, hslash, hvisible, -⟩
  · rw [heq]
    exact readString?_escape hmark hhex
  · rw [heq]
    exact readString?_escapeHex u rest
  · rw [heq]
    exact readString?_cons hquote hslash hvisible

theorem readString?_surrogate (hsurrogate : 0xD800 ≤ u.toNat) (rest : Text) :
    readString? (u :: rest) = afterUnit u (readString? rest) := by
  have hne (v : UInt16) (hv : v.toNat < 0xD800) : u ≠ v := by
    rintro rfl
    omega
  exact readString?_cons (hne _ (by decide)) (hne _ (by decide)) (by omega)

/-- **A string is read back from its text.** -/
theorem readString?_printUnits (text rest : Text) :
    readString? (printUnits text ++ 0x22 :: rest) = some (text, rest) := by
  fun_induction printUnits text with
  | case1 => exact readString?_quote rest
  | case2 high hhigh low after hlow ih =>
      have hhigh' := (isHighSurrogate_iff high).mp hhigh
      have hlow' := (isLowSurrogate_iff low).mp hlow
      rw [List.cons_append, List.cons_append, readString?_surrogate hhigh'.1,
        readString?_surrogate (by omega), ih]
      rfl
  | case3 high hhigh low after hlow ih =>
      rw [List.append_assoc, readString?_printUnit, ih]
      rfl
  | case4 high hhigh =>
      rw [readString?_printUnit, readString?_quote]
      rfl
  | case5 u after hhigh ih =>
      rw [List.append_assoc, readString?_printUnit, ih]
      rfl

/-! ### Values -/

theorem isPrintable_numeral {spelling : Spelling} (hformed : spelling.IsFormed) :
    IsPrintable spelling.text := by
  refine hformed.whole.isPrintable.append (IsPrintable.append ?_ ?_)
  · unfold Spelling.pointText
    split
    · exact isPrintable_nil
    · exact hformed.fraction.isPrintable.cons (by decide)
  · cases hexponent : spelling.exponent with
    | none => exact isPrintable_nil
    | some exponent =>
        obtain ⟨negative, digits⟩ := exponent
        have hdigits := (hformed.exponent negative digits hexponent).1
        refine (hdigits.isPrintable.cons ?_).cons (by decide)
        cases negative <;> decide

theorem isPrintable_printNumber (number : Number) : IsPrintable (printNumber number) := by
  have hnull : IsPrintable (ofString "null") := isPrintable_of_all (by decide)
  cases number with
  | nan => exact hnull
  | infinite negative => exact hnull
  | finite negative magnitude =>
      obtain ⟨shown, spelling, hprint, hformed, -⟩ := exists_printNumber negative magnitude
      rw [hprint]
      refine IsPrintable.append (isPrintable_of_all ?_) (isPrintable_numeral hformed)
      cases shown <;> decide

-- One case for each shape of a value, with the items and the members of the longer ones.
mutual

/-- **The text of a value stands on one line.** -/
theorem isPrintable_print : ∀ value : Json, IsPrintable (print value)
  | .null => isPrintable_of_all (by decide)
  | .bool true => isPrintable_of_all (by decide)
  | .bool false => isPrintable_of_all (by decide)
  | .num number => isPrintable_printNumber number
  | .str text => isPrintable_printString text
  | .arr items =>
      ((isPrintable_printItems items).append (isPrintable_of_all (by decide))).cons (by decide)
  | .obj members =>
      ((isPrintable_printMembers members).append (isPrintable_of_all (by decide))).cons (by decide)

theorem isPrintable_printItems : ∀ items : List Json, IsPrintable (printItems items)
  | [] => isPrintable_nil
  | [item] => isPrintable_print item
  | item :: next :: rest =>
      (isPrintable_print item).append ((isPrintable_printItems (next :: rest)).cons (by decide))

theorem isPrintable_printMembers : ∀ members : Members, IsPrintable (printMembers members)
  | [] => isPrintable_nil
  | [(key, value)] =>
      (isPrintable_printString key).append ((isPrintable_print value).cons (by decide))
  | (key, value) :: next :: rest =>
      (isPrintable_printString key).append (((isPrintable_print value).append
        ((isPrintable_printMembers (next :: rest)).cons (by decide))).cons (by decide))

end

/-- The units that a numeral can begin with. -/
def IsNumeralStart (u : UInt16) : Prop :=
  isDigit u = true ∨ u = unit '-'

theorem IsNumeralStart.isStart {u : UInt16} (hu : IsNumeralStart u) : isStart u = true := by
  rcases hu with hdigit | rfl
  · simp [Json.isStart, hdigit]
  · decide

theorem exists_numeral_start {spelling : Spelling} (hformed : spelling.IsFormed)
    (negative : Bool) :
    ∃ first rest, signText negative ++ spelling.text = first :: rest ∧ IsNumeralStart first := by
  obtain ⟨first, rest, hwhole⟩ := List.exists_cons_of_ne_nil hformed.whole_ne_nil
  cases negative with
  | false =>
      have hfirst : isDigit first = true := hformed.whole first (by simp [hwhole])
      have htext : spelling.text = first :: (rest ++ (Spelling.pointText spelling.fraction ++
          Spelling.exponentText spelling.exponent)) := by
        rw [Spelling.text, hwhole, List.cons_append]
      exact ⟨first, _, htext, .inl hfirst⟩
  | true => exact ⟨unit '-', _, rfl, .inr rfl⟩

theorem exists_start_printNumber (number : Number) :
    ∃ first rest, printNumber number = first :: rest ∧ isStart first = true := by
  cases number with
  | nan => exact ⟨0x6E, _, rfl, by decide⟩
  | infinite negative => exact ⟨0x6E, _, rfl, by decide⟩
  | finite negative magnitude =>
      obtain ⟨shown, spelling, hprint, hformed, -⟩ := exists_printNumber negative magnitude
      obtain ⟨first, rest, hnumeral, hfirst⟩ := exists_numeral_start hformed shown
      exact ⟨first, rest, hprint.trans hnumeral, hfirst.isStart⟩

/-- The text of a value is not empty, and begins as JSON texts begin. -/
theorem exists_start_print (value : Json) :
    ∃ first rest, print value = first :: rest ∧ isStart first = true := by
  cases value with
  | null => exact ⟨0x6E, _, rfl, by decide⟩
  | bool value =>
      cases value with
      | false => exact ⟨0x66, _, rfl, by decide⟩
      | true => exact ⟨0x74, _, rfl, by decide⟩
  | num number => exact exists_start_printNumber number
  | str text => exact ⟨0x22, _, rfl, by decide⟩
  | arr items => exact ⟨0x5B, _, rfl, by decide⟩
  | obj members => exact ⟨0x7B, _, rfl, by decide⟩

end Json

end ResourceWatch
