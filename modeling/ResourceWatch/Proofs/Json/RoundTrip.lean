import ResourceWatch.Proofs.Json.Objects
import ResourceWatch.Proofs.Json.Printing

/-!
# JSON values in text and back

A value is read back from its text, whatever it holds and however deep it is nested.
-/

namespace ResourceWatch.Json

open Text Numeral

/-- A value as JSON holds it: its numbers are exact and its objects are ordered, at all depths. -/
inductive IsValue : Json → Prop
  | null : IsValue .null
  | bool (value : Bool) : IsValue (.bool value)
  | num {number : Number} (hexact : IsExactNumber number) : IsValue (.num number)
  | str (text : Text) : IsValue (.str text)
  | arr {items : List Json} (hitems : ∀ item ∈ items, IsValue item) : IsValue (.arr items)
  | obj {members : Members} (hordered : members.IsOrdered)
      (hmembers : ∀ member ∈ members, IsValue member.2) : IsValue (.obj members)

variable {first : UInt16} {text rest : Text} {fuel : Nat}

theorem isBlank_of_isSpace (hspace : isSpace first = true) : isBlank first = true := by
  simp only [isSpace, Bool.or_eq_true, decide_eq_true_eq] at hspace
  rcases hspace with ((rfl | rfl) | rfl) | rfl <;> decide

theorem skip_cons (hstart : isStart first = true) (rest : Text) :
    skip (first :: rest) = first :: rest := by
  refine List.dropWhile_cons_of_neg fun hspace => ?_
  rw [isStart_of_isBlank (isBlank_of_isSpace hspace)] at hstart
  exact Bool.false_ne_true hstart

theorem readValue?_null (fuel : Nat) (rest : Text) :
    readValue? (fuel + 1) (print .null ++ rest) = some (.null, rest) := rfl

theorem readValue?_bool (value : Bool) (fuel : Nat) (rest : Text) :
    readValue? (fuel + 1) (print (.bool value) ++ rest) = some (.bool value, rest) := by
  cases value <;> rfl

theorem readValue?_str (text : Text) (fuel : Nat) (rest : Text) :
    readValue? (fuel + 1) (print (.str text) ++ rest) = some (.str text, rest) := by
  have hprint : print (.str text) ++ rest = 0x22 :: (printUnits text ++ 0x22 :: rest) := by
    simp [print, printString]
  have hread : readValue? (fuel + 1) (0x22 :: (printUnits text ++ 0x22 :: rest)) =
      (readString? (printUnits text ++ 0x22 :: rest)).map fun found =>
        (.str found.1, found.2) := rfl
  rw [hprint, hread, readString?_printUnits]
  rfl

theorem readValue?_of_numeral (hfirst : IsNumeralStart first) (fuel : Nat) (rest : Text) :
    readValue? (fuel + 1) (first :: rest) =
      (readNumber? (first :: rest)).map fun (found, left) => (.num found, left) := by
  have hne (u : UInt16) (hu : ¬isDigit u = true ∧ u ≠ unit '-') : first ≠ u := by
    rintro rfl
    exact hfirst.elim hu.1 hu.2
  have hbrace : first ≠ 0x7B := hne _ (by decide)
  have hbracket : first ≠ 0x5B := hne _ (by decide)
  have hquote : first ≠ 0x22 := hne _ (by decide)
  have htrue : first ≠ 0x74 := hne _ (by decide)
  have hfalse : first ≠ 0x66 := hne _ (by decide)
  have hnull : first ≠ 0x6E := hne _ (by decide)
  rw [readValue?, skip_cons hfirst.isStart]
  simp only [hbrace, hbracket, hquote, htrue, hfalse, hnull, if_false]

theorem readValue?_num {number : Number} (hexact : IsExactNumber number) (fuel : Nat)
    (hrest : Ends rest) :
    readValue? (fuel + 1) (print (.num number) ++ rest) = some (.num number, rest) := by
  have hstart : ∃ first others, printNumber number = first :: others ∧ IsNumeralStart first := by
    cases number with
    | nan => exact hexact.elim
    | infinite negative => exact hexact.elim
    | finite negative magnitude =>
        obtain ⟨shown, spelling, hprint, hformed, -⟩ := exists_printNumber negative magnitude
        rw [hprint]
        exact exists_numeral_start hformed shown
  obtain ⟨first, others, hprint, hfirst⟩ := hstart
  have hread := readNumber?_printNumber hexact hrest
  rw [hprint, List.cons_append] at hread
  rw [print, hprint, List.cons_append, readValue?_of_numeral hfirst, hread]
  rfl

/-! ### Items and members -/

variable {value : Json} {after : Text}

theorem readItems?_next (hread : readValue? fuel text = some (value, 0x2C :: after)) :
    readItems? (fuel + 1) text =
      (readItems? fuel after).map fun (found, left) => (value :: found, left) := by
  rw [readItems?, hread]
  rfl

theorem readItems?_last (hread : readValue? fuel text = some (value, 0x5D :: after)) :
    readItems? (fuel + 1) text = some ([value], after) := by
  rw [readItems?, hread]
  rfl

/-- A member goes from its key to the mark behind its value. -/
theorem readMembers?_printString (key : Text) {mark : UInt16}
    (hread : readValue? fuel text = some (value, mark :: after)) (hmark : isSpace mark = false) :
    readMembers? (fuel + 1) (printString key ++ 0x3A :: text) =
      if mark = 0x2C then
        (readMembers? fuel after).map fun (found, left) => ((key, value) :: found, left)
      else if mark = 0x7D then some ([(key, value)], after)
      else none := by
  have hkey : printString key ++ 0x3A :: text =
      0x22 :: (printUnits key ++ 0x22 :: 0x3A :: text) := by
    simp [printString]
  have hskip : skip (0x22 :: (printUnits key ++ 0x22 :: 0x3A :: text)) =
      0x22 :: (printUnits key ++ 0x22 :: 0x3A :: text) := rfl
  have hcolon : skip (0x3A :: text) = 0x3A :: text := rfl
  have hbehind : skip (mark :: after) = mark :: after :=
    List.dropWhile_cons_of_neg (by simp [hmark])
  rw [hkey, readMembers?, hskip]
  simp only [readString?_printUnits, hcolon, hread, hbehind, if_true]

theorem readMembers?_next (key : Text)
    (hread : readValue? fuel text = some (value, 0x2C :: after)) :
    readMembers? (fuel + 1) (printString key ++ 0x3A :: text) =
      (readMembers? fuel after).map fun (found, left) => ((key, value) :: found, left) := by
  rw [readMembers?_printString key hread (by decide)]
  rfl

theorem readMembers?_last (key : Text)
    (hread : readValue? fuel text = some (value, 0x7D :: after)) :
    readMembers? (fuel + 1) (printString key ++ 0x3A :: text) = some ([(key, value)], after) := by
  rw [readMembers?_printString key hread (by decide)]
  rfl

theorem exists_start_printItems (item : Json) (items : List Json) :
    ∃ first rest, printItems (item :: items) = first :: rest ∧ isStart first = true := by
  obtain ⟨first, rest, hprint, hstart⟩ := exists_start_print item
  cases items with
  | nil => exact ⟨first, rest, hprint, hstart⟩
  | cons next items => exact ⟨first, _, by rw [printItems, hprint, List.cons_append], hstart⟩

/-- Items do not begin with the bracket that ends them. -/
theorem readValue?_items (item : Json) (items : List Json) (fuel : Nat) (rest : Text) :
    readValue? (fuel + 1) (0x5B :: (printItems (item :: items) ++ rest)) =
      (readItems? fuel (printItems (item :: items) ++ rest)).map fun (found, left) =>
        (.arr found, left) := by
  obtain ⟨first, others, hprint, hstart⟩ := exists_start_printItems item items
  have hne : first ≠ 0x5D := by
    rintro rfl
    exact absurd hstart (by decide)
  have hbracket : skip (0x5B :: first :: (others ++ rest)) = 0x5B :: first :: (others ++ rest) :=
    rfl
  have hnot : ¬(0x5B : UInt16) = 0x7B := by decide
  rw [hprint, List.cons_append, readValue?, hbracket]
  simp only [skip_cons hstart, hnot, hne, if_false, if_true]

/-- Members begin with the quote of a key. -/
theorem readValue?_members (member : Text × Json) (members : Members) (fuel : Nat) (rest : Text) :
    readValue? (fuel + 1) (0x7B :: (printMembers (member :: members) ++ rest)) =
      (readMembers? fuel (printMembers (member :: members) ++ rest)).map fun (found, left) =>
        (.obj (Members.ofList found), left) := by
  cases members <;> rfl

theorem ends_cons (u : UInt16) (rest : Text)
    (hu : isDigit u = false ∧ u ≠ unit '.' ∧ u ≠ unit 'e' ∧ u ≠ unit 'E') : Ends (u :: rest) := by
  intro v hv
  obtain rfl : u = v := by simpa using hv
  exact hu

theorem exists_succ_of_print (hfuel : (print value).length ≤ fuel) : ∃ less, fuel = less + 1 := by
  obtain ⟨first, rest, hprint, -⟩ := exists_start_print value
  rw [hprint, List.length_cons] at hfuel
  exact ⟨fuel - 1, by omega⟩

-- The induction is on the value. The fuel is bounded by the length of the text, which the marks
-- around the items and the members make long enough.
mutual

/-- **A value is read back from its text**, and what stands behind it is left. -/
theorem readValue?_print : ∀ (value : Json) {fuel : Nat} {rest : Text}, IsValue value →
    (print value).length ≤ fuel → Ends rest →
    readValue? fuel (print value ++ rest) = some (value, rest)
  | .null, fuel, rest, _, hfuel, _ => by
      obtain ⟨less, rfl⟩ := exists_succ_of_print hfuel
      exact readValue?_null less rest
  | .bool value, fuel, rest, _, hfuel, _ => by
      obtain ⟨less, rfl⟩ := exists_succ_of_print hfuel
      exact readValue?_bool value less rest
  | .num number, fuel, rest, hvalue, hfuel, hrest => by
      obtain ⟨less, rfl⟩ := exists_succ_of_print hfuel
      cases hvalue with
      | num hexact => exact readValue?_num hexact less hrest
  | .str text, fuel, rest, _, hfuel, _ => by
      obtain ⟨less, rfl⟩ := exists_succ_of_print hfuel
      exact readValue?_str text less rest
  | .arr [], fuel, rest, _, hfuel, _ => by
      obtain ⟨less, rfl⟩ := exists_succ_of_print hfuel
      rfl
  | .arr (item :: items), fuel, rest, hvalue, hfuel, _ => by
      obtain ⟨less, rfl⟩ := exists_succ_of_print hfuel
      cases hvalue with
      | arr hitems =>
          have hlength : (printItems (item :: items)).length + 1 ≤ less := by
            simp only [print, List.length_cons, List.length_append] at hfuel
            omega
          have hread := readItems?_print item items hitems hlength rest
          have htext : print (.arr (item :: items)) ++ rest =
              0x5B :: (printItems (item :: items) ++ 0x5D :: rest) := by
            simp [print]
          rw [htext, readValue?_items, hread]
          rfl
  | .obj [], fuel, rest, _, hfuel, _ => by
      obtain ⟨less, rfl⟩ := exists_succ_of_print hfuel
      rfl
  | .obj (member :: members), fuel, rest, hvalue, hfuel, _ => by
      obtain ⟨less, rfl⟩ := exists_succ_of_print hfuel
      cases hvalue with
      | obj hordered hmembers =>
          have hlength : (printMembers (member :: members)).length + 1 ≤ less := by
            simp only [print, List.length_cons, List.length_append] at hfuel
            omega
          have hread := readMembers?_print member members hmembers hlength rest
          have hquote : print (.obj (member :: members)) ++ rest = 0x7B ::
              (printMembers (member :: members) ++ 0x7D :: rest) := by
            simp [print]
          rw [hquote, readValue?_members, hread]
          simp only [Option.map_some, Members.ofList_eq_self hordered]

theorem readItems?_print : ∀ (item : Json) (items : List Json) {fuel : Nat},
    (∀ value ∈ item :: items, IsValue value) →
    (printItems (item :: items)).length + 1 ≤ fuel → ∀ rest,
    readItems? fuel (printItems (item :: items) ++ 0x5D :: rest) = some (item :: items, rest)
  | item, [], fuel, hitems, hfuel, rest => by
      obtain ⟨less, rfl⟩ : ∃ less, fuel = less + 1 := ⟨fuel - 1, by omega⟩
      have hitem := readValue?_print item (hitems item List.mem_cons_self)
        (Nat.le_of_succ_le_succ hfuel) (ends_cons 0x5D rest (by decide))
      exact readItems?_last hitem
  | item, next :: items, fuel, hitems, hfuel, rest => by
      obtain ⟨less, rfl⟩ : ∃ less, fuel = less + 1 := ⟨fuel - 1, by omega⟩
      have hlength : (print item).length + 1 + (printItems (next :: items)).length ≤ less := by
        simp only [printItems, List.length_append, List.length_cons] at hfuel
        omega
      have hitem := readValue?_print item (hitems item List.mem_cons_self)
        (show (print item).length ≤ less by omega)
        (ends_cons 0x2C (printItems (next :: items) ++ 0x5D :: rest) (by decide))
      have hothers := readItems?_print next items
        (fun value hvalue => hitems value (List.mem_cons_of_mem _ hvalue))
        (show (printItems (next :: items)).length + 1 ≤ less by omega) rest
      rw [printItems, List.append_assoc, List.cons_append, readItems?_next hitem, hothers]
      rfl

theorem readMembers?_print : ∀ (member : Text × Json) (members : Members) {fuel : Nat},
    (∀ member' ∈ member :: members, IsValue member'.2) →
    (printMembers (member :: members)).length + 1 ≤ fuel → ∀ rest,
    readMembers? fuel (printMembers (member :: members) ++ 0x7D :: rest) =
      some (member :: members, rest)
  | (key, value), [], fuel, hmembers, hfuel, rest => by
      obtain ⟨less, rfl⟩ : ∃ less, fuel = less + 1 := ⟨fuel - 1, by omega⟩
      have hlength : (print value).length ≤ less := by
        simp only [printMembers, List.length_append, List.length_cons] at hfuel
        omega
      have hvalue := readValue?_print value (hmembers (key, value) List.mem_cons_self) hlength
        (ends_cons 0x7D rest (by decide))
      rw [printMembers, List.append_assoc, List.cons_append, readMembers?_last key hvalue]
  | (key, value), next :: members, fuel, hmembers, hfuel, rest => by
      obtain ⟨less, rfl⟩ : ∃ less, fuel = less + 1 := ⟨fuel - 1, by omega⟩
      have hlength : (print value).length + 1 + (printMembers (next :: members)).length ≤ less := by
        simp only [printMembers, List.length_append, List.length_cons] at hfuel
        omega
      have hvalue := readValue?_print value (hmembers (key, value) List.mem_cons_self)
        (show (print value).length ≤ less by omega)
        (ends_cons 0x2C (printMembers (next :: members) ++ 0x7D :: rest) (by decide))
      have hothers := readMembers?_print next members
        (fun member hmember => hmembers member (List.mem_cons_of_mem _ hmember))
        (show (printMembers (next :: members)).length + 1 ≤ less by omega) rest
      rw [printMembers, List.append_assoc, List.cons_append, List.append_assoc, List.cons_append,
        readMembers?_next key hvalue, hothers]
      rfl

end

/-- **The text of a value is read as that value.** -/
theorem parse?_print {value : Json} (hvalue : IsValue value) : parse? (print value) = some value := by
  have hread := readValue?_print value hvalue (Nat.le_succ _) (fun u hu => by simp at hu : Ends [])
  rw [List.append_nil] at hread
  rw [parse?, hread]
  rfl

end ResourceWatch.Json
