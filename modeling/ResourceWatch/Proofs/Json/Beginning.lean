import Mathlib.Data.List.TakeWhile
import ResourceWatch.Json.Reader
import ResourceWatch.Text.Blank

/-!
# How a JSON text begins

The first token decides that a text cannot be JSON: blanks are not, nor is anything that a byte
order mark stands in front of.
-/

namespace ResourceWatch

namespace Json

open Text

/-- The units that the first token of a JSON text can begin with. -/
def isStart (u : UInt16) : Bool :=
  u = 0x7B || u = 0x5B || u = 0x22 || u = 0x74 || u = 0x66 || u = 0x6E || u = 0x2D || isDigit u

/-- A text that begins with anything else is not JSON. -/
theorem parse?_eq_none {text : Text} (htext : ∀ u ∈ (skip text).head?, isStart u = false) :
    parse? text = none := by
  have hvalue : readValue? (text.length + 1) text = none := by
    rw [readValue?]
    rcases hskip : skip text with _ | ⟨first, rest⟩
    · rfl
    · have hfirst := htext first (by rw [hskip]; rfl)
      simp only [isStart, Bool.or_eq_false_iff, decide_eq_false_iff_not] at hfirst
      obtain ⟨⟨⟨⟨⟨⟨⟨hbrace, hbracket⟩, hquote⟩, htrue⟩, hfalse⟩, hnull⟩, hminus⟩, hdigit⟩ := hfirst
      have hzero : ¬first = 0x30 := fun heq => by
        subst heq
        exact absurd hdigit (by decide)
      simp [hbrace, hbracket, hquote, htrue, hfalse, hnull, readNumber?, hminus, hzero, hdigit]
  rw [parse?, hvalue]

theorem isStart_of_isBlank {u : UInt16} (hblank : isBlank u = true) : isStart u = false := by
  rw [Bool.eq_false_iff]
  intro hstart
  have hlt : u.toNat < 0x80 := by
    simp only [isStart, isDigit, Bool.or_eq_true, Bool.and_eq_true, decide_eq_true_eq,
      UInt16.le_iff_toNat_le] at hstart
    rcases hstart with ((((((rfl | rfl) | rfl) | rfl) | rfl) | rfl) | rfl) | ⟨-, hle⟩
    all_goals first
      | decide
      | exact Nat.lt_of_le_of_lt hle (by decide)
  have hnever : ∀ n, n < 0x80 → isStart n.toUInt16 = true → isBlank n.toUInt16 = false := by
    decide
  have hunit : u.toNat.toUInt16 = u := by simp [Nat.toUInt16]
  rw [← hunit] at hblank hstart
  rw [hnever u.toNat hlt hstart] at hblank
  exact Bool.false_ne_true hblank

theorem isBlank_of_trim {text : Text} (hblank : (trim text).isEmpty = true) :
    ∀ u ∈ text, isBlank u = true := by
  rw [trim, List.isEmpty_iff, List.reverse_eq_nil_iff] at hblank
  rcases hdropped : text.dropWhile isBlank with _ | ⟨first, rest⟩
  · exact List.dropWhile_eq_nil_iff.mp hdropped
  · have hfirst : isBlank first = false := by
      have hhead := List.head?_dropWhile_not isBlank text
      rw [hdropped, List.head?_cons] at hhead
      simpa using hhead
    have hblank := List.dropWhile_eq_nil_iff.mp hblank first (by simp [hdropped])
    rw [hfirst] at hblank
    exact absurd hblank Bool.false_ne_true

/-- A text that holds nothing but blanks is not JSON. -/
theorem parse?_of_blank {text : Text} (hblank : (trim text).isEmpty = true) : parse? text = none :=
  parse?_eq_none fun u hu => by
    have hmem : u ∈ text := (List.dropWhile_suffix isSpace).subset (List.mem_of_mem_head? hu)
    exact isStart_of_isBlank (isBlank_of_trim hblank u hmem)

theorem parse?_of_mark (rest : Text) : parse? (0xFEFF :: rest) = none :=
  parse?_eq_none fun u hu => by
    have hspace : ¬isSpace 0xFEFF = true := by decide
    rw [skip, List.dropWhile_cons_of_neg hspace, List.head?_cons, Option.mem_some_iff] at hu
    subst hu
    decide

end Json

end ResourceWatch
