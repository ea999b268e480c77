import ResourceWatch.Proofs.Encoding
import ResourceWatch.Proofs.Framing
import ResourceWatch.Proofs.Json.Printing

/-!
# Text that was decoded

What comes out of a decoder holds whole characters only, and so do the parts that it is cut into at
ASCII characters. Nothing in it is replaced when it is written.
-/

namespace ResourceWatch

namespace Text

variable {u separator : UInt16} {text : Text}

theorem isWellFormed_append_cons (hhigh : isHighSurrogate u = false)
    (hlow : isLowSurrogate u = false) (first second : Text) :
    isWellFormed (first ++ u :: second) = (isWellFormed first && isWellFormed second) := by
  fun_induction isWellFormed first with
  | case1 => exact isWellFormed_cons_of_not_surrogate hhigh hlow second
  | case2 high hsurrogate low rest ih => simp [isWellFormed, hsurrogate, ih, Bool.and_assoc]
  | case3 high hsurrogate => simp [isWellFormed, hsurrogate, hlow]
  | case4 high rest hsurrogate ih =>
      rw [List.cons_append, isWellFormed.eq_def]
      simp [hsurrogate, ih, Bool.and_assoc]

theorem isWellFormed_map {f : UInt16 → UInt16}
    (hf : ∀ u, isHighSurrogate (f u) = isHighSurrogate u ∧ isLowSurrogate (f u) = isLowSurrogate u)
    (text : Text) : isWellFormed (text.map f) = isWellFormed text := by
  fun_induction isWellFormed text with
  | case1 => rfl
  | case2 high hhigh low rest ih => simp [isWellFormed, (hf _).1, (hf _).2, hhigh, ih]
  | case3 high hhigh => simp [isWellFormed, (hf _).1, hhigh]
  | case4 high rest hhigh ih =>
      rw [List.map_cons, isWellFormed.eq_def]
      simp [(hf _).1, (hf _).2, hhigh, ih]

theorem isWellFormed_of_mem_split (hhigh : isHighSurrogate separator = false)
    (hlow : isLowSurrogate separator = false) (htext : text.isWellFormed = true) :
    ∀ piece ∈ split separator text, piece.isWellFormed = true := by
  induction hlength : text.length using Nat.strongRecOn generalizing text with
  | ind length ih =>
      by_cases hmem : separator ∈ text
      · obtain ⟨first, second, rfl, hfirst⟩ := List.eq_append_cons_of_mem hmem
        rw [isWellFormed_append_cons hhigh hlow, Bool.and_eq_true] at htext
        rw [split_line_append hfirst]
        refine List.forall_mem_cons.mpr ⟨htext.1, ih _ ?_ htext.2 rfl⟩
        rw [← hlength, List.length_append, List.length_cons]
        omega
      · rw [split_of_not_mem hmem]
        exact List.forall_mem_singleton.mpr htext

/-- A code point that is no surrogate is one unit or a pair. -/
theorem ofCodePoint_cases {point : Nat} (hscalar : IsScalar point) :
    (∃ u : UInt16, ofCodePoint point = [u] ∧ isHighSurrogate u = false ∧
        isLowSurrogate u = false ∧ u.toNat = point) ∨
      ∃ high low : UInt16, ofCodePoint point = [high, low] ∧ isHighSurrogate high = true ∧
        isLowSurrogate low = true ∧ pairPoint high low = point := by
  have hvalue {n : Nat} (hn : n < 0x10000) : n.toUInt16.toNat = n := by
    rw [Nat.toUInt16, UInt16.toNat_ofNat', Nat.mod_eq_of_lt hn]
  unfold IsScalar at hscalar
  by_cases hlt : point < 0x10000
  · refine .inl ⟨point.toUInt16, by rw [ofCodePoint, if_pos hlt], ?_, ?_, hvalue hlt⟩
    · rw [Bool.eq_false_iff, ne_eq, isHighSurrogate_iff, hvalue hlt]
      omega
    · rw [Bool.eq_false_iff, ne_eq, isLowSurrogate_iff, hvalue hlt]
      omega
  · have hhigh : ((point - 0x10000) / 0x400 + 0xD800).toUInt16.toNat =
        (point - 0x10000) / 0x400 + 0xD800 := hvalue (by omega)
    have hlow : ((point - 0x10000) % 0x400 + 0xDC00).toUInt16.toNat =
        (point - 0x10000) % 0x400 + 0xDC00 := hvalue (by omega)
    refine .inr ⟨_, _, by rw [ofCodePoint, if_neg hlt], ?_, ?_, ?_⟩
    · rw [isHighSurrogate_iff, hhigh]
      omega
    · rw [isLowSurrogate_iff, hlow]
      omega
    · unfold pairPoint
      omega

theorem isWellFormed_ofCodePoints {points : List Nat} (hscalar : ∀ point ∈ points, IsScalar point) :
    (ofCodePoints points).isWellFormed = true := by
  induction points with
  | nil => rfl
  | cons point rest ih =>
      obtain ⟨hpoint, hrest⟩ := List.forall_mem_cons.mp hscalar
      apply isWellFormed_append _ (ih hrest)
      rcases ofCodePoint_cases hpoint with ⟨u, heq, hhigh, hlow, -⟩ | ⟨high, low, heq, hhigh, hlow, -⟩
      · rw [heq, isWellFormed_cons_of_not_surrogate hhigh hlow]
        rfl
      · rw [heq, isWellFormed, if_pos hhigh, hlow]
        rfl

theorem codePoints_ofCodePoints {points : List Nat} (hscalar : ∀ point ∈ points, IsScalar point) :
    (ofCodePoints points).codePoints = points := by
  induction points with
  | nil => rfl
  | cons point rest ih =>
      obtain ⟨hpoint, hrest⟩ := List.forall_mem_cons.mp hscalar
      have hih := ih hrest
      rw [ofCodePoints] at hih ⊢
      rw [List.flatMap_cons]
      rcases ofCodePoint_cases hpoint with ⟨u, heq, hhigh, hlow, hu⟩ | ⟨high, low, heq, hhigh, hlow, hp⟩
      · rw [heq, List.singleton_append, codePoints_cons_of_not_surrogate hhigh hlow, hih, hu]
      · rw [heq, List.cons_append, List.singleton_append, codePoints, if_pos hhigh]
        simp only [hlow, if_true, hih, hp]

theorem isWellFormed_repair (text : Text) : text.repair.isWellFormed = true :=
  isWellFormed_ofCodePoints fun _ hmem => isScalar_of_mem_codePoints hmem

/-- A text that is repaired has the code points that it had before. -/
theorem codePoints_repair (text : Text) : text.repair.codePoints = text.codePoints :=
  codePoints_ofCodePoints fun _ hmem => isScalar_of_mem_codePoints hmem

theorem repair_of_isWellFormed (htext : text.isWellFormed = true) : text.repair = text :=
  ofCodePoints_codePoints htext

end Text

namespace Utf8

open Text

/-- Whatever completes the character, with this many bytes behind the next one, its code point is no
surrogate. -/
def Partial.IsSafe (part : Partial) (behind : Nat) : Prop :=
  (part.point * 0x40 + (part.high.toNat - 0x80) + 1) * 0x40 ^ behind ≤ 0xD800 ∨
    0xE000 ≤ (part.point * 0x40 + (part.low.toNat - 0x80)) * 0x40 ^ behind ∧
      (part.point * 0x40 + (part.high.toNat - 0x80) + 1) * 0x40 ^ behind ≤ 0x110000

instance (part : Partial) (behind : Nat) : Decidable (part.IsSafe behind) :=
  inferInstanceAs (Decidable (_ ∨ _))

theorem isScalar_finishPoint_succ {part : Partial} {behind : Nat} (hsafe : part.IsSafe behind)
    (bytes : Bytes) : IsScalar (finishPoint part (behind + 1) bytes).1 := by
  induction behind generalizing part bytes with
  | zero =>
      rcases bytes with _ | ⟨byte, rest⟩
      · exact isScalar_replacement
      · rw [finishPoint]
        split
        · rename_i haccepts
          simp only [Partial.accepts, Bool.and_eq_true, decide_eq_true_eq,
            UInt8.le_iff_toNat_le] at haccepts
          simp only [Partial.IsSafe, Nat.pow_zero, Nat.mul_one] at hsafe
          simp only [finishPoint, Partial.add, IsScalar]
          omega
        · exact isScalar_replacement
  | succ behind ih =>
      rcases bytes with _ | ⟨byte, rest⟩
      · exact isScalar_replacement
      · rw [finishPoint]
        split
        · rename_i haccepts
          simp only [Partial.accepts, Bool.and_eq_true, decide_eq_true_eq,
            UInt8.le_iff_toNat_le] at haccepts
          have hhigh : (part.add byte).point * 0x40 + ((part.add byte).high.toNat - 0x80) =
              (part.point * 0x40 + (byte.toNat - 0x80)) * 0x40 + 0x3F := by
            simp [Partial.add]
          have hlow : (part.add byte).point * 0x40 + ((part.add byte).low.toNat - 0x80) =
              (part.point * 0x40 + (byte.toNat - 0x80)) * 0x40 := by
            simp [Partial.add]
          have hup : ((part.point * 0x40 + (byte.toNat - 0x80)) * 0x40 + 0x3F + 1) * 0x40 ^ behind ≤
              (part.point * 0x40 + (part.high.toNat - 0x80) + 1) * 0x40 ^ (behind + 1) := by
            rw [Nat.pow_succ, Nat.mul_comm (0x40 ^ behind), ← Nat.mul_assoc]
            exact Nat.mul_le_mul_right _ (by omega)
          have hdown : (part.point * 0x40 + (part.low.toNat - 0x80)) * 0x40 ^ (behind + 1) ≤
              ((part.point * 0x40 + (byte.toNat - 0x80)) * 0x40) * 0x40 ^ behind := by
            rw [Nat.pow_succ, Nat.mul_comm (0x40 ^ behind), ← Nat.mul_assoc]
            exact Nat.mul_le_mul_right _ (by omega)
          apply ih
          rw [Partial.IsSafe, hhigh, hlow]
          rcases hsafe with hbelow | ⟨habove, hwithin⟩
          · exact .inl (Nat.le_trans hup hbelow)
          · exact .inr ⟨Nat.le_trans habove hdown, Nat.le_trans hup hwithin⟩
        · exact isScalar_replacement

/-- No first byte leads to a surrogate. -/
theorem lead?_isSafe (byte : UInt8) :
    ∀ part ∈ lead? byte, (part.needed = 0 → part.point < 0xD800) ∧
      (part.needed ≠ 0 → part.IsSafe (part.needed - 1)) := by
  have hall : ∀ n < 0x100, ∀ part ∈ lead? n.toUInt8, (part.needed = 0 → part.point < 0xD800) ∧
      (part.needed ≠ 0 → part.IsSafe (part.needed - 1)) := by
    decide +kernel
  have hbyte : byte.toNat.toUInt8 = byte := by simp
  exact hbyte ▸ hall byte.toNat byte.toNat_lt

/-- **A decoder gives no surrogates.** -/
theorem isScalar_of_mem_decodePoints {bytes : Bytes} {point : Nat}
    (hmem : point ∈ decodePoints bytes) : IsScalar point := by
  fun_induction decodePoints bytes with
  | case1 => cases hmem
  | case2 byte rest hlead ih =>
      rcases List.mem_cons.mp hmem with rfl | hmem
      · exact isScalar_replacement
      · exact ih hmem
  | case3 byte rest part hlead ih =>
      rcases List.mem_cons.mp hmem with rfl | hmem
      · obtain ⟨hzero, hsafe⟩ := lead?_isSafe byte part hlead
        by_cases hneeded : part.needed = 0
        · rw [hneeded]
          exact .inl (hzero hneeded)
        · obtain ⟨behind, hbehind⟩ := Nat.exists_eq_succ_of_ne_zero hneeded
          have hsafe := hsafe hneeded
          rw [hbehind, Nat.succ_sub_one] at hsafe
          rw [hbehind]
          exact isScalar_finishPoint_succ hsafe rest
      · exact ih hmem

end Utf8

end ResourceWatch
