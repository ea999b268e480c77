import ResourceWatch.Text.Utf8

/-!
# Text in UTF-8 and back

A well-formed text is given by its code points, these by their bytes, and a reader of the bytes gets
the code points back. A text that is not well-formed comes back repaired.
-/

namespace ResourceWatch

namespace Text

/-- A code point that is no surrogate. -/
def IsScalar (point : Nat) : Prop :=
  point < 0xD800 ∨ 0xE000 ≤ point ∧ point < 0x110000

theorem isHighSurrogate_iff (u : UInt16) :
    isHighSurrogate u = true ↔ 0xD800 ≤ u.toNat ∧ u.toNat < 0xDC00 := by
  simp [isHighSurrogate, UInt16.le_iff_toNat_le, UInt16.lt_iff_toNat_lt]

theorem isLowSurrogate_iff (u : UInt16) :
    isLowSurrogate u = true ↔ 0xDC00 ≤ u.toNat ∧ u.toNat < 0xE000 := by
  simp [isLowSurrogate, UInt16.le_iff_toNat_le, UInt16.lt_iff_toNat_lt]

theorem codePoints_cons_of_not_surrogate {u : UInt16} (hhigh : isHighSurrogate u = false)
    (hlow : isLowSurrogate u = false) (rest : Text) :
    codePoints (u :: rest) = u.toNat :: codePoints rest := by
  rw [codePoints.eq_def]
  simp [hhigh, hlow]

theorem codePoints_cons_of_low {u : UInt16} (hhigh : isHighSurrogate u = false)
    (hlow : isLowSurrogate u = true) (rest : Text) :
    codePoints (u :: rest) = replacement :: codePoints rest := by
  rw [codePoints.eq_def]
  simp [hhigh, hlow]

/-- Code points do not run over a boundary behind which no low surrogate stands. -/
theorem codePoints_append (first : Text) {second : Text}
    (hsecond : ∀ u ∈ second.head?, isLowSurrogate u = false) :
    codePoints (first ++ second) = codePoints first ++ codePoints second := by
  fun_induction codePoints first with
  | case1 => rfl
  | case2 high hhigh low rest hlow ih => simp [codePoints, hhigh, hlow, ih]
  | case3 high hhigh low rest hlow ih =>
      simp only [List.cons_append] at ih ⊢
      rw [codePoints, if_pos hhigh]
      simp [hlow, ih]
  | case4 high hhigh =>
      cases second with
      | nil => simp [codePoints, hhigh]
      | cons low rest =>
          have hlow : isLowSurrogate low = false := hsecond low rfl
          simp [codePoints, hhigh, hlow]
  | case5 high rest hhigh hlow ih =>
      rw [List.cons_append, codePoints_cons_of_low (by simpa using hhigh) hlow, ih,
        List.cons_append]
  | case6 high rest hhigh hlow ih =>
      rw [List.cons_append, codePoints_cons_of_not_surrogate (by simpa using hhigh)
        (by simpa using hlow), ih, List.cons_append]

theorem codePoints_of_lt {text : Text} (htext : ∀ u ∈ text, u.toNat < 0xD800) :
    codePoints text = text.map UInt16.toNat := by
  induction text with
  | nil => rfl
  | cons u rest ih =>
      obtain ⟨hu, hrest⟩ := List.forall_mem_cons.mp htext
      have hhigh : isHighSurrogate u = false := by
        rw [Bool.eq_false_iff, ne_eq, isHighSurrogate_iff]
        omega
      have hlow : isLowSurrogate u = false := by
        rw [Bool.eq_false_iff, ne_eq, isLowSurrogate_iff]
        omega
      rw [codePoints_cons_of_not_surrogate hhigh hlow, ih hrest, List.map_cons]

theorem isScalar_replacement : IsScalar replacement := by
  unfold IsScalar replacement
  omega

theorem isScalar_of_mem_codePoints {text : Text} {point : Nat} (hmem : point ∈ text.codePoints) :
    IsScalar point := by
  fun_induction codePoints text with
  | case1 => simp at hmem
  | case2 high hhigh low rest hlow ih =>
      rw [isHighSurrogate_iff] at hhigh
      rw [isLowSurrogate_iff] at hlow
      rcases List.mem_cons.mp hmem with heq | hmem
      · unfold pairPoint at heq
        unfold IsScalar
        omega
      · exact ih hmem
  | case3 high hhigh low rest hlow ih =>
      rcases List.mem_cons.mp hmem with rfl | hmem
      · exact isScalar_replacement
      · exact ih hmem
  | case4 high hhigh =>
      rw [List.mem_singleton.mp hmem]
      exact isScalar_replacement
  | case5 high rest hhigh hlow ih =>
      rcases List.mem_cons.mp hmem with rfl | hmem
      · exact isScalar_replacement
      · exact ih hmem
  | case6 high rest hhigh hlow ih =>
      rw [isHighSurrogate_iff] at hhigh
      rw [isLowSurrogate_iff] at hlow
      rcases List.mem_cons.mp hmem with rfl | hmem
      · have hlt := high.toNat_lt
        unfold IsScalar
        omega
      · exact ih hmem

theorem ofCodePoint_toNat (u : UInt16) : ofCodePoint u.toNat = [u] := by
  have hlt := u.toNat_lt
  simp [ofCodePoint, Nat.toUInt16]
  omega

theorem ofCodePoint_pairPoint {high low : UInt16} (hhigh : isHighSurrogate high = true)
    (hlow : isLowSurrogate low = true) : ofCodePoint (pairPoint high low) = [high, low] := by
  rw [isHighSurrogate_iff] at hhigh
  rw [isLowSurrogate_iff] at hlow
  have hpoint : ¬pairPoint high low < 0x10000 := by
    unfold pairPoint
    omega
  rw [ofCodePoint, if_neg hpoint]
  have hhigh' : (pairPoint high low - 0x10000) / 0x400 + 0xD800 = high.toNat := by
    unfold pairPoint
    omega
  have hlow' : (pairPoint high low - 0x10000) % 0x400 + 0xDC00 = low.toNat := by
    unfold pairPoint
    omega
  rw [hhigh', hlow']
  simp [Nat.toUInt16]

/-- **A well-formed text is told by its code points.** -/
theorem ofCodePoints_codePoints {text : Text} (hformed : text.isWellFormed = true) :
    ofCodePoints text.codePoints = text := by
  fun_induction codePoints text with
  | case1 => rfl
  | case2 high hhigh low rest hlow ih =>
      have hrest : isWellFormed rest = true := by
        simpa [isWellFormed, hhigh, hlow] using hformed
      have hpair := ofCodePoint_pairPoint hhigh hlow
      rw [ofCodePoints] at ih ⊢
      rw [List.flatMap_cons, ih hrest, hpair]
      rfl
  | case3 high hhigh low rest hlow ih => simp [isWellFormed, hhigh, hlow] at hformed
  | case4 high hhigh => simp [isWellFormed, hhigh] at hformed
  | case5 high rest hhigh hlow ih =>
      rw [isWellFormed.eq_def] at hformed
      simp [hhigh, hlow] at hformed
  | case6 high rest hhigh hlow ih =>
      have hrest : isWellFormed rest = true := by
        rw [isWellFormed.eq_def] at hformed
        simpa [hhigh, hlow] using hformed
      rw [ofCodePoints] at ih ⊢
      rw [List.flatMap_cons, ih hrest, ofCodePoint_toNat]
      rfl

theorem repair_of_lt {text : Text} (htext : ∀ u ∈ text, u.toNat < 0xD800) : text.repair = text := by
  rw [repair, codePoints_of_lt htext]
  clear htext
  induction text with
  | nil => rfl
  | cons u rest ih =>
      rw [ofCodePoints] at ih ⊢
      rw [List.map_cons, List.flatMap_cons, ofCodePoint_toNat, ih, List.singleton_append]

end Text

namespace Utf8

open Text

theorem toNat_toUInt8 {n : Nat} (hn : n < 0x100) : n.toUInt8.toNat = n := by
  rw [Nat.toUInt8, UInt8.toNat_ofNat', Nat.mod_eq_of_lt hn]

theorem lead?_ascii {n : Nat} (hn : n < 0x80) : lead? n.toUInt8 = some ⟨0, 0x80, 0xBF, n⟩ := by
  revert n
  decide

theorem lead?_two {n : Nat} (hhigh : n < 0xE0) (hlow : 0xC2 ≤ n) :
    lead? n.toUInt8 = some ⟨1, 0x80, 0xBF, n - 0xC0⟩ := by
  revert n
  decide +kernel

theorem lead?_three {n : Nat} (hhigh : n < 0xF0) (hlow : 0xE0 ≤ n) :
    lead? n.toUInt8 = some ⟨2, if n = 0xE0 then 0xA0 else 0x80, if n = 0xED then 0x9F else 0xBF,
      n - 0xE0⟩ := by
  revert n
  decide +kernel

theorem lead?_four {n : Nat} (hhigh : n < 0xF5) (hlow : 0xF0 ≤ n) :
    lead? n.toUInt8 = some ⟨3, if n = 0xF0 then 0x90 else 0x80, if n = 0xF4 then 0x8F else 0xBF,
      n - 0xF0⟩ := by
  revert n
  decide +kernel

theorem finishPoint_succ {part : Partial} {n : Nat} (needed : Nat) (rest : Bytes) (hn : n < 0x100)
    (hlow : part.low.toNat ≤ n) (hhigh : n ≤ part.high.toNat) :
    finishPoint part (needed + 1) (n.toUInt8 :: rest) =
      finishPoint ⟨part.needed - 1, 0x80, 0xBF, part.point * 0x40 + (n - 0x80)⟩ needed rest := by
  have haccepts : part.accepts n.toUInt8 = true := by
    simp [Partial.accepts, UInt8.le_iff_toNat_le, toNat_toUInt8 hn, hlow, hhigh]
  rw [finishPoint, if_pos haccepts, Partial.add, toNat_toUInt8 hn]

/-- **A code point is read back from its bytes.** -/
theorem decodePoints_encodePoint_append {point : Nat} (hscalar : IsScalar point) (rest : Bytes) :
    decodePoints (encodePoint point ++ rest) = point :: decodePoints rest := by
  unfold IsScalar at hscalar
  unfold encodePoint
  -- One case for each number of bytes. The second byte has the bounds that the first one sets.
  split
  · rename_i hone
    rw [List.cons_append, decodePoints, lead?_ascii hone]
    rfl
  split
  · rename_i htwo
    rw [List.cons_append, decodePoints, lead?_two (by omega) (by omega)]
    simp only [List.cons_append, List.nil_append]
    rw [finishPoint_succ 0 rest (by omega) (by simp) (by simp; omega)]
    have hpoint : (0xC0 + point / 0x40 - 0xC0) * 0x40 + (0x80 + point % 0x40 - 0x80) = point := by
      omega
    simp only [finishPoint, hpoint]
  split
  · rename_i hthree
    have hsecond : (if 0xE0 + point / 0x1000 = 0xE0 then (0xA0 : UInt8) else 0x80).toNat ≤
          0x80 + point / 0x40 % 0x40 ∧
        0x80 + point / 0x40 % 0x40 ≤
          (if 0xE0 + point / 0x1000 = 0xED then (0x9F : UInt8) else 0xBF).toNat := by
      constructor
      · split <;> simp
        omega
      · split <;> simp <;> omega
    rw [List.cons_append, decodePoints, lead?_three (by omega) (by omega)]
    simp only [List.cons_append, List.nil_append]
    rw [finishPoint_succ 1 _ (by omega) hsecond.1 hsecond.2,
      finishPoint_succ 0 rest (by omega) (by simp) (by simp; omega)]
    have hpoint :
        ((0xE0 + point / 0x1000 - 0xE0) * 0x40 + (0x80 + point / 0x40 % 0x40 - 0x80)) * 0x40 +
        (0x80 + point % 0x40 - 0x80) = point := by
      omega
    simp only [finishPoint, hpoint]
  · rename_i hfour
    have hsecond : (if 0xF0 + point / 0x40000 = 0xF0 then (0x90 : UInt8) else 0x80).toNat ≤
          0x80 + point / 0x1000 % 0x40 ∧
        0x80 + point / 0x1000 % 0x40 ≤
          (if 0xF0 + point / 0x40000 = 0xF4 then (0x8F : UInt8) else 0xBF).toNat := by
      constructor
      · split <;> simp
        omega
      · split <;> simp <;> omega
    rw [List.cons_append, decodePoints, lead?_four (by omega) (by omega)]
    simp only [List.cons_append, List.nil_append]
    rw [finishPoint_succ 2 _ (by omega) hsecond.1 hsecond.2,
      finishPoint_succ 1 _ (by omega) (by simp) (by simp; omega),
      finishPoint_succ 0 rest (by omega) (by simp) (by simp; omega)]
    have hpoint :
        (((0xF0 + point / 0x40000 - 0xF0) * 0x40 + (0x80 + point / 0x1000 % 0x40 - 0x80)) * 0x40 +
        (0x80 + point / 0x40 % 0x40 - 0x80)) * 0x40 + (0x80 + point % 0x40 - 0x80) = point := by
      omega
    simp only [finishPoint, hpoint]

theorem decodePoints_flatMap {points : List Nat} (hpoints : ∀ point ∈ points, IsScalar point)
    (rest : Bytes) :
    decodePoints (points.flatMap encodePoint ++ rest) = points ++ decodePoints rest := by
  induction points with
  | nil => rfl
  | cons point others ih =>
      obtain ⟨hpoint, hothers⟩ := List.forall_mem_cons.mp hpoints
      rw [List.flatMap_cons, List.append_assoc, decodePoints_encodePoint_append hpoint, ih hothers,
        List.cons_append]

/-- **What is written is read back.** -/
theorem decodePoints_encode_append (text : Text) (rest : Bytes) :
    decodePoints (encode text ++ rest) = text.codePoints ++ decodePoints rest :=
  decodePoints_flatMap (fun _ hmem => isScalar_of_mem_codePoints hmem) rest

theorem head?_codePoints_ne_mark {text : Text} (hhead : text.head? ≠ some 0xFEFF) :
    text.codePoints.head? ≠ some byteOrderMark := by
  fun_cases codePoints text with
  | case1 => simp
  | case2 high hhigh low rest hlow =>
      simp only [List.head?_cons, ne_eq, Option.some.injEq]
      unfold pairPoint byteOrderMark
      omega
  | case3 => simp [replacement, byteOrderMark]
  | case4 => simp [replacement, byteOrderMark]
  | case5 => simp [replacement, byteOrderMark]
  | case6 unit rest hhigh hlow =>
      simp only [List.head?_cons, ne_eq, Option.some.injEq] at hhead ⊢
      rw [← UInt16.toNat_inj] at hhead
      exact hhead

theorem dropMark_of_head {points : List Nat} (hhead : points.head? ≠ some byteOrderMark) :
    dropMark points = points := by
  cases points with
  | nil => rfl
  | cons point rest =>
      rw [dropMark, if_neg]
      simpa using hhead

theorem decodePoints_encode (text : Text) : decodePoints (encode text) = text.codePoints := by
  have happend := decodePoints_encode_append text []
  rwa [List.append_nil, decodePoints, List.append_nil] at happend

/-- **A well-formed text is read back from its bytes.** -/
theorem decode_encode {text : Text} (hformed : text.isWellFormed = true)
    (hmark : text.head? ≠ some 0xFEFF) : decode (encode text) = text := by
  rw [decode, decodePoints_encode, dropMark_of_head (head?_codePoints_ne_mark hmark),
    ofCodePoints_codePoints hformed]

/-- A mark in front of the text is not part of what is read. -/
theorem decode_encode_mark {text : Text} (hformed : text.isWellFormed = true) :
    decode (encode (0xFEFF :: text)) = text := by
  have hpoints : codePoints (0xFEFF :: text) = byteOrderMark :: text.codePoints :=
    codePoints_cons_of_not_surrogate (by decide) (by decide) text
  rw [decode, decodePoints_encode, hpoints, dropMark, if_pos (by decide),
    ofCodePoints_codePoints hformed]

end Utf8

end ResourceWatch
