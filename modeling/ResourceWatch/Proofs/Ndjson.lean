import ResourceWatch.Proofs.Buffering
import ResourceWatch.Proofs.Encoding
import ResourceWatch.Proofs.Json.RoundTrip

/-!
# JSON values as lines of bytes

Values are written on lines of their own, with blank lines anywhere between them. A line buffer
takes the bytes in pieces, and the lines that it releases are read as the values.
-/

namespace ResourceWatch.Ndjson

open Text

/-- What stands on a line. -/
inductive Content where
  | json (value : Json)
  | blank (blanks : Text)

def Content.text : Content → Text
  | .json value => Json.print value
  | .blank blanks => blanks

def Content.value? : Content → Option Json
  | .json value => some value
  | .blank _ => none

/-- A value as JSON holds it, or nothing but blanks on one line. -/
def Content.IsFormed : Content → Prop
  | .json value => Json.IsValue value
  | .blank blanks => (∀ u ∈ blanks, isBlank u = true) ∧ 0x0A ∉ blanks

/-- A line ends with a newline, which a carriage return may stand in front of. -/
structure Line where
  content : Content
  carriage : Bool := false

namespace Line

def ending (line : Line) : Text :=
  if line.carriage then [0x0D] else []

def text (line : Line) : Text :=
  line.content.text ++ (line.ending ++ [0x0A])

end Line

def text (lines : List Line) : Text :=
  lines.flatMap Line.text

/-- The values on the lines. -/
def values (lines : List Line) : List Json :=
  lines.filterMap fun line => line.content.value?

variable {line : Line} {lines : List Line} {content : Content}

/-! ### Blanks -/

theorem not_surrogate_of_isBlank {u : UInt16} (hblank : isBlank u = true) :
    isHighSurrogate u = false ∧ isLowSurrogate u = false := by
  have hseparators :
      (spaceSeparators.all fun v => !isHighSurrogate v && !isLowSurrogate v) = true := by
    decide
  simp only [isBlank, Bool.or_eq_true, Bool.and_eq_true, decide_eq_true_eq,
    UInt16.le_iff_toNat_le, List.contains_iff_mem] at hblank
  rcases hblank with ((((hcontrol | rfl) | rfl) | rfl) | rfl) | hmem
  · have hlt : u.toNat < 0xD800 := Nat.lt_of_le_of_lt hcontrol.2 (by decide)
    rw [Bool.eq_false_iff, Bool.eq_false_iff, ne_eq, ne_eq, isHighSurrogate_iff,
      isLowSurrogate_iff]
    omega
  · decide
  · decide
  · decide
  · decide
  · simpa using List.all_eq_true.mp hseparators u hmem

theorem isWellFormed_of_isBlank {text : Text} (hblank : ∀ u ∈ text, isBlank u = true) :
    text.isWellFormed = true := by
  induction text with
  | nil => rfl
  | cons u rest ih =>
      obtain ⟨hu, hrest⟩ := List.forall_mem_cons.mp hblank
      obtain ⟨hhigh, hlow⟩ := not_surrogate_of_isBlank hu
      rw [isWellFormed_cons_of_not_surrogate hhigh hlow]
      exact ih hrest

theorem trim_of_isBlank {text : Text} (hblank : ∀ u ∈ text, isBlank u = true) : trim text = [] := by
  have hnothing : text.dropWhile isBlank = [] := List.dropWhile_eq_nil_iff.mpr hblank
  rw [trim, hnothing]
  rfl

/-- A text that does not end with a carriage return stands on its line as it is. -/
theorem withoutReturn_append {text : Text} (hlast : text.getLast? ≠ some 0x0D) (carriage : Bool) :
    Lines.withoutReturn (text ++ if carriage then [0x0D] else []) = text := by
  cases carriage <;> simp [Lines.withoutReturn, hlast]

theorem keep_print (value : Json) (carriage : Bool) :
    Lines.keep [Json.print value ++ if carriage then [0x0D] else []] = [Json.print value] := by
  have hlast : (Json.print value).getLast? ≠ some 0x0D := fun hlast =>
    absurd ((Json.isPrintable_print value).visible _ (List.mem_of_getLast? hlast)) (by decide)
  have hblank : (trim (Json.print value)).isEmpty = false := by
    rw [Bool.eq_false_iff]
    intro hempty
    obtain ⟨first, rest, hprint, hstart⟩ := Json.exists_start_print value
    have hfirst := Json.isBlank_of_trim hempty first (by simp [hprint])
    rw [Json.isStart_of_isBlank hfirst] at hstart
    exact Bool.false_ne_true hstart
  simp [Lines.keep, withoutReturn_append hlast, hblank]

theorem keep_blank {text : Text} (hblank : ∀ u ∈ text, isBlank u = true) :
    Lines.keep [text] = [] := by
  have hrest : ∀ u ∈ Lines.withoutReturn text, isBlank u = true := by
    intro u hu
    rw [Lines.withoutReturn] at hu
    split at hu
    · exact hblank u (List.dropLast_subset _ hu)
    · exact hblank u hu
  simp [Lines.keep, trim_of_isBlank hrest]

/-! ### Lines -/

theorem Content.IsFormed.isWellFormed (hformed : content.IsFormed) :
    content.text.isWellFormed = true := by
  cases content with
  | json value => exact (Json.isPrintable_print value).formed
  | blank blanks => exact isWellFormed_of_isBlank hformed.1

theorem Content.IsFormed.not_mem_newline (hformed : content.IsFormed) : 0x0A ∉ content.text := by
  cases content with
  | json value => exact (Json.isPrintable_print value).not_mem_newline
  | blank blanks => exact hformed.2

/-- A line holds its value or nothing. -/
theorem keep_line (hformed : line.content.IsFormed) :
    Lines.keep [line.content.text ++ line.ending] = line.content.value?.toList.map Json.print := by
  cases hcontent : line.content with
  | json value => exact keep_print value line.carriage
  | blank blanks =>
      rw [hcontent] at hformed
      refine keep_blank fun u hu => ?_
      rcases List.mem_append.mp hu with hu | hu
      · exact hformed.1 u hu
      · rw [Line.ending] at hu
        split at hu
        · obtain rfl := List.mem_singleton.mp hu
          decide
        · simp at hu

theorem not_mem_newline_ending (line : Line) : 0x0A ∉ line.ending := by
  unfold Line.ending
  split <;> decide

theorem isWellFormed_line (hformed : line.content.IsFormed) : line.text.isWellFormed = true := by
  refine isWellFormed_append hformed.isWellFormed (isWellFormed_append ?_ rfl)
  unfold Line.ending
  split <;> rfl

theorem isWellFormed_text (hformed : ∀ line ∈ lines, line.content.IsFormed) :
    (text lines).isWellFormed = true := by
  induction lines with
  | nil => rfl
  | cons line rest ih =>
      obtain ⟨hline, hrest⟩ := List.forall_mem_cons.mp hformed
      exact isWellFormed_append (isWellFormed_line hline) (ih hrest)

theorem values_cons (line : Line) (rest : List Line) :
    values (line :: rest) = line.content.value?.toList ++ values rest := by
  rw [values, List.filterMap_cons, ← values]
  cases line.content.value? <;> rfl

/-- **The lines of the text hold the values**, and nothing is behind the last one. -/
theorem complete_text (hformed : ∀ line ∈ lines, line.content.IsFormed) :
    Lines.complete (text lines) = (values lines).map Json.print ∧
      Lines.unfinished (text lines) = [] := by
  induction lines with
  | nil => exact ⟨Lines.complete_nil, Lines.unfinished_nil⟩
  | cons line rest ih =>
      obtain ⟨hline, hrest⟩ := List.forall_mem_cons.mp hformed
      obtain ⟨hcomplete, hunfinished⟩ := ih hrest
      have hmem : 0x0A ∉ line.content.text ++ line.ending := by
        simpa using ⟨hline.not_mem_newline, not_mem_newline_ending line⟩
      have htext : text (line :: rest) =
          (line.content.text ++ line.ending) ++ 0x0A :: text rest := by
        simp [text, Line.text]
      rw [htext, Lines.complete_line_append hmem, Lines.unfinished_line_append hmem, hcomplete,
        hunfinished, keep_line hline, values_cons, List.map_append]
      exact ⟨rfl, rfl⟩

/-- The text of the bytes has the same values on its lines: only a mark in front of a first line
that is blank is lost. -/
theorem exists_decode_encode (hformed : ∀ line ∈ lines, line.content.IsFormed) :
    ∃ found, Utf8.decode (Utf8.encode (text lines)) = text found ∧ values found = values lines ∧
      ∀ line ∈ found, line.content.IsFormed := by
  by_cases hmark : (text lines).head? = some 0xFEFF
  · obtain ⟨after, htext⟩ := List.head?_eq_some_iff.mp hmark
    obtain ⟨⟨content, carriage⟩, rest, rfl⟩ : ∃ line rest, lines = line :: rest :=
      List.exists_cons_of_ne_nil fun hnil => by simp [hnil, text] at htext
    obtain ⟨hline, hrest⟩ := List.forall_mem_cons.mp hformed
    cases content with
    | json value =>
        obtain ⟨first, others, hprint, hstart⟩ := Json.exists_start_print value
        obtain rfl : first = 0xFEFF := by
          simpa [text, Line.text, Content.text, hprint] using congrArg List.head? htext
        exact absurd hstart (by decide)
    | blank blanks =>
        obtain ⟨others, rfl⟩ : ∃ others, blanks = 0xFEFF :: others := by
          cases blanks with
          | nil => cases carriage <;> simp [text, Line.text, Content.text, Line.ending] at htext
          | cons u others =>
              obtain rfl : u = 0xFEFF := by
                simpa [text, Line.text, Content.text] using congrArg List.head? htext
              exact ⟨others, rfl⟩
        have hothers : Content.IsFormed (.blank others) :=
          ⟨fun u hu => hline.1 u (List.mem_cons_of_mem _ hu), fun hmem =>
            hline.2 (List.mem_cons_of_mem _ hmem)⟩
        have hfound : ∀ line ∈ (⟨.blank others, carriage⟩ : Line) :: rest, line.content.IsFormed :=
          List.forall_mem_cons.mpr ⟨hothers, hrest⟩
        exact ⟨_, Utf8.decode_encode_mark (isWellFormed_text hfound), rfl, hfound⟩
  · exact ⟨lines, Utf8.decode_encode (isWellFormed_text hformed) hmark, rfl, hformed⟩

theorem records_print {list : List Json} (hlist : ∀ value ∈ list, Json.IsValue value) :
    (list.map Json.print).map Lines.record = list.map .ok := by
  rw [List.map_map]
  refine List.map_congr_left fun value hvalue => ?_
  rw [Function.comp_apply, Lines.record, Json.parse?_print (hlist value hvalue)]

theorem isValue_of_mem_values (hformed : ∀ line ∈ lines, line.content.IsFormed) :
    ∀ value ∈ values lines, Json.IsValue value := by
  intro value hvalue
  obtain ⟨line, hline, hcontent⟩ := List.mem_filterMap.mp hvalue
  have hformed := hformed line hline
  cases hline : line.content with
  | json found =>
      rw [hline] at hformed hcontent
      obtain rfl : found = value := by simpa [Content.value?] using hcontent
      exact hformed
  | blank blanks => simp [hline, Content.value?] at hcontent

/-- **What is written as lines is read back**, wherever the bytes are cut. -/
theorem pushAll_records (lines : List Line) (hformed : ∀ line ∈ lines, line.content.IsFormed)
    (chunks : List Bytes) (hchunks : chunks.flatten = Utf8.encode (text lines)) :
    ∃ buffer released, ({} : LineBuffer).pushAll? chunks = some (buffer, released) ∧
      released.map Lines.record = (values lines).map .ok ∧ buffer.terminate.2 = [] := by
  obtain ⟨found, hdecode, hvalues, hfound⟩ := exists_decode_encode hformed
  obtain ⟨hcomplete, hunfinished⟩ := complete_text hfound
  have hreleased : (({} : LineBuffer).feed chunks.flatten).2 = (values lines).map Json.print := by
    rw [LineBuffer.feed_empty_snd, hchunks, hdecode, hcomplete, hvalues]
  have htail : (({} : LineBuffer).feed chunks.flatten).1.terminate.2 = [] := by
    rw [LineBuffer.terminate_feed_empty, hchunks, hdecode, hunfinished]
  refine ⟨_, _, LineBuffer.isOpen_empty.pushAll?_eq chunks, ?_, htail⟩
  exact (congrArg (List.map Lines.record) hreleased).trans
    (records_print (isValue_of_mem_values hformed))

/-- A value, a blank line and another value, cut within a character and within a line's end. -/
theorem pushAll_records_cut :
    ∃ buffer released,
      ({} : LineBuffer).pushAll? [Utf8.encode "[null,\x7b\"k\":\"" ++ [0xC3],
        0xA9 :: Utf8.encode "\"\x7d]\r", Utf8.encode "\n\t\n\"x\"\n"] = some (buffer, released) ∧
      released.map Lines.record =
        [.ok (.arr [.null, .obj [("k", .str [0xE9])]]), .ok (.str "x")] ∧
      buffer.terminate.2 = [] := by
  have hobject : Json.IsValue (.obj [("k", .str [0xE9])]) :=
    .obj (List.pairwise_singleton _ _) (by simpa using Json.IsValue.str [0xE9])
  have harray : Json.IsValue (.arr [.null, .obj [("k", .str [0xE9])]]) :=
    .arr (by simpa using ⟨Json.IsValue.null, hobject⟩)
  refine pushAll_records [⟨.json (.arr [.null, .obj [("k", .str [0xE9])]]), true⟩,
    ⟨.blank [0x09], false⟩, ⟨.json (.str "x"), false⟩] ?_ _ (by decide +kernel)
  simp only [List.forall_mem_cons]
  exact ⟨harray, ⟨List.forall_mem_singleton.mpr (by decide), by decide⟩, .str _, by simp⟩

end ResourceWatch.Ndjson
