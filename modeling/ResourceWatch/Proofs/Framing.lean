import ResourceWatch.Lines
import ResourceWatch.Proofs.Decoding

/-!
# Lines of bytes that come in pieces

Whatever is behind the last newline is all that the lines of further text depend on. So a buffer
that keeps only that text, and the decoder's unfinished character, finds the lines of the whole
text: the lines that a chunk completes are the new ones, and no cut shows in them.
-/

namespace ResourceWatch

namespace Text

theorem split_ne_nil (separator : UInt16) (text : Text) : split separator text ≠ [] := by
  cases text with
  | nil => simp [split]
  | cons u rest =>
      rw [split]
      split
      · simp
      · split <;> simp

/-- Further text goes on with the last part and leaves the others as they are. -/
theorem split_append (separator : UInt16) (first second : Text) :
    split separator (first ++ second) =
      (split separator first).dropLast ++
        split separator ((split separator first).getLast?.getD [] ++ second) := by
  induction first with
  | nil => simp [split]
  | cons u rest ih =>
      have hne := split_ne_nil separator rest
      by_cases hu : u = separator
      · simp only [List.cons_append, split, hu, if_true]
        rw [List.dropLast_cons_of_ne_nil hne, List.getLast?_cons, ih]
        simp [List.getLast?_eq_some_getLast hne]
      · simp only [List.cons_append, split, hu, if_false, ih]
        obtain ⟨part, others, hparts⟩ := List.exists_cons_of_ne_nil hne
        rw [hparts]
        cases others with
        | nil => simp [split, hu]
        | cons next others => simp

theorem split_of_not_mem {separator : UInt16} {text : Text} (hmem : separator ∉ text) :
    split separator text = [text] := by
  induction text with
  | nil => rfl
  | cons u rest ih =>
      simp only [List.mem_cons, not_or] at hmem
      have hu : u ≠ separator := fun heq => hmem.1 heq.symm
      simp [split, hu, ih hmem.2]

theorem split_line_append {separator : UInt16} {line : Text} (hmem : separator ∉ line)
    (rest : Text) :
    split separator (line ++ separator :: rest) = line :: split separator rest := by
  induction line with
  | nil => simp [split]
  | cons u line ih =>
      simp only [List.mem_cons, not_or] at hmem
      have hu : u ≠ separator := fun heq => hmem.1 heq.symm
      simp [split, hu, ih hmem.2]

theorem not_mem_of_mem_split {separator : UInt16} {text part : Text}
    (hpart : part ∈ split separator text) : separator ∉ part := by
  induction text generalizing part with
  | nil =>
      simp only [split, List.mem_singleton] at hpart
      simp [hpart]
  | cons u rest ih =>
      by_cases hu : u = separator
      · simp only [split, hu, if_true, List.mem_cons] at hpart
        rcases hpart with rfl | hpart
        · simp
        · exact ih hpart
      · obtain ⟨first, others, hparts⟩ := List.exists_cons_of_ne_nil (split_ne_nil separator rest)
        simp only [split, hu, if_false, hparts, List.mem_cons] at hpart
        rcases hpart with rfl | hpart
        · have hfirst : separator ∉ first := ih (by simp [hparts])
          simp [hfirst, Ne.symm hu]
        · exact ih (by simp [hparts, hpart])

end Text

namespace Lines

open Text

theorem keep_append (first second : List Text) :
    keep (first ++ second) = keep first ++ keep second := by
  simp [keep]

/-- The lines that further text completes are those of the unfinished line and that text. -/
theorem complete_append (first second : Text) :
    complete (first ++ second) = complete first ++ complete (unfinished first ++ second) := by
  simp only [complete, unfinished]
  rw [split_append, List.dropLast_append_of_ne_nil (split_ne_nil _ _), keep_append]

theorem unfinished_append (first second : Text) :
    unfinished (first ++ second) = unfinished (unfinished first ++ second) := by
  simp only [unfinished]
  rw [split_append, List.getLast?_append]
  simp [List.getLast?_eq_some_getLast (split_ne_nil _ _)]

theorem complete_of_not_mem {text : Text} (hmem : 0x0A ∉ text) : complete text = [] := by
  simp [complete, split_of_not_mem hmem, keep]

theorem unfinished_of_not_mem {text : Text} (hmem : 0x0A ∉ text) : unfinished text = text := by
  simp [unfinished, split_of_not_mem hmem]

theorem not_mem_unfinished (text : Text) : 0x0A ∉ unfinished text := by
  have hne := split_ne_nil 0x0A text
  rw [unfinished, List.getLast?_eq_some_getLast hne, Option.getD_some]
  exact not_mem_of_mem_split (List.getLast_mem hne)

@[simp]
theorem complete_nil : complete [] = [] := complete_of_not_mem (by simp)

@[simp]
theorem unfinished_nil : unfinished [] = [] := unfinished_of_not_mem (by simp)

theorem complete_append_of_not_mem (first : Text) {second : Text} (hmem : 0x0A ∉ second) :
    complete (first ++ second) = complete first := by
  have hrest : 0x0A ∉ unfinished first ++ second := by
    simpa using ⟨not_mem_unfinished first, hmem⟩
  rw [complete_append, complete_of_not_mem hrest, List.append_nil]

theorem complete_line_append {line : Text} (hmem : 0x0A ∉ line) (rest : Text) :
    complete (line ++ 0x0A :: rest) = keep [line] ++ complete rest := by
  rw [complete, split_line_append hmem, List.dropLast_cons_of_ne_nil (split_ne_nil _ _),
    ← List.singleton_append, keep_append, complete]

theorem unfinished_line_append {line : Text} (hmem : 0x0A ∉ line) (rest : Text) :
    unfinished (line ++ 0x0A :: rest) = unfinished rest := by
  rw [unfinished, split_line_append hmem, List.getLast?_cons, unfinished,
    List.getLast?_eq_some_getLast (split_ne_nil _ _)]
  rfl

end Lines

namespace LineBuffer

/-- **Cuts do not matter.** Two chunks, one after the other, complete the lines that their bytes
complete at once. -/
theorem feed_append (buffer : LineBuffer) (first second : Bytes) :
    buffer.feed (first ++ second) =
      (((buffer.feed first).1.feed second).1,
        (buffer.feed first).2 ++ ((buffer.feed first).1.feed second).2) := by
  simp only [feed, Utf8.Decoder.read_append, ← List.append_assoc]
  rw [Lines.complete_append (buffer.tail ++ _), Lines.unfinished_append (buffer.tail ++ _)]

theorem not_mem_finish (decoder : Utf8.Decoder) : 0x0A ∉ decoder.finish := by
  unfold Utf8.Decoder.finish
  cases decoder.unfinished with
  | none => simp
  | some part =>
      change 0x0A ∉ Text.ofCodePoint Text.replacement
      decide

theorem feed_empty_snd (bytes : Bytes) :
    (({} : LineBuffer).feed bytes).2 = Lines.complete (Utf8.decode bytes) := by
  rw [Utf8.decode_eq_read, Lines.complete_append_of_not_mem _ (not_mem_finish _)]
  simp [feed]

/-- The text that a buffer holds back is what is behind the last newline of the whole text. -/
theorem terminate_feed_empty (bytes : Bytes) :
    (({} : LineBuffer).feed bytes).1.terminate.2 = Lines.unfinished (Utf8.decode bytes) := by
  rw [Utf8.decode_eq_read, Lines.unfinished_append, Lines.unfinished_of_not_mem]
  · simp [feed, terminate]
  · simpa using ⟨Lines.not_mem_unfinished _, not_mem_finish _⟩

/-- Lines that are complete stay as they are when more bytes come. -/
theorem complete_decode_isPrefix {first whole : Bytes} (hinitial : first <+: whole) :
    Lines.complete (Utf8.decode first) <+: Lines.complete (Utf8.decode whole) := by
  obtain ⟨rest, rfl⟩ := hinitial
  rw [← feed_empty_snd, ← feed_empty_snd, feed_append]
  exact List.prefix_append _ _

end LineBuffer

end ResourceWatch
