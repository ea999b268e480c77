import ResourceWatch.Proofs.Framing

/-!
# The life of a line buffer

A buffer takes chunks until it is terminated. Up to then it stands for the bytes of all chunks so
far: what it released, what it holds back and its state are read off the decoding of these bytes at
once. Behind its end it stays as it is.
-/

namespace ResourceWatch

/-- The text of bytes behind which more may come: an unfinished character is left out. -/
def Utf8.decoded (bytes : Bytes) : Text :=
  (({} : Utf8.Decoder).read bytes).2

/-- What is decoded so far is the text of the bytes but for the mark that stands for an unfinished
character. -/
theorem Utf8.decode_eq_decoded (bytes : Bytes) :
    Utf8.decode bytes = Utf8.decoded bytes ∨ Utf8.decode bytes = Utf8.decoded bytes ++ [0xFFFD] := by
  rw [Utf8.decode_eq_read, Utf8.decoded, Utf8.Decoder.finish]
  cases (({} : Utf8.Decoder).read bytes).1.unfinished with
  | none => exact Or.inl (List.append_nil _)
  | some part => exact Or.inr rfl

namespace LineBuffer

/-- Takes one chunk after another, and gives all lines that they complete. -/
def pushAll? (buffer : LineBuffer) : List Bytes → Option (LineBuffer × List Text)
  | [] => some (buffer, [])
  | chunk :: rest =>
    match buffer.push? chunk with
    | none => none
    | some (next, lines) => (next.pushAll? rest).map fun (last, more) => (last, lines ++ more)

inductive Action where
  | push (chunk : Bytes)
  | terminate

inductive Answer where
  | released (lines : List Text)
  | refused
  | discarded (tail : Text)

/-- Does something with a buffer. A chunk that is refused leaves the buffer as it is. -/
def act (buffer : LineBuffer) : Action → LineBuffer × Answer
  | .push chunk =>
    match buffer.push? chunk with
    | some (next, lines) => (next, .released lines)
    | none => (buffer, .refused)
  | .terminate => (buffer.terminate.1, .discarded buffer.terminate.2)

/-- Does one thing after another with a buffer, and gives the answers with the state behind each. -/
def actAll (buffer : LineBuffer) : List Action → LineBuffer × List (Answer × State)
  | [] => (buffer, [])
  | action :: rest =>
    let (next, answer) := buffer.act action
    let (last, answers) := next.actAll rest
    (last, (answer, next.state) :: answers)

/-- What a buffer answers that was terminated. -/
def answerBehind : Action → Answer
  | .push _ => .refused
  | .terminate => .discarded []

/-- A buffer that has taken these bytes and released these lines. -/
structure Represents (buffer : LineBuffer) (bytes : Bytes) (released : List Text) : Prop where
  released : released = Lines.complete (Utf8.decode bytes)
  decoded : Utf8.decode bytes = Utf8.decoded bytes ∨
    Utf8.decode bytes = Utf8.decoded bytes ++ [0xFFFD]
  accumulating : buffer.state = .accumulating ↔ Lines.unfinished (Utf8.decoded bytes) ≠ []
  awaiting : buffer.state = .awaiting ↔ Lines.unfinished (Utf8.decoded bytes) = []
  tail : buffer.terminate.2 = Lines.unfinished (Utf8.decode bytes)
  /-- Behind its end the buffer stays as it is, whatever is done with it. -/
  behind : buffer.terminate.1.state = .terminated ∧ ∀ actions,
    buffer.terminate.1.actAll actions =
      (buffer.terminate.1, actions.map fun action => (answerBehind action, .terminated))

/-- A buffer that takes chunks and holds back no whole line. -/
def IsOpen (buffer : LineBuffer) : Prop :=
  buffer.terminated = false ∧ 0x0A ∉ buffer.tail

variable {buffer : LineBuffer}

theorem IsOpen.feed (hopen : buffer.IsOpen) (chunk : Bytes) : (buffer.feed chunk).1.IsOpen :=
  ⟨hopen.1, Lines.not_mem_unfinished _⟩

theorem IsOpen.feed_nil (hopen : buffer.IsOpen) : buffer.feed [] = (buffer, []) := by
  obtain ⟨-, htail⟩ := hopen
  rw [LineBuffer.feed, Utf8.Decoder.read_nil]
  simp only [List.append_nil, Lines.unfinished_of_not_mem htail, Lines.complete_of_not_mem htail]

/-- **Chunks are taken like their bytes at once**, and none is refused. -/
theorem IsOpen.pushAll?_eq (hopen : buffer.IsOpen) (chunks : List Bytes) :
    buffer.pushAll? chunks = some (buffer.feed chunks.flatten) := by
  induction chunks generalizing buffer with
  | nil => rw [pushAll?, List.flatten_nil, hopen.feed_nil]
  | cons chunk rest ih =>
      have hpush : buffer.push? chunk = some (buffer.feed chunk) := by simp [push?, hopen.1]
      rw [pushAll?, hpush, List.flatten_cons, feed_append]
      simp only [ih (hopen.feed chunk), Option.map_some]

theorem isOpen_empty : IsOpen {} := ⟨rfl, List.not_mem_nil⟩

/-- A buffer is terminated once and for all. -/
theorem actAll_of_terminated (actions : List Action) :
    ({ terminated := true } : LineBuffer).actAll actions =
      ({ terminated := true }, actions.map fun action => (answerBehind action, .terminated)) := by
  induction actions with
  | nil => rfl
  | cons action rest ih =>
      cases action with
      | push chunk => simp only [actAll, act, push?, if_true, ih, List.map_cons, answerBehind]; rfl
      | terminate => simp only [actAll, act, terminate]; rw [ih]; rfl

theorem state_eq_accumulating_iff (hopen : buffer.IsOpen) :
    buffer.state = .accumulating ↔ buffer.tail ≠ [] := by
  rw [state, hopen.1]
  cases buffer.tail <;> simp

theorem state_eq_awaiting_iff (hopen : buffer.IsOpen) :
    buffer.state = .awaiting ↔ buffer.tail = [] := by
  rw [state, hopen.1]
  cases buffer.tail <;> simp

/-- **A buffer shows nothing of how its bytes were cut.** Any chunks, valid UTF-8 or not, are
taken. Together they release the lines of their bytes decoded at once, and leave the buffer with
the text behind the last newline, which it gives up when it is terminated. -/
theorem pushAll_represents (chunks : List Bytes) :
    ∃ buffer released, ({} : LineBuffer).pushAll? chunks = some (buffer, released) ∧
      buffer.Represents chunks.flatten released := by
  have hopen := isOpen_empty.feed chunks.flatten
  have htail : (({} : LineBuffer).feed chunks.flatten).1.tail =
      Lines.unfinished (Utf8.decoded chunks.flatten) := rfl
  refine ⟨_, _, isOpen_empty.pushAll?_eq chunks, ?_⟩
  exact {
    released := feed_empty_snd _
    decoded := Utf8.decode_eq_decoded _
    accumulating := htail ▸ state_eq_accumulating_iff hopen
    awaiting := htail ▸ state_eq_awaiting_iff hopen
    tail := terminate_feed_empty _
    behind := ⟨rfl, actAll_of_terminated⟩ }

end LineBuffer

end ResourceWatch
