import ResourceWatch.Text.Utf8

/-!
# Decoding bytes as they come

A decoder that is fed a byte string in pieces gives the text of the whole byte string, wherever the
cuts lie. `Decoder.scan` is the reader without its rule for the byte order mark: the code points
that some bytes complete, and the character that they leave unfinished. The one-shot decoder and the
incremental one are both read off it.
-/

namespace ResourceWatch

namespace Text

@[simp]
theorem ofCodePoints_nil : ofCodePoints [] = [] := rfl

theorem ofCodePoints_append (first second : List Nat) :
    ofCodePoints (first ++ second) = ofCodePoints first ++ ofCodePoints second := by
  simp [ofCodePoints]

end Text

namespace Utf8

@[simp]
theorem dropMark_nil : dropMark [] = [] := rfl

theorem dropMark_append {first : List Nat} (second : List Nat) (hne : first ≠ []) :
    dropMark (first ++ second) = dropMark first ++ second := by
  cases first with
  | nil => exact absurd rfl hne
  | cons point rest =>
      simp only [List.cons_append, dropMark]
      split <;> rfl

namespace Decoder

/-- The code points that bytes complete behind an unfinished character, and what they leave
unfinished. -/
def scan (unfinished : Option Partial) : Bytes → Option Partial × List Nat
  | [] => (unfinished, [])
  | byte :: rest =>
    ((scan (points unfinished byte).1 rest).1,
      (points unfinished byte).2 ++ (scan (points unfinished byte).1 rest).2)

/-- The code points that stand for what is left unfinished. -/
def leftover : Option Partial → List Nat
  | none => []
  | some _ => [Text.replacement]

/-- All the code points of bytes behind an unfinished character. -/
def flush (scanned : Option Partial × List Nat) : List Nat :=
  scanned.2 ++ leftover scanned.1

@[simp]
theorem scan_nil (unfinished : Option Partial) : scan unfinished [] = (unfinished, []) := rfl

theorem flush_scan_cons (unfinished : Option Partial) (byte : UInt8) (rest : Bytes) :
    flush (scan unfinished (byte :: rest)) =
      (points unfinished byte).2 ++ flush (scan (points unfinished byte).1 rest) := by
  simp [flush, scan]

/-- A byte that does not go on with a character is read as if it came first. -/
theorem flush_scan_of_not_accepts {part : Partial} {byte : UInt8}
    (hrefused : part.accepts byte = false) (rest : Bytes) :
    flush (scan (some part) (byte :: rest)) =
      Text.replacement :: flush (scan none (byte :: rest)) := by
  simp [flush_scan_cons, points, hrefused]

end Decoder

open Decoder

/-- The two readers agree between two characters and within one. The second half is what the first
one needs behind a first byte that announces more. -/
theorem decodePoints_and_finishPoint (bytes : Bytes) :
    decodePoints bytes = flush (scan none bytes) ∧
      ∀ (part : Partial) (needed : Nat), part.needed = needed + 1 →
        (finishPoint part (needed + 1) bytes).1 ::
            decodePoints (finishPoint part (needed + 1) bytes).2 =
          flush (scan (some part) bytes) := by
  induction bytes with
  | nil => simp [decodePoints, finishPoint, flush, leftover]
  | cons byte rest ih =>
      obtain ⟨ihBetween, ihWithin⟩ := ih
      have hbetween : decodePoints (byte :: rest) = flush (scan none (byte :: rest)) := by
        rw [decodePoints, flush_scan_cons]
        simp only [points, begin]
        cases hlead : lead? byte with
        | none => simp [ihBetween]
        | some part =>
            cases hneeded : part.needed with
            | zero => simp [hneeded, finishPoint, ihBetween]
            | succ needed => simp [hneeded, ihWithin part needed hneeded]
      refine ⟨hbetween, fun part needed hneeded => ?_⟩
      cases haccepts : part.accepts byte with
      | false => simp [finishPoint, haccepts, hbetween, flush_scan_of_not_accepts]
      | true =>
          rw [flush_scan_cons]
          cases needed with
          | zero => simp [finishPoint, haccepts, points, hneeded, ihBetween]
          | succ needed =>
              have hnext : (part.add byte).needed = needed + 1 := by simp [Partial.add, hneeded]
              simp [finishPoint, haccepts, points, hneeded, ihWithin _ needed hnext]

theorem decodePoints_eq_flush (bytes : Bytes) : decodePoints bytes = flush (scan none bytes) :=
  (decodePoints_and_finishPoint bytes).1

namespace Decoder

/-- The rule for the byte order mark, for all code points that some bytes complete. -/
def strip (decoder : Decoder) (points : List Nat) : List Nat :=
  if decoder.started then points else dropMark points

theorem strip_append (decoder : Decoder) (first second : List Nat) :
    decoder.strip (first ++ second) =
      decoder.strip first ++
        strip ⟨decoder.unfinished, decoder.started || !first.isEmpty⟩ second := by
  cases first with
  | nil => simp [strip]
  | cons point rest =>
      simp only [strip, List.isEmpty_cons, Bool.not_false, Bool.or_true, if_true]
      split
      · rfl
      · exact dropMark_append second (by simp)

theorem feed_eq (decoder : Decoder) (byte : UInt8) :
    decoder.feed byte =
      (⟨(points decoder.unfinished byte).1,
          decoder.started || !(points decoder.unfinished byte).2.isEmpty⟩,
        Text.ofCodePoints (decoder.strip (points decoder.unfinished byte).2)) := by
  unfold feed emit strip
  cases hstarted : decoder.started <;>
    cases hpoints : (points decoder.unfinished byte).2 <;> simp

/-- What a decoder gives for a chunk, and what it is after it, both read off the scan. -/
theorem read_eq_scan (decoder : Decoder) (bytes : Bytes) :
    decoder.read bytes =
      (⟨(scan decoder.unfinished bytes).1,
          decoder.started || !(scan decoder.unfinished bytes).2.isEmpty⟩,
        Text.ofCodePoints (decoder.strip (scan decoder.unfinished bytes).2)) := by
  induction bytes generalizing decoder with
  | nil => simp [read, strip]
  | cons byte rest ih =>
      have hstarted : ∀ first second : List Nat,
          (!(first ++ second).isEmpty) = (!first.isEmpty || !second.isEmpty) := by
        intro first second
        cases first <;> simp
      simp only [read, feed_eq, ih, scan, strip_append, Text.ofCodePoints_append, hstarted]
      simp [strip, Bool.or_assoc]

@[simp]
theorem read_nil (decoder : Decoder) : decoder.read [] = (decoder, []) := rfl

/-- **Cuts do not matter.** Two chunks, one after the other, are read like their bytes at once. -/
theorem read_append (decoder : Decoder) (first second : Bytes) :
    decoder.read (first ++ second) =
      (((decoder.read first).1.read second).1,
        (decoder.read first).2 ++ ((decoder.read first).1.read second).2) := by
  induction first generalizing decoder with
  | nil => simp
  | cons byte rest ih => simp [read, ih]

theorem finish_eq (decoder : Decoder) :
    decoder.finish = Text.ofCodePoints (leftover decoder.unfinished) := by
  unfold finish leftover
  cases decoder.unfinished <;> simp [Text.ofCodePoints]

end Decoder

/-- The text of a whole byte string is what a new decoder reads in it, and the mark for a character
that is never finished. -/
theorem decode_eq_read (bytes : Bytes) :
    decode bytes = (({} : Decoder).read bytes).2 ++ (({} : Decoder).read bytes).1.finish := by
  rw [decode, decodePoints_eq_flush, read_eq_scan, finish_eq, ← Text.ofCodePoints_append]
  simp only [flush, strip, Bool.false_eq_true, if_false]
  congr 1
  cases hpoints : (scan none bytes).2 with
  | cons point rest => exact dropMark_append _ (by simp)
  | nil =>
      cases (scan none bytes).1 with
      | none => rfl
      | some part => rfl

end Utf8

end ResourceWatch
