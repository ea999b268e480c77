import ResourceWatch.Proofs.Encoding
import ResourceWatch.Proofs.Framing
import ResourceWatch.Proofs.Json.Beginning
import ResourceWatch.Proofs.Watch.Changes

/-!
# Events as lines of bytes

A server writes each event as a JSON text on a line of its own. A watch gets the events back from
the bytes, and from the first of the bytes it gets the first of the events, wherever they are cut.
-/

namespace ResourceWatch

theorem EventType.check_name (type : EventType) :
    EventType.check (some (.str type.name)) = .ok type := by
  cases type <;> rfl

namespace Watch

/-- A line that spells an event, being just its type and its object in one order or the other. -/
structure Spells (line : Text) (event : WatchEvent) : Prop where
  formed : line.isWellFormed = true
  newline : 0x0A ∉ line
  carriage : line.getLast? ≠ some 0x0D
  value : ∃ members, Json.parse? line = some (.obj members) ∧
    (members = [(Text.ofString "type", .str event.type.name),
        (Text.ofString "object", .obj event.object)] ∨
      members = [(Text.ofString "object", .obj event.object),
        (Text.ofString "type", .str event.type.name)])

/-- The bytes of lines, each with its newline. -/
def ndjson (lines : List Text) : Bytes :=
  lines.flatMap fun line => Utf8.encode line ++ [0x0A]

variable {line : Text} {found : WatchEvent}

/-- An object without the member that would be its prototype. -/
def HasNoPrototype (object : Object) : Prop :=
  ∀ member ∈ object, member.1 ≠ Text.ofString "__proto__"

theorem record_of_hasNoPrototype {object : Object} (hobject : HasNoPrototype object) :
    Schema.record (some (.obj object)) = .ok object := by
  rw [Schema.record, Members.erase,
    List.filter_eq_self.mpr fun member hmember => by simpa using hobject member hmember]

/-- **A line is read as the event that it spells.** -/
theorem Spells.event_eq (hspells : Spells line found) (htype : found.type ≠ .error)
    (hobject : HasNoPrototype found.object) : event line = .ok found := by
  obtain ⟨members, hparse, hmembers⟩ := hspells.value
  have hrecord : Lines.record line = .ok (.obj members) := by rw [Lines.record, hparse]
  have hnames : Text.ofString "type" ≠ Text.ofString "__proto__" ∧
      Text.ofString "object" ≠ Text.ofString "__proto__" ∧
      (Text.ofString "object" == Text.ofString "type") = false ∧
      (Text.ofString "type" == Text.ofString "object") = false := by
    decide
  obtain ⟨htypeName, hobjectName, hforth, hback⟩ := hnames
  have hlookups : members.lookup (Text.ofString "type") = some (.str found.type.name) ∧
      members.lookup (Text.ofString "object") = some (.obj found.object) ∧
      HasNoPrototype members := by
    rcases hmembers with rfl | rfl <;>
      simp [HasNoPrototype, List.lookup_cons, htypeName, hobjectName, hforth, hback]
  obtain ⟨htypeMember, hobjectMember, hmembers⟩ := hlookups
  have hchecked : WatchEvent.check (some (.obj members)) = .ok found := by
    simp only [WatchEvent.check, record_of_hasNoPrototype hmembers, bind, Except.bind, Schema.field,
      htypeMember, hobjectMember, EventType.check_name, record_of_hasNoPrototype hobject]
    rfl
  simp only [event, hrecord, hchecked, bind, Except.bind]
  exact if_neg htype

theorem Spells.keep_eq (hspells : Spells line found) : Lines.keep [line] = [line] := by
  have hblank : (Text.trim line).isEmpty = false := by
    rw [Bool.eq_false_iff]
    intro hblank
    obtain ⟨members, hparse, -⟩ := hspells.value
    rw [Json.parse?_of_blank hblank] at hparse
    simp at hparse
  simp [Lines.keep, Lines.withoutReturn, hspells.carriage, hblank]

theorem Spells.not_mark (hspells : Spells line found) : line.head? ≠ some 0xFEFF := by
  intro hhead
  obtain ⟨rest, rfl⟩ := List.head?_eq_some_iff.mp hhead
  obtain ⟨members, hparse, -⟩ := hspells.value
  rw [Json.parse?_of_mark] at hparse
  simp at hparse

/-! ### Many lines -/

theorem decodePoints_ndjson (lines : List Text) :
    Utf8.decodePoints (ndjson lines) = lines.flatMap fun line => line.codePoints ++ [0x0A] := by
  induction lines with
  | nil => simp [ndjson, Utf8.decodePoints]
  | cons line rest ih =>
      have hscalar : Text.IsScalar 0x0A := Or.inl (by decide)
      calc
        Utf8.decodePoints (ndjson (line :: rest)) =
            Utf8.decodePoints (Utf8.encode line ++ (Utf8.encodePoint 0x0A ++ ndjson rest)) := by
          rw [ndjson, List.flatMap_cons, ← ndjson, List.append_assoc]
          rfl
        _ = line.codePoints ++ (0x0A :: Utf8.decodePoints (ndjson rest)) := by
          rw [Utf8.decodePoints_encode_append, Utf8.decodePoints_encodePoint_append hscalar]
        _ = (line :: rest).flatMap fun line => line.codePoints ++ [0x0A] := by
          rw [ih, List.flatMap_cons, List.append_assoc, List.singleton_append]

theorem decode_ndjson {lines : List Text} (hformed : ∀ line ∈ lines, line.isWellFormed = true)
    (hmark : ∀ line ∈ lines.head?, line.head? ≠ some 0xFEFF) :
    Utf8.decode (ndjson lines) = lines.flatMap (· ++ [0x0A]) := by
  have hkept : Utf8.dropMark (lines.flatMap fun line => line.codePoints ++ [0x0A]) =
      lines.flatMap fun line => line.codePoints ++ [0x0A] := by
    refine Utf8.dropMark_of_head ?_
    rcases lines with _ | ⟨line, rest⟩
    · simp
    · have hfirst := Utf8.head?_codePoints_ne_mark (hmark line rfl)
      rw [List.flatMap_cons, List.append_assoc]
      cases hpoints : line.codePoints with
      | nil => simp [Utf8.byteOrderMark]
      | cons point points => simpa [hpoints] using hfirst
  rw [Utf8.decode, decodePoints_ndjson, hkept]
  clear hkept hmark
  induction lines with
  | nil => rfl
  | cons line rest ih =>
      obtain ⟨hline, hrest⟩ := List.forall_mem_cons.mp hformed
      rw [List.flatMap_cons, List.flatMap_cons, Text.ofCodePoints_append, Text.ofCodePoints_append,
        Text.ofCodePoints_codePoints hline, ih hrest]
      rfl

/-- Events with the lines that spell them. -/
def AreSpelled (spelled : List (Text × WatchEvent)) : Prop :=
  ∀ pair ∈ spelled, Spells pair.1 pair.2 ∧ pair.2.type ≠ .error ∧ HasNoPrototype pair.2.object

theorem complete_ndjson {spelled : List (Text × WatchEvent)} (hspelled : AreSpelled spelled) :
    Lines.complete (Utf8.decode (ndjson (spelled.map Prod.fst))) = spelled.map Prod.fst := by
  have hspells {line : Text} (hline : line ∈ spelled.map Prod.fst) :
      ∃ event, Spells line event := by
    obtain ⟨pair, hpair, rfl⟩ := List.mem_map.mp hline
    exact ⟨pair.2, (hspelled pair hpair).1⟩
  rw [decode_ndjson fun line hline => (hspells hline).elim fun _ h => h.formed]
  · generalize spelled.map Prod.fst = lines at hspells
    induction lines with
    | nil => rfl
    | cons line rest ih =>
        obtain ⟨event, hline⟩ := hspells List.mem_cons_self
        rw [List.flatMap_cons, List.append_assoc, List.singleton_append,
          Lines.complete_line_append hline.newline, hline.keep_eq,
          ih fun hrest => hspells (List.mem_cons_of_mem _ hrest), List.singleton_append]
  · intro line hline
    exact (hspells (List.mem_of_mem_head? hline)).elim fun _ h => h.not_mark

theorem eventsOf_spelled {spelled : List (Text × WatchEvent)} (hspelled : AreSpelled spelled) :
    eventsOf (spelled.map Prod.fst) = spelled.map Prod.snd ∧
      refused? (spelled.map Prod.fst) = none := by
  induction spelled with
  | nil => exact ⟨rfl, rfl⟩
  | cons pair rest ih =>
      obtain ⟨⟨hspells, htype, hobject⟩, hrest⟩ := List.forall_mem_cons.mp hspelled
      obtain ⟨hevents, hrefused⟩ := ih hrest
      have hpair := hspells.event_eq htype hobject
      rw [List.map_cons, List.map_cons, eventsOf_cons hpair, refused?_cons hpair, hevents]
      exact ⟨rfl, hrefused⟩

/-- **From the first bytes come the first events.** -/
theorem eventsOf_of_isPrefix {spelled : List (Text × WatchEvent)} (hspelled : AreSpelled spelled)
    {bytes : Bytes} (hbytes : bytes <+: ndjson (spelled.map Prod.fst)) :
    eventsOf (Lines.complete (Utf8.decode bytes)) <+: spelled.map Prod.snd ∧
      refused? (Lines.complete (Utf8.decode bytes)) = none := by
  have hinitial := LineBuffer.complete_decode_isPrefix hbytes
  rw [complete_ndjson hspelled, List.prefix_iff_eq_take, ← List.map_take] at hinitial
  obtain ⟨hevents, hrefused⟩ := eventsOf_spelled fun pair hpair =>
    hspelled pair (List.mem_of_mem_take hpair)
  rw [hinitial]
  refine ⟨?_, hrefused⟩
  rw [hevents, List.map_take]
  exact List.take_prefix _ _

end Watch

end ResourceWatch
