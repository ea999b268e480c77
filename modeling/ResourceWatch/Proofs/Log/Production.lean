import ResourceWatch.Log.Sink
import ResourceWatch.Proofs.Json
import ResourceWatch.Proofs.Json.RoundTrip

/-!
# Lines of JSON

A record that is written as JSON stands on one line and is read back from it: its message with every
unit, its properties with each error as an object. What a number cannot say in JSON is lost on the
way, and a record with a part that has no text is not written.
-/

namespace ResourceWatch

namespace Json

open Text

/-! ### What is left of a value -/

/-- What is written of a number: a zero without its sign, and nothing that is not finite. -/
def writtenNumber : Number → Json
  | .finite negative magnitude =>
    .num (.finite (negative && decide (magnitude.steps ≠ 0)) magnitude)
  | _ => .null

mutual

/-- What is written of a value. -/
def written : Json → Json
  | .null => .null
  | .bool value => .bool value
  | .num number => writtenNumber number
  | .str text => .str text
  | .arr items => .arr (writtenItems items)
  | .obj members => .obj (writtenMembers members)

def writtenItems : List Json → List Json
  | [] => []
  | item :: rest => written item :: writtenItems rest

def writtenMembers : Members → Members
  | [] => []
  | (key, value) :: rest => (key, written value) :: writtenMembers rest

end

theorem writtenItems_eq_map (items : List Json) : writtenItems items = items.map written := by
  induction items with
  | nil => rfl
  | cons item rest ih => rw [writtenItems, ih, List.map_cons]

theorem writtenMembers_eq_map (members : Members) :
    writtenMembers members = members.map fun member => (member.1, written member.2) := by
  induction members with
  | nil => rfl
  | cons member rest ih => rw [writtenMembers, ih, List.map_cons]

theorem print_writtenNumber (number : Number) : print (writtenNumber number) = print (.num number) := by
  cases number with
  | nan => rfl
  | infinite negative => rfl
  | finite negative magnitude =>
      by_cases hzero : magnitude.steps = 0
      · simp [writtenNumber, print, printNumber, Number.toText, hzero]
      · simp [writtenNumber, hzero]

mutual

/-- **A value is written as what is left of it.** -/
theorem print_written : ∀ value : Json, print (written value) = print value
  | .null | .bool _ | .str _ => rfl
  | .num number => print_writtenNumber number
  | .arr items => by rw [written, print, print, printItems_written items]
  | .obj members => by rw [written, print, print, printMembers_written members]

theorem printItems_written : ∀ items : List Json, printItems (writtenItems items) = printItems items
  | [] => rfl
  | [item] => print_written item
  | item :: next :: rest => by
      have hrest := printItems_written (next :: rest)
      rw [writtenItems] at hrest
      rw [writtenItems, writtenItems, printItems, printItems, print_written item, hrest]

theorem printMembers_written :
    ∀ members : Members, printMembers (writtenMembers members) = printMembers members
  | [] => rfl
  | [(key, value)] => by
      rw [writtenMembers, writtenMembers, printMembers, printMembers, print_written value]
  | (key, value) :: (other, next) :: rest => by
      have hrest := printMembers_written ((other, next) :: rest)
      rw [writtenMembers] at hrest
      rw [writtenMembers, writtenMembers, printMembers, printMembers, print_written value, hrest]

end

/-- The objects in a value are ordered, at all depths. -/
inductive IsOrderly : Json → Prop
  | null : IsOrderly .null
  | bool (value : Bool) : IsOrderly (.bool value)
  | num (number : Number) : IsOrderly (.num number)
  | str (text : Text) : IsOrderly (.str text)
  | arr {items : List Json} (hitems : ∀ item ∈ items, IsOrderly item) : IsOrderly (.arr items)
  | obj {members : Members} (hordered : members.IsOrdered)
      (hmembers : ∀ member ∈ members, IsOrderly member.2) : IsOrderly (.obj members)

theorem isValue_writtenNumber (number : Number) : IsValue (writtenNumber number) := by
  cases number with
  | nan => exact .null
  | infinite negative => exact .null
  | finite negative magnitude =>
      refine .num ?_
      by_cases hzero : magnitude.steps = 0
      · exact .inr (by simp [hzero])
      · exact .inl hzero

theorem IsOrderly.isValue_written {value : Json} (horderly : IsOrderly value) :
    IsValue (written value) := by
  induction horderly with
  | null => exact .null
  | bool value => exact .bool value
  | num number => exact isValue_writtenNumber number
  | str text => exact .str text
  | arr hitems ih =>
      rw [written, writtenItems_eq_map]
      exact .arr (List.forall_mem_map.mpr ih)
  | obj hordered hmembers ih =>
      rw [written, writtenMembers_eq_map]
      exact .obj (hordered.map fun member => rfl) (List.forall_mem_map.mpr ih)

/-- Of a value as JSON holds it nothing is lost. -/
theorem IsValue.written_eq {value : Json} (hvalue : IsValue value) : written value = value := by
  induction hvalue with
  | null => rfl
  | bool value => rfl
  | @num number hexact =>
      cases number with
      | nan => exact hexact.elim
      | infinite negative => exact hexact.elim
      | finite negative magnitude =>
          rcases hexact with hsteps | rfl
          · simp [written, writtenNumber, hsteps]
          · rfl
  | str text => rfl
  | arr hitems ih =>
      rw [written, writtenItems_eq_map, List.map_congr_left ih, List.map_id']
  | @obj members hordered hmembers ih =>
      have hself : members.map (fun member => (member.1, written member.2)) = members := by
        rw [List.map_congr_left fun member hmember => congrArg (Prod.mk member.1) (ih member hmember)]
        exact List.map_id' members
      rw [written, writtenMembers_eq_map, hself]

/-- A value is read back from a line. -/
theorem parse?_line {value : Json} (hvalue : IsValue value) :
    parse? (print value ++ [0x0A]) = some value := by
  have hlength : (print value).length ≤ (print value ++ [0x0A]).length + 1 := by
    rw [List.length_append]
    omega
  have hread := readValue?_print value hvalue hlength (ends_cons 0x0A [] (by decide))
  rw [parse?, hread]
  rfl

end Json

namespace Log

open Text

/-! ### Texts of messages -/

namespace Value

/-- A value without a text: an object with a member in the place of it, or an array that holds such
an object, however deep. -/
inductive IsTextless : Value → Prop
  | obj {members : List (Text × Value)} (hmember : (members.lookup textKey).isSome = true) :
      IsTextless (.obj members)
  | arr {items : List Value} {item : Value} (hmem : item ∈ items) (hitem : IsTextless item) :
      IsTextless (.arr items)

theorem isTextless_obj_iff {members : List (Text × Value)} :
    IsTextless (.obj members) ↔ (members.lookup textKey).isSome = true :=
  ⟨fun hobj => by cases hobj; assumption, .obj⟩

theorem isTextless_arr_iff {items : List Value} :
    IsTextless (.arr items) ↔ ∃ item ∈ items, IsTextless item := by
  constructor
  · intro harr
    cases harr with
    | arr hmem hitem => exact ⟨_, hmem, hitem⟩
  · rintro ⟨item, hmem, hitem⟩
    exact .arr hmem hitem

theorem objectText?_eq_none_iff {members : List (Text × Value)} :
    objectText? members = none ↔ IsTextless (.obj members) := by
  rw [objectText?, isTextless_obj_iff]
  split <;> simp_all

mutual

/-- **The values without a text** are those that stand in the way of one. -/
theorem text?_eq_none_iff : ∀ value : Value, text? value = none ↔ IsTextless value
  | .null | .bool _ | .num _ | .str _ | .error _ _ => by
      simp only [text?]
      exact iff_of_false (by simp) fun htextless => nomatch htextless
  | .arr items => by rw [text?, itemsText?_eq_none_iff items, isTextless_arr_iff]
  | .obj members => by rw [text?, objectText?_eq_none_iff]

theorem itemText?_eq_none_iff : ∀ value : Value, itemText? value = none ↔ IsTextless value
  | .null | .bool _ | .num _ | .str _ | .error _ _ => by
      simp only [itemText?]
      exact iff_of_false (by simp) fun htextless => nomatch htextless
  | .arr items => by rw [itemText?, itemsText?_eq_none_iff items, isTextless_arr_iff]
  | .obj members => by rw [itemText?, objectText?_eq_none_iff]

theorem itemsText?_eq_none_iff :
    ∀ items : List Value, itemsText? items = none ↔ ∃ item ∈ items, IsTextless item
  | [] => by simp [itemsText?]
  | [item] => by rw [itemsText?, itemText?_eq_none_iff item]; simp
  | item :: next :: rest => by
      have hitem := itemText?_eq_none_iff item
      have hrest := itemsText?_eq_none_iff (next :: rest)
      have hcons : (∃ value ∈ item :: next :: rest, IsTextless value) ↔
          IsTextless item ∨ ∃ value ∈ next :: rest, IsTextless value := by
        simp
      rw [itemsText?, hcons, ← hitem, ← hrest]
      cases itemText? item <;> cases itemsText? (next :: rest) <;> simp

end

end Value

/-- Each part of a message has its text. -/
def AreTexts (texts : List Text) (message : List Value) : Prop :=
  message.map Value.text? = texts.map some

theorem mapM_eq_some_iff {texts : List Text} {message : List Value} :
    message.mapM Value.text? = some texts ↔ AreTexts texts message := by
  unfold AreTexts
  induction message generalizing texts with
  | nil => cases texts <;> simp
  | cons part rest ih =>
      rw [List.mapM_cons, List.map_cons]
      cases texts with
      | nil =>
          cases part.text? <;> cases rest.mapM Value.text? <;> simp
      | cons text others =>
          rw [List.map_cons, List.cons.injEq, ← ih]
          cases part.text? <;> cases rest.mapM Value.text? <;> simp

theorem exists_areTexts {message : List Value} (htexts : ∀ part ∈ message, ¬part.IsTextless) :
    ∃ texts, AreTexts texts message := by
  induction message with
  | nil => exact ⟨[], rfl⟩
  | cons part rest ih =>
      obtain ⟨hpart, hrest⟩ := List.forall_mem_cons.mp htexts
      obtain ⟨texts, hothers⟩ := ih hrest
      obtain ⟨text, htext⟩ := Option.ne_none_iff_exists'.mp
        ((not_congr (Value.text?_eq_none_iff part)).mpr hpart)
      exact ⟨text :: texts, by rw [AreTexts, List.map_cons, List.map_cons, htext, hothers]⟩

/-! ### Lines -/

/-- The members that a record is read back with. -/
def entry (record : Record) (message : Text) (properties : Json) : Members :=
  [(ofString "timestamp", .str (Date.toText record.time)),
    (ofString "level", .str record.severity.name),
    (ofString "category", .str (joinedCategory record)), (ofString "message", .str message)] ++
    if record.properties.isEmpty then [] else [(ofString "properties", properties)]

/-- The properties of a record, with each error in them as an object. -/
def shown (record : Record) : Json :=
  .obj (Value.toMembers record.properties)

/-- A line that a record is read back from. -/
structure IsLineOf (record : Record) (message line : Text) : Prop where
  single : ∃ body, line = body ++ [0x0A] ∧ ∀ u ∈ body, 0x20 ≤ u.toNat
  read : Json.parse? line = some (.obj (entry record message (shown record).written))
  kept : Json.IsValue (shown record) → (shown record).written = shown record

theorem isOrdered_of_keys {members : Members}
    (hkeys : members.keys.Pairwise fun earlier later =>
      earlier ≠ later ∧ Members.precedes later earlier = false) : members.IsOrdered :=
  List.pairwise_map.mp hkeys

theorem isOrderly_entry (record : Record) (message : Text) {properties : Json}
    (horderly : properties.IsOrderly) : (Json.obj (entry record message properties)).IsOrderly := by
  refine .obj (isOrdered_of_keys ?_) fun member hmember => ?_
  · have hkeys : (entry record message properties).keys =
        ["timestamp", "level", "category", "message"].map ofString ++
          if record.properties.isEmpty then [] else ["properties"].map ofString := by
      unfold entry
      split <;> rfl
    rw [hkeys]
    split <;> decide
  · rcases List.mem_append.mp hmember with hfront | hlast
    · simp only [List.mem_cons, List.not_mem_nil, or_false] at hfront
      rcases hfront with rfl | rfl | rfl | rfl <;> exact .str _
    · split at hlast
      · cases hlast
      · rw [List.mem_singleton.mp hlast]
        exact horderly

theorem written_entry (record : Record) (message : Text) (properties : Json) :
    (Json.obj (entry record message properties)).written =
      .obj (entry record message properties.written) := by
  unfold entry
  split <;> rfl

theorem isLineOf_jsonLine {record : Record} (message : Text) (horderly : (shown record).IsOrderly) :
    IsLineOf record message (jsonLine record (Date.toText record.time) message) := by
  have hline : jsonLine record (Date.toText record.time) message =
      Json.print (Json.obj (entry record message (shown record))).written ++ [0x0A] := by
    rw [Json.print_written]
    rfl
  have hvalue := (isOrderly_entry record message horderly).isValue_written
  refine ⟨?_, ?_, Json.IsValue.written_eq⟩
  · rw [hline]
    exact ⟨_, rfl, (Json.isPrintable_print _).visible⟩
  · rw [hline, Json.parse?_line hvalue, written_entry]

/-- **A record that is written as JSON stands on one line and is read back from it**, if it has a date
and each part of its message has a text. -/
theorem lines_production {level : LogLevel} {record : Record} (hrouted : isRouted level record = true)
    (hdate : Date.isDate record.time = true) (htexts : ∀ part ∈ record.message, ¬part.IsTextless)
    (horderly : (shown record).IsOrderly) (before after : List Record) :
    ∃ texts line, AreTexts texts record.message ∧ IsLineOf record texts.flatten line ∧
      lines ⟨level, .production⟩ (before ++ record :: after) =
        lines ⟨level, .production⟩ before ++ line :: lines ⟨level, .production⟩ after := by
  obtain ⟨texts, hmessage⟩ := exists_areTexts htexts
  have hline : line? .production record =
      some (jsonLine record (Date.toText record.time) texts.flatten) := by
    rw [line?, if_pos hdate, Record.text?, mapM_eq_some_iff.mpr hmessage]
    rfl
  refine ⟨texts, _, hmessage, isLineOf_jsonLine texts.flatten horderly, ?_⟩
  rw [lines, lines, lines, List.filter_append, List.filterMap_append, List.filter_cons_of_pos hrouted,
    List.filterMap_cons_some hline]

/-- A record of a failure, with a line break in its message and an error in its properties. -/
def failureRecord : Record where
  time := 1700000000123
  severity := .error
  category := ["shoal", "test"]
  message := [.str "failed\n", .error "TypeError" "boom"]
  properties := [("error", .error "TypeError" "boom")]

theorem lines_production_failure :
    ∃ texts line, AreTexts texts failureRecord.message ∧
      IsLineOf failureRecord texts.flatten line ∧ lines ⟨.info, .production⟩ [failureRecord] = [line] := by
  have htexts : ∀ part ∈ failureRecord.message, ¬part.IsTextless := by
    simp only [failureRecord, List.forall_mem_cons]
    exact ⟨fun htextless => (nomatch htextless), fun htextless => (nomatch htextless), by simp⟩
  have horderly : (shown failureRecord).IsOrderly := by
    refine .obj (isOrdered_of_keys (by decide)) (List.forall_mem_singleton.mpr ?_)
    refine .obj (isOrdered_of_keys (by decide)) (List.forall_mem_cons.mpr ⟨.str _, ?_⟩)
    exact List.forall_mem_singleton.mpr (.str _)
  exact lines_production (by decide) (by decide) htexts horderly [] []

/-- A message has no text if a part of it has none. -/
theorem text?_eq_none_iff (record : Record) :
    record.text? = none ↔ ∃ part ∈ record.message, part.IsTextless := by
  rw [Record.text?, Option.map_eq_none_iff]
  constructor
  · intro hnone
    by_contra hall
    obtain ⟨texts, htexts⟩ := exists_areTexts fun part hpart htextless =>
      hall ⟨part, hpart, htextless⟩
    rw [mapM_eq_some_iff.mpr htexts] at hnone
    cases hnone
  · rintro ⟨part, hpart, htextless⟩
    rw [Option.eq_none_iff_forall_ne_some]
    intro texts hsome
    have htext : part.text? ∈ texts.map some := by
      rw [← mapM_eq_some_iff.mp hsome]
      exact List.mem_map_of_mem hpart
    rw [(Value.text?_eq_none_iff part).mpr htextless] at htext
    simp at htext

/-- Nothing is written of a record without a date, or with a part that has no text. -/
theorem line?_eq_none_iff (environment : Environment) (record : Record) :
    line? environment record = none ↔
      Date.isDate record.time = false ∨ ∃ part ∈ record.message, part.IsTextless := by
  rw [line?, ← text?_eq_none_iff]
  cases Date.isDate record.time <;> simp

theorem lines_of_line?_none {config : LoggingConfig} {record : Record}
    (hnone : line? config.environment record = none) : lines config [record] = [] := by
  rw [lines, List.filter_cons]
  split
  · rw [List.filterMap_cons_none hnone]
    rfl
  · rfl

/-- A record with this time, message and properties. -/
def plainRecord (time : Time) (message : List Value) (properties : List (Text × Value)) : Record :=
  ⟨time, .info, ["shoal"], message, properties⟩

/-- A zero that has a sign. -/
def signedZero : Number :=
  .ofSteps true 0 1

/-- **What is not written as it is**: a thrown object has a member in the way of its text, a time is too
far from the beginning of 1970, and a zero loses its sign. -/
theorem not_lines_of_textless :
    lines ⟨.debug, .production⟩ [plainRecord 0 [.obj [("toString", .num 1)]] []] = [] ∧
      lines ⟨.debug, .production⟩ [plainRecord 8640000000000001 [.str "late"] []] = [] ∧
        ∃ line, lines ⟨.debug, .production⟩
            [plainRecord 0 [.str "zero"] [("x", .num signedZero)]] = [line] ∧
          Json.parse? line ≠ some (.obj (entry (plainRecord 0 [.str "zero"]
            [("x", .num signedZero)]) "zero" (.obj [("x", .num signedZero)]))) := by
  refine ⟨lines_of_line?_none ?_, lines_of_line?_none ?_,
    jsonLine (plainRecord 0 [.str "zero"] [("x", .num signedZero)]) (Date.toText 0) "zero", rfl, ?_⟩
  · exact (line?_eq_none_iff _ _).mpr (.inr ⟨_, List.mem_singleton_self _, .obj rfl⟩)
  · exact (line?_eq_none_iff _ _).mpr (.inl rfl)
  · have horderly : (shown (plainRecord 0 [.str "zero"] [("x", .num signedZero)])).IsOrderly :=
      .obj (isOrdered_of_keys (by decide)) (List.forall_mem_singleton.mpr (.num _))
    have hread := (isLineOf_jsonLine (ofString "zero") horderly).read
    rw [show Date.toText 0 = Date.toText (plainRecord 0 [.str "zero"] [("x", .num signedZero)]).time
      from rfl, hread]
    decide +kernel

end Log

end ResourceWatch
