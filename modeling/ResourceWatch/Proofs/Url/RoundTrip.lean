import ResourceWatch.Proofs.Framing
import ResourceWatch.Proofs.Url.Appending

/-!
# Reading a query that was written

Each name and each value of a query is read back as it was written, lone surrogates being replaced.
So the version that a watch asks for can be read off its URL.
-/

namespace ResourceWatch

namespace Percent

open Text

theorem hexValue?_upperHexDigit {value : Nat} (hvalue : value < 16) :
    hexValue? (upperHexDigit value) = some value := by
  revert value
  decide

theorem decode_cons_of_ne {u : UInt16} (hu : u ≠ 0x25) (rest : Text) :
    decode (u :: rest) = u.toUInt8 :: decode rest := by
  rcases rest with _ | ⟨second, _ | ⟨third, rest⟩⟩
  · rfl
  · rfl
  · rw [decode, if_neg hu]

theorem decode_escape_append (byte : UInt8) (rest : Text) :
    decode (escape byte ++ rest) = byte :: decode rest := by
  have hbyte := byte.toNat_lt
  have hvalue : 16 * (byte.toNat / 16) + byte.toNat % 16 = byte.toNat := by omega
  simp only [escape, List.cons_append, List.nil_append]
  rw [decode, if_pos rfl, hexValue?_upperHexDigit (by omega), hexValue?_upperHexDigit (by omega)]
  simp [hvalue, Nat.toUInt8]

theorem decode_flatMap_escape (bytes : Bytes) (rest : Text) :
    decode (bytes.flatMap escape ++ rest) = bytes ++ decode rest := by
  induction bytes with
  | nil => rfl
  | cons byte bytes ih =>
      rw [List.flatMap_cons, List.append_assoc, decode_escape_append, ih, List.cons_append]

theorem hasEscape_append (first : Text) {second : Text} (hsecond : hasEscape second = true) :
    hasEscape (first ++ second) = true := by
  induction first with
  | nil => exact hsecond
  | cons u rest ih => simp [hasEscape, ih]

theorem hasEscape_escape_append (byte : UInt8) (rest : Text) :
    hasEscape (escape byte ++ rest) = true := by
  have hbyte := byte.toNat_lt
  have hhigh : hexValue? (upperHexDigit (byte.toNat / 16)) = some (byte.toNat / 16) :=
    hexValue?_upperHexDigit (by omega)
  have hlow : hexValue? (upperHexDigit (byte.toNat % 16)) = some (byte.toNat % 16) :=
    hexValue?_upperHexDigit (by omega)
  simp [escape, hasEscape, isEscape, hhigh, hlow]

theorem decodeText_of_ascii {text : Text} (htext : ∀ u ∈ text, u.toNat < 0x80) :
    decodeText text = decode text := by
  have hbytes : (Utf8.encode text).map UInt8.toUInt16 = text := by
    rw [Utf8.encode, codePoints_of_lt fun u hu => Nat.lt_of_lt_of_le (htext u hu) (by decide)]
    induction text with
    | nil => rfl
    | cons u rest ih =>
        obtain ⟨hu, hrest⟩ := List.forall_mem_cons.mp htext
        have hunit : u.toNat.toUInt8.toUInt16 = u := by
          rw [← UInt16.toNat_inj, UInt8.toNat_toUInt16, Utf8.toNat_toUInt8 (by omega)]
        rw [List.map_cons, List.flatMap_cons, List.map_append, ih hrest, Utf8.encodePoint,
          if_pos hu]
        rw [List.map_cons, List.map_nil, hunit, List.singleton_append]
  rw [decodeText, hbytes]

end Percent

namespace Query

open Text

/-- A code point in a name or a value. -/
def encodePoint (point : Nat) : Text :=
  if point = 0x20 then [unit '+']
  else if isPlain point then [point.toUInt16]
  else (Utf8.encodePoint point).flatMap Percent.escape

theorem encodePart_eq (part : Text) : encodePart part = part.codePoints.flatMap encodePoint := rfl

/-- The text in which a plus sign is a space. -/
def space (part : Text) : Text :=
  part.map fun u => if u = unit '+' then unit ' ' else u

theorem space_append (first second : Text) :
    space (first ++ second) = space first ++ space second :=
  List.map_append

theorem of_isPlain {point : Nat} (hplain : isPlain point = true) :
    point.toUInt16 ≠ unit '+' ∧ point.toUInt16 ≠ 0x25 ∧ point.toUInt16.toUInt8 = point.toUInt8 ∧
      point < 0x80 ∧ ofCodePoint point = [point.toUInt16] := by
  have hlt := isPlain_lt hplain
  revert hplain
  revert point
  decide

theorem ne_plus_of_mem_escape {byte : UInt8} {u : UInt16} (hmem : u ∈ Percent.escape byte) :
    u ≠ unit '+' := by
  have hdigit : ∀ value, value < 16 → upperHexDigit value ≠ unit '+' := by decide
  have hbyte := byte.toNat_lt
  simp only [Percent.escape, List.mem_cons, List.not_mem_nil, or_false] at hmem
  rcases hmem with rfl | rfl | rfl
  · decide
  · exact hdigit _ (by omega)
  · exact hdigit _ (by omega)

theorem space_escape (byte : UInt8) : space (Percent.escape byte) = Percent.escape byte :=
  (List.map_congr_left fun _ hmem => if_neg (ne_plus_of_mem_escape hmem)).trans (List.map_id' _)

theorem space_flatMap_escape (bytes : Bytes) :
    space (bytes.flatMap Percent.escape) = bytes.flatMap Percent.escape := by
  induction bytes with
  | nil => rfl
  | cons byte bytes ih => rw [List.flatMap_cons, space_append, space_escape, ih]

theorem decode_space_encodePoint_append (point : Nat) (rest : Text) :
    Percent.decode (space (encodePoint point) ++ rest) =
      Utf8.encodePoint point ++ Percent.decode rest := by
  unfold encodePoint
  split
  · rename_i hspace
    have hplus : space [unit '+'] = [0x20] := by decide
    subst hspace
    rw [hplus, List.singleton_append, Percent.decode_cons_of_ne (by decide)]
    rfl
  split
  · rename_i hplain
    obtain ⟨hplus, hmark, hbyte, hlt, -⟩ := of_isPlain hplain
    have hsame : space [point.toUInt16] = [point.toUInt16] := by simp [space, hplus]
    rw [hsame, List.singleton_append, Percent.decode_cons_of_ne hmark, hbyte, Utf8.encodePoint,
      if_pos hlt, List.singleton_append]
  · rw [space_flatMap_escape, Percent.decode_flatMap_escape]

theorem decode_space_encodePart (part : Text) :
    Percent.decode (space (encodePart part)) = Utf8.encode part := by
  rw [encodePart_eq, Utf8.encode]
  induction part.codePoints with
  | nil => rfl
  | cons point points ih =>
      rw [List.flatMap_cons, space_append, decode_space_encodePoint_append, ih, List.flatMap_cons]

theorem space_encodePart_ascii (part : Text) : ∀ u ∈ space (encodePart part), u.toNat < 0x80 := by
  intro u hu
  obtain ⟨found, hfound, rfl⟩ := List.mem_map.mp hu
  split
  · decide
  · have hlt := isPartMark_lt (isPart_encodePart part found hfound)
    omega

/-- Where nothing was escaped, only the spaces were changed. -/
theorem space_flatMap_of_not_hasEscape {points : List Nat}
    (hescape : Percent.hasEscape ((points.flatMap encodePoint).filter (· ≠ unit '+')) = false) :
    space (points.flatMap encodePoint) = ofCodePoints points := by
  induction points with
  | nil => rfl
  | cons point points ih =>
      rw [List.flatMap_cons, List.filter_append] at hescape
      have hrest :
          Percent.hasEscape ((points.flatMap encodePoint).filter (· ≠ unit '+')) = false := by
        rw [Bool.eq_false_iff]
        intro htrue
        rw [Percent.hasEscape_append _ htrue] at hescape
        simp at hescape
      rw [List.flatMap_cons, space_append, ih hrest, ofCodePoints, ofCodePoints, List.flatMap_cons]
      congr 1
      unfold encodePoint at hescape ⊢
      split
      · rename_i hspace
        subst hspace
        decide
      split
      · rename_i hplain
        obtain ⟨hplus, -, -, -, hpoint⟩ := of_isPlain hplain
        simp [space, hplus, hpoint]
      · rename_i hspace hplain
        rw [if_neg hspace, if_neg hplain] at hescape
        have hne : ∃ byte bytes, Utf8.encodePoint point = byte :: bytes := by
          unfold Utf8.encodePoint
          split
          · exact ⟨_, _, rfl⟩
          split
          · exact ⟨_, _, rfl⟩
          split <;> exact ⟨_, _, rfl⟩
        obtain ⟨byte, bytes, hbytes⟩ := hne
        have hkept : (Percent.escape byte).filter (· ≠ unit '+') = Percent.escape byte := by
          exact List.filter_eq_self.mpr fun u hu => by simpa using ne_plus_of_mem_escape hu
        rw [hbytes, List.flatMap_cons, List.filter_append, hkept, List.append_assoc,
          Percent.hasEscape_escape_append] at hescape
        simp at hescape

theorem decodePart_eq (part : Text) :
    decodePart part =
      if !Percent.hasEscape (part.filter (· ≠ unit '+')) then space part
      else
        ofCodePoints (Utf8.decodePoints
          (if Percent.isExact (space part) && Utf8.isValid (Percent.decodeText (space part)) then
            Percent.decodeText (space part)
          else Percent.decode (space part))) := rfl

/-- **A name or a value is read back as it was written.** -/
theorem decodePart_encodePart (part : Text) : decodePart (encodePart part) = part.repair := by
  rw [decodePart_eq]
  split
  · rename_i hescape
    rw [encodePart_eq] at hescape ⊢
    exact space_flatMap_of_not_hasEscape (by simpa using hescape)
  · have hbytes : Percent.decodeText (space (encodePart part)) = Utf8.encode part := by
      rw [Percent.decodeText_of_ascii (space_encodePart_ascii part), decode_space_encodePart]
    have hpoints := Utf8.decodePoints_encode_append part []
    rw [List.append_nil] at hpoints
    rw [hbytes, decode_space_encodePart, ite_self, hpoints]
    simp [Utf8.decodePoints, repair]

theorem decodePair_writePair (pair : Text × Text) :
    decodePair (writePair pair) = (pair.1.repair, pair.2.repair) := by
  have hmem : unit '=' ∉ encodePart pair.1 := fun hmem => by
    have hmark := isPart_encodePart pair.1 _ hmem
    revert hmark
    decide
  simp [decodePair, writePair, cut_append, cut_of_not_mem hmem, cut, decodePart_encodePart]

/-- A query in which the lone surrogates are replaced. -/
def repair (query : Query) : Query :=
  query.map fun pair => (pair.1.repair, pair.2.repair)

theorem split_toText (query : Query) (hne : query ≠ []) :
    split (unit '&') query.toText = query.map writePair := by
  have hmem (pair : Text × Text) : unit '&' ∉ writePair pair := by
    intro hmem
    have hpart (part : Text) : unit '&' ∉ encodePart part := fun hmem => by
      have hmark := isPart_encodePart part _ hmem
      revert hmark
      decide
    rcases List.mem_append.mp hmem with hmem | hmem
    · exact hpart pair.1 hmem
    · rcases List.mem_cons.mp hmem with heq | hmem
      · exact absurd heq (by decide)
      · exact hpart pair.2 hmem
  induction query with
  | nil => exact absurd rfl hne
  | cons pair rest ih =>
      cases rest with
      | nil => rw [toText_singleton, split_of_not_mem (hmem pair), List.map_cons, List.map_nil]
      | cons next rest =>
          rw [toText_cons_cons, split_line_append (hmem pair), ih (by simp)]
          rfl

theorem repair_of_written {text : Text} (htext : IsWritten text) : text.repair = text :=
  repair_of_lt fun u hu => Nat.lt_trans (isMark_lt (htext u hu)) (by decide)

/-- In the text of a query there is no question mark to be dropped. -/
theorem parse_of_written {text : Text} (htext : IsWritten text) :
    parse text = ((split (unit '&') text).filter (!·.isEmpty)).map decodePair := by
  rw [parse, repair_of_written htext]
  rcases text with _ | ⟨first, rest⟩
  · rfl
  · have hfirst := (of_isMark (htext first List.mem_cons_self)).2.2.1
    have hne : ¬first = unit '?' := fun heq => hfirst (by rw [heq]; decide)
    simp [hne]

/-- **A query is read back as it was written.** -/
theorem parse_toText (query : Query) : parse query.toText = query.repair := by
  rw [parse_of_written (isWritten_toText query)]
  rcases hcases : query with _ | ⟨pair, rest⟩
  · simp [toText_nil, split, repair]
  · rw [← hcases]
    have hfull : (query.map writePair).filter (!·.isEmpty) = query.map writePair := by
      apply List.filter_eq_self.mpr
      intro piece hpiece
      obtain ⟨found, -, rfl⟩ := List.mem_map.mp hpiece
      simp [writePair]
    rw [split_toText query (by simp [hcases]), hfull, List.map_map, repair]
    exact List.map_congr_left fun found _ => decodePair_writePair found

end Query

namespace Text

/-- Text that comes out of a repair without a replacement was in order before. -/
theorem isWellFormed_of_repair {text : Text} (hmem : 0xFFFD ∉ text.codePoints) :
    text.isWellFormed = true := by
  fun_induction codePoints text with
  | case1 => rfl
  | case2 high hhigh low rest hlow ih =>
      simp only [List.mem_cons, not_or] at hmem
      simp [isWellFormed, hhigh, hlow, ih hmem.2]
  | case3 high hhigh low rest hlow ih => exact absurd List.mem_cons_self hmem
  | case4 high hhigh => exact absurd List.mem_cons_self hmem
  | case5 high rest hhigh hlow ih => exact absurd List.mem_cons_self hmem
  | case6 high rest hhigh hlow ih =>
      simp only [List.mem_cons, not_or] at hmem
      rw [isWellFormed.eq_def]
      simp [hhigh, hlow, ih hmem.2]

/-- No other text is repaired to ASCII. -/
theorem repair_eq_ascii_iff {text name : Text} (hname : ∀ u ∈ name, u.toNat < 0x80) :
    text.repair = name ↔ text = name := by
  constructor
  · intro hrepair
    have hmem : 0xFFFD ∉ text.codePoints := by
      intro hmem
      have hunit : 0xFFFD ∈ name := by
        rw [← hrepair]
        exact List.mem_flatMap.mpr ⟨0xFFFD, hmem, by decide⟩
      exact absurd (hname _ hunit) (by decide)
    have hsame : text.repair = text := ofCodePoints_codePoints (isWellFormed_of_repair hmem)
    rw [← hrepair, hsame]
  · rintro rfl
    exact repair_of_lt fun u hu => Nat.lt_trans (hname u hu) (by decide)

end Text

namespace Query

/-! ### Parameters -/

theorem lookup_repair (query : Query) {name : Text} (hname : ∀ u ∈ name, u.toNat < 0x80) :
    query.repair.lookup name = (query.lookup name).map Text.repair := by
  induction query with
  | nil => rfl
  | cons pair rest ih =>
      have hsame : (name == pair.1.repair) = (name == pair.1) := by
        rw [Bool.eq_iff_iff, beq_iff_eq, beq_iff_eq, eq_comm, Text.repair_eq_ascii_iff hname,
          eq_comm]
      rw [repair] at ih ⊢
      rw [List.map_cons, List.lookup_cons, List.lookup_cons, ih, hsame]
      cases name == pair.1 <;> rfl

theorem lookup_filter_of_ne (query : Query) {name other : Text} (hne : other ≠ name) :
    (query.filter (·.1 ≠ name)).lookup other = query.lookup other := by
  induction query with
  | nil => rfl
  | cons pair rest ih =>
      by_cases hpair : pair.1 = name
      · have hother : (other == pair.1) = false := by simp [hpair, hne]
        rw [List.filter_cons_of_neg (by simp [hpair]), ih, List.lookup_cons, hother]
      · rw [List.filter_cons_of_pos (by simp [hpair]), List.lookup_cons, List.lookup_cons, ih]

theorem lookup_set (query : Query) (name value : Text) :
    (query.set name value).lookup name = some value := by
  induction query with
  | nil => simp [set]
  | cons pair rest ih =>
      rw [set]
      split
      · simp
      · rename_i hpair
        have hother : (name == pair.1) = false := by simp [Ne.symm hpair]
        rw [List.lookup_cons, hother, ih]

theorem lookup_set_of_ne (query : Query) {name other : Text} (value : Text) (hne : other ≠ name) :
    (query.set name value).lookup other = query.lookup other := by
  induction query with
  | nil => simp [set, hne]
  | cons pair rest ih =>
      rw [set]
      split
      · rename_i hpair
        have hother : (other == name) = false := by simp [hne]
        rw [List.lookup_cons, List.lookup_cons, hpair, hother, lookup_filter_of_ne rest hne]
      · rw [List.lookup_cons, List.lookup_cons, ih]

end Query

/-! ### The version that a watch asks for -/

/-- The query of a request. It begins behind the last question mark, as the base of a URL may hold
another one. -/
def Request.query (request : Request) : Query :=
  match Url.cutLast? (Text.unit '?') request.url with
  | some (_, text) => Query.parse text
  | none => []

/-- The version that a request asks for. -/
def Request.version? (request : Request) : Option Text :=
  request.query.lookup (Text.ofString "resourceVersion")

theorem Url.cutLast?_append {mark : UInt16} {text : Text} (hmem : mark ∉ text) (before : Text) :
    cutLast? mark (before ++ mark :: text) = some (before, text) := by
  rw [cutLast?, List.reverse_append, List.reverse_cons, List.append_assoc, List.singleton_append,
    Text.cut_append, Text.cut_of_not_mem (by simpa using hmem)]
  simp [Text.cut]

namespace Watch

theorem query_of_build? {client : Client} {url : Text} {version : Option Text} {request : Request}
    (hrequest : client.build? .get (address client.watchTimeoutSeconds url version) {} =
      some request) :
    request.query = (addressQuery client.watchTimeoutSeconds url version).repair := by
  rw [build?_address, Option.map_eq_some_iff] at hrequest
  obtain ⟨base, hbase, rfl⟩ := hrequest
  obtain ⟨before, hbefore⟩ := client.mark_suffix_of_build? hbase
  have hmem : Text.unit '?' ∉ (addressQuery client.watchTimeoutSeconds url version).toText := by
    intro hmem
    have hmark := Query.isWritten_toText _ _ hmem
    revert hmark
    decide
  rw [Request.query, ← hbefore, List.append_assoc, List.singleton_append, Url.cutLast?_append hmem]
  exact Query.parse_toText _

theorem lookup_addressQuery (timeoutSeconds : Option Number) (url version : Text) :
    (addressQuery timeoutSeconds url (some version)).lookup (Text.ofString "resourceVersion") =
      some version := by
  cases timeoutSeconds with
  | none =>
      simp only [addressQuery, setAll, parameters, Option.map_some, Option.map_none,
        Option.toList_some, Option.toList_none, List.append_nil, List.foldl_cons, List.foldl_nil]
      exact Query.lookup_set _ _ _
  | some seconds =>
      have hne : Text.ofString "resourceVersion" ≠ Text.ofString "timeoutSeconds" := by
        decide
      simp only [addressQuery, setAll, parameters, Option.map_some, Option.toList_some,
        List.singleton_append, List.foldl_cons, List.foldl_nil]
      rw [Query.lookup_set_of_ne _ _ hne]
      exact Query.lookup_set _ _ _

/-- **A watch asks for the version that it is to begin at.** -/
theorem version?_of_build? {client : Client} {url version : Text} {request : Request}
    (hformed : version.isWellFormed = true)
    (hrequest : client.build? .get (address client.watchTimeoutSeconds url (some version)) {} =
      some request) :
    request.version? = some version := by
  have hall : ((Text.ofString "resourceVersion").all fun u => u < 0x80) = true := by decide +kernel
  have hname : ∀ u ∈ Text.ofString "resourceVersion", u.toNat < 0x80 := fun u hu => by
    simpa [UInt16.lt_iff_toNat_lt] using List.all_eq_true.mp hall u hu
  calc
    request.version? =
        (addressQuery client.watchTimeoutSeconds url (some version)).repair.lookup
          (Text.ofString "resourceVersion") := by
      rw [Request.version?, query_of_build? hrequest]
    _ = ((addressQuery client.watchTimeoutSeconds url (some version)).lookup
          (Text.ofString "resourceVersion")).map Text.repair := Query.lookup_repair _ hname
    _ = some version.repair := by rw [lookup_addressQuery, Option.map_some]
    _ = some version := by rw [Text.repair, Text.ofCodePoints_codePoints hformed]

end Watch

end ResourceWatch
