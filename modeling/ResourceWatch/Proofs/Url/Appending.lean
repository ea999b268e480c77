import ResourceWatch.Client
import ResourceWatch.Proofs.Encoding
import ResourceWatch.Watch.Address

/-!
# A query at the end of a URL

The text of a query is made of a few ASCII characters that mean nothing to the reader of a URL.
Behind the question mark that announces it, it is copied to the end of the normal form as it is, and
has no part in whether the URL makes a request. So the request of a watch can be told from its query
alone.
-/

namespace ResourceWatch

namespace Text

section Mark

variable {p : UInt16 → Bool} {mark : UInt16}

theorem dropWhile_append_cons (hmark : p mark = false) (first second : Text) :
    (first ++ mark :: second).dropWhile p = first.dropWhile p ++ mark :: second := by
  induction first with
  | nil => simp [hmark]
  | cons u rest ih =>
      rw [List.cons_append, List.dropWhile_cons, List.dropWhile_cons, ih]
      split <;> rfl

theorem takeWhile_append_cons (hmark : p mark = false) (first second : Text) :
    (first ++ mark :: second).takeWhile p = first.takeWhile p := by
  induction first with
  | nil => simp [hmark]
  | cons u rest ih => rw [List.cons_append, List.takeWhile_cons, List.takeWhile_cons, ih]

end Mark

theorem cut_of_not_mem {separator : UInt16} {text : Text} (hmem : separator ∉ text) :
    cut separator text = (text, none) := by
  induction text with
  | nil => rfl
  | cons u rest ih =>
      simp only [List.mem_cons, not_or] at hmem
      simp [cut, Ne.symm hmem.1, ih hmem.2]

theorem cut_cons_self (separator : UInt16) (text : Text) :
    cut separator (separator :: text) = ([], some text) := by
  simp [cut]

theorem cut_append (separator : UInt16) (first second : Text) :
    cut separator (first ++ second) =
      match cut separator first with
      | (before, some after) => (before, some (after ++ second))
      | (before, none) => (before ++ (cut separator second).1, (cut separator second).2) := by
  induction first with
  | nil => rfl
  | cons u rest ih =>
      simp only [List.cons_append, cut]
      split
      · rfl
      · rw [ih]
        rcases cut separator rest with ⟨before, after | _⟩ <;> rfl

end Text

namespace Query

/-- The characters that a name or a value is written with. -/
def isPartMark (point : Nat) : Bool :=
  isPlain point || point = 0x2B || point = 0x25

/-- The characters that the text of a query is made of. -/
def isMark (point : Nat) : Bool :=
  isPartMark point || point = 0x3D || point = 0x26

/-- A text that can be a name or a value in the text of a query. -/
def IsPart (text : Text) : Prop :=
  ∀ u ∈ text, isPartMark u.toNat = true

/-- A text that can be the text of a query. -/
def IsWritten (text : Text) : Prop :=
  ∀ u ∈ text, isMark u.toNat = true

theorem isPlain_lt {point : Nat} (hplain : isPlain point = true) : point < 0x7B := by
  simp [isPlain, Percent.among] at hplain
  omega

theorem isPartMark_lt {point : Nat} (hmark : isPartMark point = true) : point < 0x7B := by
  simp only [isPartMark, Bool.or_eq_true, decide_eq_true_eq] at hmark
  rcases hmark with (hplain | h) | h
  · exact isPlain_lt hplain
  all_goals omega

theorem isMark_lt {point : Nat} (hmark : isMark point = true) : point < 0x7B := by
  simp only [isMark, Bool.or_eq_true, decide_eq_true_eq] at hmark
  rcases hmark with (hpart | h) | h
  · exact isPartMark_lt hpart
  all_goals omega

theorem of_isMark {point : Nat} (hmark : isMark point = true) :
    0x20 < point ∧ point ≠ 0x23 ∧ point ≠ 0x3F ∧ Percent.specialQuery point = false ∧
      Percent.fragment point = false := by
  have hlt := isMark_lt hmark
  revert hmark
  revert point
  decide

theorem isPart_cons {u : UInt16} {text : Text} :
    IsPart (u :: text) ↔ isPartMark u.toNat = true ∧ IsPart text :=
  List.forall_mem_cons

theorem isPart_flatMap {α : Type} {f : α → Text} {items : List α}
    (hitems : ∀ item ∈ items, IsPart (f item)) : IsPart (items.flatMap f) := fun u hu => by
  obtain ⟨item, hitem, hu⟩ := List.mem_flatMap.mp hu
  exact hitems item hitem u hu

theorem isPart_escape (byte : UInt8) : IsPart (Percent.escape byte) := by
  have hdigit : ∀ value, value < 16 → isPartMark (Text.upperHexDigit value).toNat = true := by
    decide
  have hbyte := byte.toNat_lt
  simp only [Percent.escape, isPart_cons]
  refine ⟨by decide, hdigit _ (by omega), hdigit _ (by omega), ?_⟩
  simp [IsPart]

theorem isPart_encodePart (part : Text) : IsPart (encodePart part) := by
  apply isPart_flatMap
  intro point _
  split
  · exact isPart_cons.mpr ⟨by decide, by simp [IsPart]⟩
  · split
    · rename_i hplain
      have hlt := isPlain_lt hplain
      refine isPart_cons.mpr ⟨?_, by simp [IsPart]⟩
      rw [Nat.toUInt16, UInt16.toNat_ofNat', Nat.mod_eq_of_lt (by omega)]
      simp [isPartMark, hplain]
    · exact isPart_flatMap fun byte _ => isPart_escape byte

/-- How a pair is written. -/
def writePair (pair : Text × Text) : Text :=
  encodePart pair.1 ++ Text.unit '=' :: encodePart pair.2

theorem toText_nil : toText [] = [] := rfl

theorem toText_singleton (pair : Text × Text) : toText [pair] = writePair pair := by
  simp [toText, Text.join, writePair]

theorem toText_cons_cons (pair next : Text × Text) (rest : Query) :
    toText (pair :: next :: rest) = writePair pair ++ Text.unit '&' :: toText (next :: rest) := by
  simp [toText, Text.join, writePair]

theorem isWritten_nil : IsWritten [] := by simp [IsWritten]

theorem IsWritten.append {first second : Text} (hfirst : IsWritten first)
    (hsecond : IsWritten second) : IsWritten (first ++ second) := fun u hu =>
  (List.mem_append.mp hu).elim (hfirst u) (hsecond u)

theorem isWritten_cons {u : UInt16} {text : Text} :
    IsWritten (u :: text) ↔ isMark u.toNat = true ∧ IsWritten text :=
  List.forall_mem_cons

theorem IsPart.isWritten {text : Text} (hpart : IsPart text) : IsWritten text := fun u hu => by
  simp [isMark, hpart u hu]

theorem isWritten_writePair (pair : Text × Text) : IsWritten (writePair pair) :=
  (isPart_encodePart pair.1).isWritten.append
    (isWritten_cons.mpr ⟨by decide, (isPart_encodePart pair.2).isWritten⟩)

theorem isWritten_toText (query : Query) : IsWritten query.toText := by
  induction query with
  | nil => exact toText_nil ▸ isWritten_nil
  | cons pair rest ih =>
      cases rest with
      | nil => exact toText_singleton pair ▸ isWritten_writePair pair
      | cons next rest =>
          rw [toText_cons_cons]
          exact (isWritten_writePair pair).append (isWritten_cons.mpr ⟨by decide, ih⟩)

end Query

namespace Percent

theorem encode_eq_self {escaped : Nat → Bool} {text : Text}
    (htext : ∀ u ∈ text, u.toNat < 0xD800 ∧ escaped u.toNat = false) :
    encode escaped text = text := by
  rw [encode, Text.codePoints_of_lt fun u hu => (htext u hu).1]
  induction text with
  | nil => rfl
  | cons u rest ih =>
      obtain ⟨⟨hlt, hescaped⟩, hrest⟩ := List.forall_mem_cons.mp htext
      have hpoint : u.toNat < 0x10000 := by omega
      rw [List.map_cons, List.flatMap_cons, ih hrest]
      simp [hescaped, Text.ofCodePoint, hpoint, Nat.toUInt16]

theorem encode_append {escaped : Nat → Bool} (first : Text) {second : Text}
    (hsecond : ∀ u ∈ second, u.toNat < 0xD800 ∧ escaped u.toNat = false) :
    encode escaped (first ++ second) = encode escaped first ++ second := by
  have hlow : ∀ u ∈ second.head?, Text.isLowSurrogate u = false := by
    intro u hu
    have hlt := (hsecond u (List.mem_of_mem_head? hu)).1
    rw [Bool.eq_false_iff, ne_eq, Text.isLowSurrogate_iff]
    omega
  rw [encode, Text.codePoints_append first hlow, List.flatMap_append, ← encode, ← encode,
    encode_eq_self hsecond]

end Percent

namespace Query

/-- A query holds no hash, so that it does not begin a fragment. -/
theorem IsWritten.cut_hash {query : Text} (hquery : IsWritten query) :
    Text.cut (Text.unit '#') (Text.unit '?' :: query) = (Text.unit '?' :: query, none) := by
  apply Text.cut_of_not_mem
  intro hmem
  rcases List.mem_cons.mp hmem with heq | hmem
  · exact absurd heq (by decide)
  · exact (of_isMark (hquery _ hmem)).2.1 (by decide)

theorem IsWritten.percentEncode_append {query : Text} (hquery : IsWritten query)
    (escaped : Nat → Bool) (hescaped : ∀ u ∈ query, escaped u.toNat = false) (text : Text) :
    Percent.encode escaped (text ++ query) = Percent.encode escaped text ++ query := by
  refine Percent.encode_append text fun u hu => ⟨?_, hescaped u hu⟩
  have hlt := isMark_lt (hquery u hu)
  omega

end Query

namespace Url

open Query (isWritten_nil)

variable {front query : Text}

/-- Text without the blanks in front and without the units that a URL never keeps. -/
def cleanFront (front : Text) : Text :=
  (front.dropWhile (· ≤ 0x20)).filter fun u => !(u = 0x09 || u = 0x0A || u = 0x0D)

/-- Text without blanks is kept, also what follows behind it. -/
theorem dropWhile_blanks_append {tail : Text} (hne : tail ≠ []) (hdark : ∀ u ∈ tail, 0x20 < u.toNat)
    (front : Text) : (front ++ tail).dropWhile (· ≤ 0x20) = front.dropWhile (· ≤ 0x20) ++ tail := by
  obtain ⟨mark, rest, rfl⟩ := List.exists_cons_of_ne_nil hne
  have hmark := hdark mark List.mem_cons_self
  apply Text.dropWhile_append_cons
  simp [UInt16.le_iff_toNat_le]
  omega

theorem cleanFront_append (front : Text) {tail : Text} (hne : tail ≠ [])
    (hdark : ∀ u ∈ tail, 0x20 < u.toNat) : cleanFront (front ++ tail) = cleanFront front ++ tail := by
  have hkept : tail.filter (fun u => !(u = 0x09 || u = 0x0A || u = 0x0D)) = tail := by
    apply List.filter_eq_self.mpr
    intro u hu
    have hu := hdark u hu
    simp only [← UInt16.toNat_inj]
    simp
    omega
  rw [cleanFront, dropWhile_blanks_append hne hdark, List.filter_append, hkept, cleanFront]

theorem clean_append (front : Text) {tail : Text} (hne : tail ≠ [])
    (hdark : ∀ u ∈ tail, 0x20 < u.toNat) : clean (front ++ tail) = cleanFront front ++ tail := by
  have hlast : ((front ++ tail).dropWhile (· ≤ 0x20)).reverse.dropWhile (· ≤ 0x20) =
      ((front ++ tail).dropWhile (· ≤ 0x20)).reverse := by
    rw [dropWhile_blanks_append hne hdark, List.reverse_append]
    rcases hends : tail.reverse with _ | ⟨last, behind⟩
    · exact absurd (List.reverse_eq_nil_iff.mp hends) hne
    · have hmem : last ∈ tail := by
        rw [← List.mem_reverse, hends]
        exact List.mem_cons_self
      have hlast := hdark last hmem
      rw [List.cons_append, List.dropWhile_cons_of_neg]
      simp [UInt16.le_iff_toNat_le]
      omega
  rw [← cleanFront_append front hne hdark, clean, hlast, List.reverse_reverse, cleanFront]

theorem clean_append_query (front : Text) (hquery : Query.IsWritten query) :
    clean (front ++ Text.unit '?' :: query) = cleanFront front ++ Text.unit '?' :: query := by
  refine clean_append front (List.cons_ne_nil _ _) (List.forall_mem_cons.mpr ⟨by decide, fun u hu => ?_⟩)
  exact (Query.of_isMark (hquery u hu)).1

theorem scheme?_append_cons {mark : UInt16} (hmark : isSchemeUnit mark = false)
    (hcolon : mark ≠ Text.unit ':') (front rest : Text) :
    scheme? (front ++ mark :: rest) =
      (scheme? front).map fun (scheme, behind) => (scheme, behind ++ mark :: rest) := by
  cases front with
  | nil =>
      have hletter : Text.isLetter mark = false := by
        simp only [isSchemeUnit, Bool.or_eq_false_iff] at hmark
        exact hmark.1.1.1.1
      simp [scheme?, hletter]
  | cons first front =>
      have hdrop := Text.dropWhile_append_cons hmark (first :: front) rest
      have htake := Text.takeWhile_append_cons hmark (first :: front) rest
      rw [List.cons_append] at hdrop htake ⊢
      rw [scheme?, scheme?, hdrop, htake]
      split
      · rcases (first :: front).dropWhile isSchemeUnit with _ | ⟨colon, behind⟩
        · simp [hcolon]
        · simp only [List.cons_append]
          split <;> rfl
      · rfl

theorem scheme?_append_query (front query : Text) :
    scheme? (front ++ Text.unit '?' :: query) =
      (scheme? front).map fun (scheme, rest) => (scheme, rest ++ Text.unit '?' :: query) :=
  scheme?_append_cons (by decide) (by decide) front query

/-- The URL with more text at its end. -/
def extend (query : Text) (url : Url) : Url :=
  match url.fragment with
  | some fragment => { url with fragment := some (fragment ++ query) }
  | none => { url with query := url.query.map (· ++ query) }

theorem parse?_append_query (front : Text) (hquery : Query.IsWritten query) :
    parse? (front ++ Text.unit '?' :: query) =
      (parse? (front ++ [Text.unit '?'])).map (extend query) := by
  rw [parse?, parse?, clean_append_query front hquery, clean_append_query front isWritten_nil,
    scheme?_append_query, scheme?_append_query]
  rcases scheme? (cleanFront front) with _ | ⟨scheme, rest⟩
  · rfl
  · have hescaped := hquery.percentEncode_append
      (if isSpecial scheme then Percent.specialQuery else Percent.query) fun u hu => by
        have hspecial := (Query.of_isMark (hquery u hu)).2.2.2.1
        split
        · exact hspecial
        · simp only [Percent.specialQuery, Bool.or_eq_false_iff] at hspecial
          exact hspecial.1
    simp only [Option.map_some, Option.bind_eq_bind, Option.bind_some]
    rcases hcut : Text.cut (Text.unit '#') rest with ⟨before, _ | fragment⟩
    · simp only [Text.cut_append (Text.unit '#') rest, hcut, hquery.cut_hash, isWritten_nil.cut_hash]
      simp only [Text.cut_append (Text.unit '?') before, Text.cut_cons_self]
      rcases Text.cut (Text.unit '?') before with ⟨path, _ | found⟩
      · have hnothing := hescaped []
        simp only [List.append_nil]
        cases hierarchy? scheme path with
        | none => rfl
        | some url => simpa [extend] using hnothing
      · have hfound := hescaped (found ++ [Text.unit '?'])
        cases hierarchy? scheme path with
        | none => rfl
        | some url => simpa [extend] using hfound
    · simp only [Text.cut_append (Text.unit '#') rest, hcut]
      rcases Text.cut (Text.unit '?') before with ⟨path, found⟩
      have hfound := hquery.percentEncode_append _
        (fun u hu => (Query.of_isMark (hquery u hu)).2.2.2.2) (fragment ++ [Text.unit '?'])
      cases hierarchy? scheme path with
      | none => rfl
      | some url => simpa [extend] using hfound

/-- The written form ends with the query or, if there is one, with the fragment. -/
theorem query_suffix_toText {url : Url} {query : Text} (hfragment : url.fragment = none)
    (hquery : url.query = some query) : Text.unit '?' :: query <:+ url.toText := by
  refine ⟨url.scheme ++ Text.unit ':' :: (url.authorityText ++ url.pathMark ++ pathText url.path),
    ?_⟩
  simp [toText, hfragment, hquery]

theorem fragment_suffix_toText {url : Url} {fragment : Text}
    (hfragment : url.fragment = some fragment) : fragment <:+ url.toText := by
  rw [toText, hfragment]
  exact (List.suffix_cons _ fragment).trans ((List.suffix_append _ _).trans
    ((List.suffix_cons _ _).trans (List.suffix_append _ _)))

/-- Behind a question mark a URL ends with a query or a fragment, and with that mark. -/
theorem of_parse?_mark {url : Url} (hurl : parse? (front ++ [Text.unit '?']) = some url) :
    (url.fragment = none → url.query.isSome = true) ∧
      [Text.unit '?'] <:+ url.toText := by
  rw [parse?, clean_append_query front isWritten_nil, scheme?_append_query] at hurl
  simp only [Option.bind_eq_bind, Option.bind_eq_some_iff, Option.map_eq_some_iff, Option.pure_def,
    Option.some.injEq] at hurl
  obtain ⟨_, ⟨⟨scheme, rest⟩, -, rfl⟩, found, -, rfl⟩ := hurl
  have hkept (escaped : Nat → Bool) (text : Text) (hescaped : escaped 0x3F = false) :
      Percent.encode escaped (text ++ [Text.unit '?']) =
        Percent.encode escaped text ++ [Text.unit '?'] := by
    refine Percent.encode_append text fun u hu => ?_
    rw [List.mem_singleton.mp hu]
    exact ⟨by decide, hescaped⟩
  have hescaped :
      (if isSpecial scheme then Percent.specialQuery else Percent.query) 0x3F = false := by
    split <;> decide
  rcases hcut : Text.cut (Text.unit '#') rest with ⟨before, _ | fragment⟩
  · simp only [Text.cut_append (Text.unit '#') rest, hcut, isWritten_nil.cut_hash,
      Text.cut_append (Text.unit '?') before, Text.cut_cons_self]
    rcases Text.cut (Text.unit '?') before with ⟨path, _ | query⟩
    · exact ⟨fun _ => rfl, query_suffix_toText rfl rfl⟩
    · refine ⟨fun _ => rfl, List.IsSuffix.trans ?_ (query_suffix_toText rfl rfl)⟩
      rw [hkept _ query hescaped, ← List.cons_append]
      exact List.suffix_append _ _
  · simp only [Text.cut_append (Text.unit '#') rest, hcut]
    refine ⟨by simp, List.IsSuffix.trans ?_ (fragment_suffix_toText rfl)⟩
    rw [hkept _ fragment (by decide)]
    exact List.suffix_append _ _

theorem toText_extend {url : Url} (hurl : url.fragment = none → url.query.isSome = true)
    (query : Text) : (extend query url).toText = url.toText ++ query := by
  cases hfragment : url.fragment with
  | some fragment =>
      simp [extend, hfragment, toText, authorityText, pathMark, hasCredentials]
  | none =>
      obtain ⟨found, hfound⟩ := Option.isSome_iff_exists.mp (hurl hfragment)
      simp [extend, hfragment, hfound, toText, authorityText, pathMark, hasCredentials]

theorem hasCredentials_extend (query : Text) (url : Url) :
    (extend query url).hasCredentials = url.hasCredentials := by
  unfold extend
  split <;> rfl

end Url

namespace Client

variable {query : Text}

theorem isAbsolute_append_query (front query : Text) :
    isAbsolute (front ++ Text.unit '?' :: query) = isAbsolute front := by
  have hslash : ¬Text.unit '?' = Text.unit '/' := by decide
  rw [isAbsolute, isAbsolute, Url.scheme?_append_query]
  rcases Url.scheme? front with _ | ⟨scheme, _ | ⟨first, _ | ⟨second, rest⟩⟩⟩
  · rfl
  · cases query <;> simp [hslash]
  · simp [hslash]
  · rfl

theorem resolve_append_query (client : Client) (front query : Text) :
    client.resolve (front ++ Text.unit '?' :: query) =
      client.resolve front ++ Text.unit '?' :: query := by
  rw [resolve, resolve, isAbsolute_append_query]
  split
  · rfl
  · rw [List.append_assoc]

/-- **A query has no part in whether a request is built.** It stands at the end of the request's
URL. -/
theorem build?_append_query (client : Client) (method : Method) (front : Text)
    (options : RequestOptions) (hquery : Query.IsWritten query) :
    client.build? method (front ++ Text.unit '?' :: query) options =
      (client.build? method (front ++ [Text.unit '?']) options).map fun request =>
        { request with url := request.url ++ query } := by
  rw [build?, build?, resolve_append_query, resolve_append_query,
    Url.parse?_append_query _ hquery]
  cases Headers.setAll? [] (client.fields method options) with
  | none => rfl
  | some headers =>
      cases hurl : Url.parse? (client.resolve front ++ [Text.unit '?']) with
      | none => rfl
      | some url =>
          simp only [Option.map_some, Option.bind_eq_bind, Option.bind_some,
            Url.hasCredentials_extend, Url.toText_extend (Url.of_parse?_mark hurl).1]
          split <;> rfl

theorem mark_suffix_of_build? (client : Client) {method : Method} {front : Text}
    {options : RequestOptions} {request : Request}
    (hrequest : client.build? method (front ++ [Text.unit '?']) options = some request) :
    [Text.unit '?'] <:+ request.url := by
  rw [build?, resolve_append_query] at hrequest
  simp only [Option.bind_eq_bind, Option.bind_eq_some_iff] at hrequest
  obtain ⟨_, -, parsed, hparsed, hrequest⟩ := hrequest
  split at hrequest
  · simp at hrequest
  · rw [Option.some.injEq] at hrequest
    rw [← hrequest]
    exact (Url.of_parse?_mark hparsed).2

end Client

namespace Watch

/-- The query of the URL of a watch. -/
def addressQuery (timeoutSeconds : Option Number) (url : Text) (version : Option Text) : Query :=
  setAll (Query.parse ((Text.cut (Text.unit '?') url).2.getD [])) (parameters version timeoutSeconds)

theorem build?_address (client : Client) (url : Text) (version : Option Text) :
    client.build? .get (address client.watchTimeoutSeconds url version) {} =
      (client.build? .get ((Text.cut (Text.unit '?') url).1 ++ [Text.unit '?']) {}).map
        fun request => { request with
          url := request.url ++ (addressQuery client.watchTimeoutSeconds url version).toText } :=
  client.build?_append_query .get _ {} (Query.isWritten_toText _)

end Watch

end ResourceWatch
